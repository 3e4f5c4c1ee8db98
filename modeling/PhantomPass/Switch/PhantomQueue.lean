import PhantomPass.Lib.Fluid
import PhantomPass.Switch.DestHash
import Mathlib

/-! The phantom queue of a port drains when a packet leaves, for all the time
since the last one. Set against a queue that gets the same bytes and drains
continuously. -/

set_option autoImplicit false

namespace PhantomPass.Switch.DestHashClassifier

open Lib.Fluid

def drainRate (c : DestHashClassifier) : ℚ := c.rho * c.lineRateGbps * 125000000

def rules (c : DestHashClassifier) : Rules ℚ := ⟨c.drainRate, c.limit⟩

/-- The bytes that a packet adds where it enters, and where it leaves. -/
def entering (p : Packet) : ℚ := if p.hdr.msgType = .grant then p.hdr.credit else 0

def leaving (p : Packet) : ℚ := if counts p.hdr then p.size else 0

def flow? (label : ℤ) : Touch → Option (Flow ℚ)
  | .enter l p now => if l = label then some ⟨now, entering p, false⟩ else none
  | .leave l p now _ => if l = label then some ⟨now, leaving p, true⟩ else none

def flows (label : ℤ) (touches : List Touch) : List (Flow ℚ) := touches.filterMap (flow? label)

/-- The queue that gets what a port's phantom queue gets, at the same instants,
and drains continuously: from the start when that is given, otherwise from the
first packet that leaves. -/
def continuous (c : DestHashClassifier) (start : Option Time) (label : ℤ) (touches : List Touch) : Level ℚ :=
  (flows label touches).foldl (Level.step c.rules) ⟨0, start⟩

/-- Touches in the order of their times, none leaving at time 0, which the
source takes for never, and no GRANT with negative credit. -/
structure Timed (touches : List Touch) : Prop where
  ordered : (touches.map Touch.time).Pairwise (· ≤ ·)
  leaves : ∀ x ∈ touches, x.leaves = true → x.time ≠ 0
  credit : ∀ x ∈ touches, 0 ≤ x.packet.hdr.credit

structure StandsFor (status : PPassPortStatus ℚ) (q : Late ℚ) : Prop where
  pqlen : status.pqlen = q.length
  never : q.last = none → status.lastTime = 0
  last : ∀ last ∈ q.last, last ≠ 0 ∧ status.lastTime = last

variable {c : DestHashClassifier} {label : ℤ}

theorem delta_eq (c : DestHashClassifier) (time : Time) : c.delta time = c.drainRate * time := by
  unfold delta drainRate
  ring

theorem StandsFor.delta {status : PPassPortStatus ℚ} {q : Late ℚ} (stands : StandsFor status q) (now : Time) :
    c.delta (interval status now) = c.rules.drain q.last now := by
  rw [delta_eq]
  cases before : q.last with
  | none => simp [interval, stands.never before, Rules.drain]
  | some last =>
    obtain ⟨used, same⟩ := stands.last last before
    simp [interval, same, used, Rules.drain, rules]

theorem StandsFor.compared {status : PPassPortStatus ℚ} {q : Late ℚ} (stands : StandsFor status q) (p : Packet)
    (now : Time) : c.compared exact status p now = q.left c.rules ⟨now, leaving p, true⟩ := by
  have sum : (if counts p.hdr then exact.add status.pqlen p.size else status.pqlen) = q.length + leaving p := by
    rw [stands.pqlen, leaving]
    split <;> simp [exact]
  have drain : exact.ofDrain (c.delta (interval status now)) = c.rules.drain q.last now := stands.delta now
  simp only [DestHashClassifier.compared, sum, drain, Late.left]
  rcases lt_or_ge (q.length + leaving p) (c.rules.drain q.last now) with short | enough
  · rw [if_pos short]
    exact (max_eq_left (by linarith)).symm
  · rw [if_neg (not_lt.mpr enough)]
    exact (max_eq_right (by linarith)).symm

theorem StandsFor.touch {ports : Ports ℚ} {q : Late ℚ} (stands : StandsFor (ports label) q) (x : Touch)
    (leaves : x.leaves = true → x.time ≠ 0) :
    StandsFor ((c.touch exact ports x).1 label) ((flow? label x).toList.foldl (Late.step c.rules) q) := by
  cases x with
  | enter l p now =>
    by_cases here : l = label
    · subst here
      simp only [DestHashClassifier.touch, flow?, if_true, Option.toList_some, List.foldl_cons, List.foldl_nil,
        Function.update_self]
      refine ⟨?_, stands.never, stands.last⟩
      have sum : (if p.hdr.msgType = .grant then exact.add (ports l).pqlen p.hdr.credit else (ports l).pqlen) =
          q.length + entering p := by
        rw [stands.pqlen, entering]
        split <;> simp [exact]
      simp only [ppassIngress, Late.step, Bool.false_eq_true, if_false, sum, min_comm]
      rfl
    · simpa [DestHashClassifier.touch, flow?, here, Ne.symm here] using stands
  | leave l p now egressQlen =>
    by_cases here : l = label
    · subst here
      simp only [DestHashClassifier.touch, flow?, if_true, Option.toList_some, List.foldl_cons, List.foldl_nil,
        Function.update_self]
      refine ⟨?_, fun never => by simp [Late.step] at never, fun last mem => ?_⟩
      · simp only [ppassEgress, Late.step, if_true, stands.compared, min_comm]
        rfl
      · simp only [Late.step, if_true, Option.mem_def, Option.some.injEq] at mem
        subst mem
        exact ⟨leaves rfl, rfl⟩
    · simpa [DestHashClassifier.touch, flow?, here, Ne.symm here] using stands

theorem StandsFor.run (touches : List Touch) {ports : Ports ℚ} {q : Late ℚ} (stands : StandsFor (ports label) q)
    (leaves : ∀ x ∈ touches, x.leaves = true → x.time ≠ 0) :
    StandsFor ((c.run exact ports touches).1 label) ((flows label touches).foldl (Late.step c.rules) q) := by
  -- each touch moves the status and the abstract queue alike
  induction touches generalizing ports q with
  | nil => exact stands
  | cons x touches ih =>
    have next := ih (stands.touch (c := c) x (leaves x (by simp))) fun y mem => leaves y (by simp [mem])
    have split : flows label (x :: touches) = (flow? label x).toList ++ flows label touches := by
      simp only [flows, List.filterMap_cons]
      cases flow? label x <;> rfl
    rw [split, List.foldl_append]
    exact next

theorem StandsFor.fresh (label : ℤ) : StandsFor (Ports.fresh (α := ℚ) label) Pair.empty.late :=
  ⟨rfl, fun _ => rfl, fun _ mem => by cases mem⟩

theorem Timed.along {touches : List Touch} (timed : Timed touches) {gap : Time}
    (gaps : (leavings (flows label touches)).IsChain fun s t => t - s ≤ gap) :
    (Pair.empty (K := ℚ)).Along c.rules (Admits gap) (flows label touches) := by
  refine along_admits _ (fun f mem => ?_) ?_ (fun clock mem => by cases mem) (by simpa [Pair.empty] using gaps)
  · obtain ⟨x, there, flow⟩ := List.mem_filterMap.mp mem
    have credit := timed.credit x there
    cases x with
    | enter l p now =>
      simp only [flow?, Option.ite_none_right_eq_some, Option.some.injEq] at flow
      rw [← flow.2]
      simp only [entering]
      split
      · exact_mod_cast credit
      · exact le_rfl
    | leave l p now egressQlen =>
      simp only [flow?, Option.ite_none_right_eq_some, Option.some.injEq] at flow
      rw [← flow.2]
      simp only [leaving]
      split
      · exact Nat.cast_nonneg _
      · exact le_rfl
  · have times : (flows label touches).map Flow.time =
        (touches.filter fun x => (flow? label x).isSome).map Touch.time := by
      clear timed gaps
      induction touches with
      | nil => rfl
      | cons x touches ih =>
        cases x with
        | enter l p now => by_cases here : l = label <;> simp_all [flows, flow?, Touch.time]
        | leave l p now egressQlen => by_cases here : l = label <;> simp_all [flows, flow?, Touch.time]
    rw [times]
    exact timed.ordered.sublist (List.filter_sublist.map _)

/-- The length that a leaving packet is judged by, cut at the bound, is never
above that of the queue that drains continuously from the first packet that
leaves, and below it by at most what drains in the longest gap between packets
that leave; it is that length while the continuous queue does not run empty or
come within such a drain of the bound. -/
theorem compared_near_continuous (c : DestHashClassifier) (rho : 0 ≤ c.rho) (line : 0 ≤ c.lineRateGbps)
    (label : ℤ) (touches : List Touch) (p : Packet) (now : Time) (egressQlen : ℤ)
    (timed : Timed (touches ++ [.leave label p now egressQlen])) (gap : Time) (wide : 0 ≤ gap)
    (gaps : (leavings (flows label (touches ++ [.leave label p now egressQlen]))).IsChain fun s t => t - s ≤ gap) :
    min (c.compared exact ((c.run exact Ports.fresh touches).1 label) p now) (10 * c.pthr) ≤
        (c.continuous none label (touches ++ [.leave label p now egressQlen])).length ∧
      (c.continuous none label (touches ++ [.leave label p now egressQlen])).length ≤
        min (c.compared exact ((c.run exact Ports.fresh touches).1 label) p now) (10 * c.pthr) +
          c.drainRate * gap ∧
      (Pair.empty.Along c.rules (Clear c.rules) (flows label (touches ++ [.leave label p now egressQlen])) →
        c.compared exact ((c.run exact Ports.fresh touches).1 label) p now =
          (c.continuous none label (touches ++ [.leave label p now egressQlen])).length) := by
  have draining : 0 ≤ c.rules.rate := mul_nonneg (mul_nonneg rho line) (by norm_num)
  have room : 0 ≤ c.rules.limit := Nat.cast_nonneg _
  have limit : (c.rules.limit : ℚ) = 10 * c.pthr := by simp [rules, DestHashClassifier.limit, mul_comm]
  have last : flows label (touches ++ [.leave label p now egressQlen]) =
      flows label touches ++ [⟨now, leaving p, true⟩] := by
    simp [flows, flow?]
  have admits := timed.along (c := c) gaps
  have stands := (StandsFor.fresh label).run (c := c) touches fun x mem => timed.leaves x (by simp [mem])
  have late := Pair.run_late c.rules Pair.empty (flows label touches)
  have level := Pair.run_level c.rules Pair.empty (flows label touches ++ [⟨now, leaving p, true⟩])
  rw [← late] at stands
  rw [last] at admits ⊢
  have queue : c.continuous none label (touches ++ [.leave label p now egressQlen]) =
      ((Pair.empty.run c.rules (flows label touches)).step c.rules
        ⟨now, leaving p, true⟩).level := by
    rw [continuous, last]
    rw [show (⟨0, none⟩ : Level ℚ) = Pair.empty.level from rfl, ← level, Pair.run, List.foldl_append]
    rfl
  rw [queue, stands.compared, min_comm, ← limit]
  obtain ⟨below, near⟩ := late_close draining wide room (flows label touches) _ rfl admits
  exact ⟨below, near, late_exact draining wide room (flows label touches) _ admits⟩

/-- Credit that enters two seconds after the last packet left is drained for
the time before it entered. -/
theorem compared_ne_continuous :
    onePort.compared exact ((onePort.run exact Ports.fresh
        [.leave 0 (frame .request 0) 1 0, .enter 0 (frame .grant 1538) 3]).1 0) (frame .request 0) 3 = 0 ∧
      (onePort.continuous (some 0) 0 [.leave 0 (frame .request 0) 1 0, .enter 0 (frame .grant 1538) 3,
        .leave 0 (frame .request 0) 3 0]).length = 1538 := by
  decide +kernel

/-- With the two leavings two seconds apart the bounds are met there. -/
theorem compared_near_continuous_once :
    min (onePort.compared exact ((onePort.run exact Ports.fresh
        [.leave 0 (frame .request 0) 1 0, .enter 0 (frame .grant 1538) 3]).1 0) (frame .request 0) 3)
        (10 * onePort.pthr) ≤
      (onePort.continuous none 0 [.leave 0 (frame .request 0) 1 0, .enter 0 (frame .grant 1538) 3,
        .leave 0 (frame .request 0) 3 0]).length :=
  (compared_near_continuous onePort (by decide +kernel) (by decide +kernel) 0
    [.leave 0 (frame .request 0) 1 0, .enter 0 (frame .grant 1538) 3] (frame .request 0) 3 0
    ⟨by decide +kernel, by decide +kernel, by decide +kernel⟩ 2 (by decide +kernel) (by decide +kernel)).1

end PhantomPass.Switch.DestHashClassifier
