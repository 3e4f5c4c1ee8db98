import Mathlib
import PhantomPass.Lib.Runs
import PhantomPass.Switch.DestHash
import PhantomPass.Switch.DropTail

/-! PPassQueue: the queues of a port share one phantom queue, which GRANTs fill
and other packets drain. It is drained by bits where it holds bytes, and for all
the time since it was drained last, before a GRANT came or after. -/

set_option autoImplicit false

namespace PhantomPass.Switch

/-- The bound variables, the same for the queues that share a state. -/
structure PPassQueue where
  qib : Bool := false
  qlim : ℕ
  meanPktsize : ℕ
  bwGbps : ℚ
  rho : ℚ
  PThr : ℕ

/-- The shared length; its counts are taken to fit their type. -/
structure PPassState (α : Type*) where
  qlen : α
  lastTime : Time := 0

structure PacketQueues where
  q0 : List Packet := []
  q1 : List Packet := []

/-- What became of a packet: queued as a GRANT, dropped, or queued with or without a mark. -/
inductive Outcome
  | grant | dropped
  | queued (ce : Bool)
  deriving DecidableEq

namespace PPassQueue

variable (c : PPassQueue)

def byteLength (packets : List Packet) : ℕ := (packets.map Packet.size).sum

/-- What the drain takes in an interval, by the rate in bits per second. -/
def delta (interval : Time) : ℚ := c.rho * interval * (c.bwGbps * 1000 * 1000 * 1000) * 1460 / 1500

def doDrop (q1 : List Packet) (p : Packet) : Bool :=
  (!c.qib && decide (c.qlim ≤ q1.length + 1)) ||
    (c.qib && decide (c.qlim * c.meanPktsize ≤ byteLength q1 + p.size))

def unsol (p : Packet) : ℕ := if 0 < p.hdr.unsolCredit then p.size else 0

section Enque

variable {α : Type*} [LinearOrder α] [Zero α] [Sub α] [NatCast α]

def drained (lengths : Lengths α) (now : Time) (p : Packet) (shared : PPassState α) : α :=
  let qlen := if 0 < p.hdr.unsolCredit then lengths.add shared.qlen p.size else shared.qlen
  let delta := lengths.ofDrain (c.delta (now - shared.lastTime))
  if qlen < delta then 0 else qlen - delta

def enque (lengths : Lengths α) (now : Time) (p : Packet) (shared : PPassState α) (queues : PacketQueues) :
    PPassState α × PacketQueues × Outcome :=
  let p := queued now p
  if p.hdr.msgType = .grant then
    -- a GRANT leaves last_time_ where it was
    ({ shared with qlen := lengths.add shared.qlen p.hdr.credit }, { queues with q0 := queues.q0 ++ [p] }, .grant)
  else if c.doDrop queues.q1 p then (shared, queues, .dropped)
  else
    let qlen := c.drained lengths now p shared
    (⟨qlen, now⟩, { queues with q1 := queues.q1 ++ [p] }, .queued (decide (((c.PThr * c.meanPktsize : ℕ) : α) < qlen)))

end Enque

def deque (now : Time) (queues : PacketQueues) : Option Packet × PacketQueues :=
  match queues.q0 with
  -- GRANTs go first
  | p :: rest => (some (dequeued now p), { queues with q0 := rest })
  | [] => (queues.q1.head?.map (dequeued now), { queues with q1 := queues.q1.tail })

/-- The shared length behind a packet that came, which brought neither credit
nor unscheduled bytes if it is quiet. -/
structure Reading where
  time : Time
  qlen : ℚ
  quiet : Bool
  deriving DecidableEq

structure Drain where
  time : Time
  credits : List (Time × ℚ)
  after : ℚ
  deriving DecidableEq

/-- The queues that share a state, with exact arithmetic. Beside the state stand
when a packet came last, the length after the last drain and the GRANTs since
then, and what was read and drained so far. -/
structure Port where
  shared : PPassState ℚ := ⟨0, 0⟩
  queues : ℕ → PacketQueues := fun _ => {}
  now : Time := 0
  arrival : Time := 0
  base : ℚ := 0
  credits : List (Time × ℚ) := []
  readings : List Reading := [⟨0, 0, false⟩]
  drains : List Drain := []

inductive Event
  | enque (queue : ℕ) (p : Packet) (now : Time)
  | deque (queue : ℕ) (now : Time)

def quiet (p : Packet) : Bool := p.hdr.msgType ≠ .grant ∧ ¬ 0 < p.hdr.unsolCredit

def fire (s : Port) : Event → Port
  | .deque queue now => { s with now, queues := Function.update s.queues queue (deque now (s.queues queue)).2 }
  | .enque queue p now =>
    let (shared, queues, outcome) := c.enque exact now p s.shared (s.queues queue)
    let s' := { s with
      shared, now
      queues := Function.update s.queues queue queues
      arrival := now
      readings := s.readings ++ [⟨now, shared.qlen, quiet p⟩] }
    match outcome with
    | .grant => { s' with credits := s.credits ++ [(now, (p.hdr.credit : ℚ))] }
    | .dropped => s'
    | .queued _ => { s' with
        base := shared.qlen
        credits := []
        drains := s.drains ++ [⟨now, s.credits, shared.qlen⟩] }

def Enabled (s : Port) : Event → Prop
  | .enque _ _ now => s.now ≤ now
  | .deque _ now => s.now ≤ now

instance (s : Port) (e : Event) : Decidable (Enabled s e) := by
  cases e <;> unfold Enabled <;> infer_instance

def Step (s : Port) (e : Event) (t : Port) : Prop := Enabled s e ∧ c.fire s e = t

def rate : ℚ := c.rho * c.bwGbps * 10 ^ 9 / 8 * (1460 / 1500)

theorem delta_eq (interval : Time) : c.delta interval = 8 * (c.rate * interval) := by
  unfold delta rate
  ring

def credited (credits : List (Time × ℚ)) : ℚ := (credits.map Prod.snd).sum

/-- From one packet to the next, the length falls no faster than configured. -/
def Steady (first next : Reading) : Prop :=
    next.quiet = true → first.qlen - next.qlen ≤ c.rate * (next.time - first.time)

/-- From any packet on, a GRANT among them, and as long as only quiet ones come,
the length falls no faster than configured. -/
def SteadyOver (readings : List Reading) : Prop := ∀ pre first seg post, readings = pre ++ first :: (seg ++ post) →
  (∀ r ∈ seg, r.quiet = true) → ∀ last ∈ seg.getLast?, first.qlen - last.qlen ≤ c.rate * (last.time - first.time)

/-- Of the credit that came with a GRANT or behind it, no more is gone than
drains in the time since that GRANT. -/
def Drain.Kept (d : Drain) : Prop := ∀ before grant after, d.credits = before ++ grant :: after →
  grant.2 + credited after - c.delta (d.time - grant.1) ≤ d.after

/-- A quiet packet that is queued finds no more than drains at the configured
rate in the time since the packet before it. -/
def FindsLittle (s : Port) (p : Packet) (now : Time) : Prop := quiet p = true →
  s.shared.qlen ≤ c.rate * (now - s.arrival) ∨ c.rate * (now - s.shared.lastTime) ≤ 0

/-- Each GRANT since the last drain found what drains before it, or all credit
from it on has drained since. -/
def FindsDrained (s : Port) (p : Packet) (now : Time) : Prop :=
    ∀ before grant after, s.credits = before ++ grant :: after →
  grant.2 + credited after ≤ c.delta (now - grant.1) ∨
    c.delta (grant.1 - s.shared.lastTime) ≤ s.base + credited before + unsol p

/-- A dropped packet leaves all as it is, which is too much for a negative rate only. -/
def Fits (s : Port) : Event → Prop
  | .deque _ _ => True
  | .enque queue p now =>
    match (c.enque exact now p s.shared (s.queues queue)).2.2 with
    | .grant => True
    | .dropped => quiet p = true → 0 ≤ c.rate * (now - s.arrival)
    | .queued _ => c.FindsLittle s p now ∧ c.FindsDrained s (queued now p) now

section Run

variable {c}

theorem steadyOver_iff {readings : List Reading} : c.SteadyOver readings ↔ readings.IsChain c.Steady := by
  constructor
  · intro falls
    induction readings with
    | nil => exact List.isChain_nil
    | cons first rest ih =>
      cases rest with
      | nil => exact List.isChain_singleton _
      | cons next rest =>
        refine List.isChain_cons_cons.mpr ⟨fun quiet => ?_, ih ?_⟩
        · exact falls [] first [next] rest rfl (by simpa using quiet) next rfl
        · intro pre first' seg post split
          exact falls (first :: pre) first' seg post (by rw [split]; rfl)
  · intro chain pre first seg post split quiet last final
    subst split
    have linked : (first :: seg).IsChain c.Steady := by
      rw [← List.cons_append] at chain
      exact chain.right_of_append.left_of_append
    clear chain
    induction seg generalizing first with
    | nil => cases final
    | cons next seg ih =>
      obtain ⟨here, rest⟩ := List.isChain_cons_cons.mp linked
      have here := here (quiet next List.mem_cons_self)
      cases seg with
      | nil =>
        cases final
        exact here
      | cons later seg =>
        have there := ih next (fun r member => quiet r (List.mem_cons_of_mem next member)) final rest
        have sum : c.rate * (last.time - first.time) =
            c.rate * (next.time - first.time) + c.rate * (last.time - next.time) := by ring
        linarith

/-- The length is what was left by the last drain with the credit since, and it
was read when a packet came last, which is no earlier than that drain. -/
structure Ok (s : Port) : Prop where
  qlen : s.shared.qlen = s.base + credited s.credits
  drained : s.shared.lastTime ≤ s.arrival
  arrived : s.arrival ≤ s.now
  reading : ∃ still, s.readings.getLast? = some ⟨s.arrival, s.shared.qlen, still⟩

theorem Ok.init : Ok {} := ⟨by simp [credited], le_refl _, le_refl _, false, rfl⟩

theorem drained_eq (now : Time) (p : Packet) (shared : PPassState ℚ) :
    c.drained exact now p shared = max 0 (shared.qlen + unsol p - c.delta (now - shared.lastTime)) := by
  have sum : (if 0 < p.hdr.unsolCredit then exact.add shared.qlen p.size else shared.qlen) = shared.qlen + unsol p := by
    unfold unsol
    split <;> simp [exact]
  have whole_drain : exact.ofDrain (c.delta (now - shared.lastTime)) = c.delta (now - shared.lastTime) := rfl
  simp only [drained, sum, whole_drain]
  split
  · next short => exact (max_eq_left (by linarith)).symm
  · next enough => exact (max_eq_right (by linarith)).symm

/-- A drain for the time since `last` takes no more than it should since
`arrival` exactly if there was no more, or it takes nothing. -/
theorem steady_iff (rate qlen : ℚ) {last arrival now : Time} (drained : last ≤ arrival) (later : arrival ≤ now) :
    qlen - max 0 (qlen - 8 * (rate * (now - last))) ≤ rate * (now - arrival) ↔
      qlen ≤ rate * (now - arrival) ∨ rate * (now - last) ≤ 0 := by
  -- both intervals have the sign of the rate, and the one since the drain is the longer one
  have signs : (0 ≤ rate * (now - arrival) ∧ rate * (now - arrival) ≤ rate * (now - last)) ∨
      (rate * (now - arrival) ≤ 0 ∧ rate * (now - last) ≤ rate * (now - arrival)) := by
    rcases le_total 0 rate with up | down
    · left
      exact ⟨mul_nonneg up (by linarith), mul_le_mul_of_nonneg_left (by linarith) up⟩
    · right
      exact ⟨mul_nonpos_of_nonpos_of_nonneg down (by linarith), mul_le_mul_of_nonpos_left (by linarith) down⟩
  rcases le_total qlen (8 * (rate * (now - last))) with short | enough
  · rw [max_eq_left (by linarith)]
    constructor
    · intro le
      left
      linarith
    · rintro (le | zero)
      · linarith
      · rcases signs with ⟨_, _⟩ | ⟨_, _⟩ <;> linarith
  · rw [max_eq_right (by linarith)]
    constructor
    · intro le
      right
      rcases signs with ⟨_, _⟩ | ⟨_, _⟩ <;> linarith
    · rintro (le | zero)
      · linarith
      · rcases signs with ⟨_, _⟩ | ⟨_, _⟩ <;> linarith

/-- Credit is drained for its own time only, exactly if what was there before
covers the rest of the drain, or the credit is gone anyway. -/
theorem kept_iff (there credit early since : ℚ) :
    credit - since ≤ max 0 (there + credit - (early + since)) ↔ credit ≤ since ∨ early ≤ there := by
  rw [le_max_iff]
  constructor
  · rintro (gone | left_)
    · left
      linarith
    · right
      linarith
  · rintro (gone | covered)
    · left
      linarith
    · right
      linarith

theorem credited_append (before after : List (Time × ℚ)) :
    credited (before ++ after) = credited before + credited after := by
  simp [credited]

theorem credited_cons (grant : Time × ℚ) (after : List (Time × ℚ)) :
    credited (grant :: after) = grant.2 + credited after := by
  simp [credited]

theorem Ok.kept_iff {s : Port} (ok : Ok s) (p : Packet) (now : Time) :
    Drain.Kept c ⟨now, s.credits, c.drained exact now p s.shared⟩ ↔ c.FindsDrained s p now := by
  refine forall_congr' fun before => forall_congr' fun grant => forall_congr' fun after => ?_
  apply imp_congr_right
  intro split
  have early_since : c.delta (now - s.shared.lastTime) =
      c.delta (grant.1 - s.shared.lastTime) + c.delta (now - grant.1) := by
    simp only [delta_eq]
    ring
  have left_ : c.drained exact now p s.shared = max 0 (s.base + credited before + unsol p + (grant.2 + credited after) -
      (c.delta (grant.1 - s.shared.lastTime) + c.delta (now - grant.1))) := by
    have credit : credited s.credits = credited before + (grant.2 + credited after) := by
      rw [show s.credits = before ++ grant :: after from split, credited_append, credited_cons]
    rw [drained_eq, ok.qlen, credit, early_since]
    congr 1
    ring
  rw [left_]
  exact PPassQueue.kept_iff _ _ _ _

@[simp] theorem queued_hdr (now : Time) (p : Packet) : (queued now p).hdr = p.hdr := by
  unfold queued
  split <;> rfl

theorem Ok.steady_iff {s : Port} (ok : Ok s) (p : Packet) {now : Time} (later : s.now ≤ now) :
    (quiet p = true → s.shared.qlen - c.drained exact now (queued now p) s.shared ≤ c.rate * (now - s.arrival)) ↔
      c.FindsLittle s p now := by
  apply imp_congr_right
  intro still
  have no_bytes : unsol (queued now p) = 0 := by
    have still : ¬ 0 < p.hdr.unsolCredit := (of_decide_eq_true still).2
    rw [unsol, queued_hdr, if_neg still]
  rw [drained_eq, no_bytes, delta_eq, Nat.cast_zero, add_zero]
  exact PPassQueue.steady_iff c.rate s.shared.qlen ok.drained (ok.arrived.trans later)

def Right (c : PPassQueue) (s : Port) : Prop := s.readings.IsChain c.Steady ∧ ∀ d ∈ s.drains, d.Kept c

theorem Ok.reads {s : Port} (ok : Ok s) (r : Reading) : (s.readings ++ [r]).IsChain c.Steady ↔
    s.readings.IsChain c.Steady ∧ (r.quiet = true → s.shared.qlen - r.qlen ≤ c.rate * (r.time - s.arrival)) := by
  obtain ⟨still, last⟩ := ok.reading
  simp [List.isChain_append, last, Steady]

theorem fire_cases (s : Port) (queue : ℕ) (p : Packet) (now : Time) :
    ∃ t, c.fire s (.enque queue p now) = t ∧ t.now = now ∧ t.arrival = now ∧
      t.readings = s.readings ++ [⟨now, t.shared.qlen, quiet p⟩] ∧
      (((c.enque exact now p s.shared (s.queues queue)).2.2 = .grant ∧ quiet p = false ∧
          t.shared = { s.shared with qlen := s.shared.qlen + p.hdr.credit } ∧ t.base = s.base ∧
          t.credits = s.credits ++ [(now, (p.hdr.credit : ℚ))] ∧ t.drains = s.drains) ∨
        ((c.enque exact now p s.shared (s.queues queue)).2.2 = .dropped ∧
          t.shared = s.shared ∧ t.base = s.base ∧ t.credits = s.credits ∧ t.drains = s.drains) ∨
        ∃ ce, (c.enque exact now p s.shared (s.queues queue)).2.2 = .queued ce ∧
          t.shared = ⟨c.drained exact now (queued now p) s.shared, now⟩ ∧ t.base = t.shared.qlen ∧ t.credits = [] ∧
          t.drains = s.drains ++ [⟨now, s.credits, c.drained exact now (queued now p) s.shared⟩]) := by
  by_cases grant : p.hdr.msgType = .grant
  · have out : c.enque exact now p s.shared (s.queues queue) =
      ({ s.shared with qlen := exact.add s.shared.qlen p.hdr.credit },
        { s.queues queue with q0 := (s.queues queue).q0 ++ [queued now p] }, .grant) := by
      rw [enque]
      simp only [queued_hdr, grant, if_true]
    refine ⟨_, rfl, ?_, ?_, ?_, Or.inl ⟨by rw [out], by simp [quiet, grant], ?_, ?_, ?_, ?_⟩⟩ <;> simp only [fire, out]
    rfl
  · by_cases drop : c.doDrop (s.queues queue).q1 (queued now p) = true
    · have out : c.enque exact now p s.shared (s.queues queue) = (s.shared, s.queues queue, .dropped) := by
        rw [enque]
        simp only [queued_hdr, grant, if_false]
        exact if_pos drop
      refine ⟨_, rfl, ?_, ?_, ?_, Or.inr (Or.inl ⟨by rw [out], ?_, ?_, ?_, ?_⟩)⟩ <;> simp only [fire, out]
    · have out : ∃ ce, c.enque exact now p s.shared (s.queues queue) =
          (⟨c.drained exact now (queued now p) s.shared, now⟩,
            { s.queues queue with q1 := (s.queues queue).q1 ++ [queued now p] }, .queued ce) := by
        rw [enque]
        simp only [queued_hdr, grant, if_false]
        exact ⟨_, if_neg drop⟩
      obtain ⟨ce, out⟩ := out
      refine ⟨_, rfl, ?_, ?_, ?_, Or.inr (Or.inr ⟨ce, by rw [out], ?_, ?_, ?_, ?_⟩)⟩ <;> simp only [fire, out]

theorem Ok.step {s t : Port} {e : Event} (ok : Ok s) (step : c.Step s e t) :
    Ok t ∧ (Right c t ↔ Right c s ∧ c.Fits s e) := by
  obtain ⟨later, rfl⟩ := step
  cases e with
  | deque queue now =>
    exact ⟨⟨ok.qlen, ok.drained, ok.arrived.trans later, ok.reading⟩, by simp [Right, Fits, fire]⟩
  | enque queue p now =>
    have later : s.now ≤ now := later
    obtain ⟨t, moved, clock, came, readings, cases_⟩ := c.fire_cases s queue p now
    rw [moved]
    have reading : ∃ still, t.readings.getLast? = some ⟨t.arrival, t.shared.qlen, still⟩ :=
      ⟨quiet p, by rw [readings, came, List.getLast?_concat]⟩
    obtain ⟨out, loud, shared, base, credits, drains⟩ | ⟨out, shared, base, credits, drains⟩ |
      ⟨ce, out, shared, base, credits, drains⟩ := cases_
    · refine ⟨⟨?_, ?_, (came.trans clock.symm).le, reading⟩, ?_⟩
      · rw [shared, base, credits, credited_append, ok.qlen]
        simp [credited, add_assoc]
      · rw [shared, came]
        exact ok.drained.trans (ok.arrived.trans later)
      · simp [Right, Fits, out, readings, drains, ok.reads, loud]
    · refine ⟨⟨?_, ?_, (came.trans clock.symm).le, reading⟩, ?_⟩
      · rw [shared, base, credits, ok.qlen]
      · rw [shared, came]
        exact ok.drained.trans (ok.arrived.trans later)
      · simp only [Right, Fits, out, readings, drains, ok.reads, shared, sub_self]
        tauto
    · refine ⟨⟨?_, ?_, (came.trans clock.symm).le, reading⟩, ?_⟩
      · rw [base, credits]
        simp [credited]
      · rw [shared, came]
      · have fits : c.Fits s (.enque queue p now) ↔ c.FindsLittle s p now ∧ c.FindsDrained s (queued now p) now := by
          simp only [Fits, out]
        rw [fits, ← ok.steady_iff p later, ← ok.kept_iff (queued now p) now, Right, readings, drains, ok.reads, shared,
          List.forall_mem_append, List.forall_mem_singleton, Right]
        tauto

/-- In every run: from any packet on and as long as only quiet ones come, the
shared length falls no faster than configured, and no GRANT's credit is drained
for time before it came, exactly if each packet found what it drained. -/
theorem drains_iff {trace : List (Port × Event)} {s : Port} (run : Lib.Run c.Step {} trace s) :
    (c.SteadyOver s.readings ∧ ∀ d ∈ s.drains, d.Kept c) ↔ ∀ x ∈ trace, c.Fits x.1 x.2 := by
  have stays : ∀ s e t, Ok s → c.Step s e t → Ok t := fun _ _ _ ok step => (ok.step step).1
  rw [steadyOver_iff]
  exact run.iff_all Ok c.Fits (Right c) .init stays ⟨List.isChain_singleton _, fun _ none =>
    absurd none List.not_mem_nil⟩
    fun _ _ _ ok step => (ok.step step).2

end Run

def oneByte : PPassQueue :=
    { qlim := 100, meanPktsize := 1500, bwGbps := 8 * 1500 / 1460 / 10 ^ 9, rho := 1, PThr := 10 }

def dataFrame : Packet :=
  { hdr := { msgType := .request }, src := 0, dst := 1, size := 1538, padding := 0, flowid := 0, prio := 0, ect := true
    seqno := 0 }

def grantFrame (credit : ℤ) : Packet := { dataFrame with hdr := { msgType := .grant, credit }, size := 84 }

def move (s : Port) (e : Event) : Option Port := if Enabled s e then some (c.fire s e) else none

theorem move_step (s : Port) (e : Event) (t : Port) (moves : c.move s e = some t) : c.Step s e t := by
  unfold move at moves
  split at moves
  · next enabled => exact ⟨enabled, Option.some.inj moves⟩
  · cases moves

/-- Two bytes of credit are drained in the ten seconds behind them. -/
theorem drains_two_bytes : ∃ (trace : List (Port × Event)) (s : Port), Lib.Run oneByte.Step {} trace s ∧
    s.readings = [⟨0, 0, false⟩, ⟨10, 0, true⟩, ⟨10, 2, false⟩, ⟨20, 0, true⟩] ∧ oneByte.SteadyOver s.readings ∧
    ∀ d ∈ s.drains, d.Kept oneByte := by
  have run : Lib.Run oneByte.Step {} _ _ :=
    .next (.enque 1 dataFrame 20) (.next (.enque 0 (grantFrame 2) 10)
      (.next (.enque 0 dataFrame 10) .start ⟨by decide +kernel, rfl⟩) ⟨by decide +kernel, rfl⟩) ⟨by decide +kernel, rfl⟩
  refine ⟨_, _, run, by decide +kernel, (drains_iff run).mpr fun x member => ?_⟩
  simp only [List.nil_append, List.cons_append, List.mem_cons, List.not_mem_nil, or_false] at member
  obtain rfl | rfl | rfl := member
  · refine ⟨fun _ => Or.inl (by decide +kernel), fun before grant after split => ?_⟩
    exact absurd split (by simp)
  · trivial
  · refine ⟨fun _ => Or.inl (by decide +kernel), fun before grant after split => Or.inl ?_⟩
    have only : [((10 : Time), (2 : ℚ))] = before ++ grant :: after := split
    obtain ⟨rfl, rfl, rfl⟩ : before = [] ∧ (10, 2) = grant ∧ [] = after := by
      cases before with
      | nil => simpa using only
      | cons b before => simp at only
    decide +kernel

/-- With 100 bytes of credit, five seconds take 40 bytes; and credit of 50 bytes
that has just come is drained at once for the ten seconds before. -/
theorem drains_fast : ∃ (trace : List (Port × Event)) (s : Port), Lib.Run oneByte.Step {} trace s ∧ oneByte.rate = 1 ∧
    ¬ oneByte.SteadyOver s.readings ∧ ¬ ∀ d ∈ s.drains, d.Kept oneByte := by
  have six : (Lib.Run.exec oneByte.move {} [.enque 0 dataFrame 10, .enque 0 (grantFrame 100) 10, .enque 1 dataFrame 10,
      .enque 0 dataFrame 15, .enque 0 (grantFrame 50) 25, .enque 1 dataFrame 25]).any
      (fun out => out.2.readings = [⟨0, 0, false⟩, ⟨10, 0, true⟩, ⟨10, 100, false⟩, ⟨10, 100, true⟩, ⟨15, 60, true⟩,
          ⟨25, 110, false⟩, ⟨25, 30, true⟩] ∧
        out.2.drains = [⟨10, [], 0⟩, ⟨10, [(10, 100)], 100⟩, ⟨15, [], 60⟩, ⟨25, [(25, 50)], 30⟩]) = true := by
    decide +kernel
  obtain ⟨⟨trace, s⟩, run, out⟩ := (Option.any_eq_true _ _).mp six
  obtain ⟨(readings : s.readings = _), (drains : s.drains = _)⟩ := of_decide_eq_true out
  refine ⟨trace, s, Lib.Run.of_exec oneByte.move_step run, by decide +kernel, fun steady => ?_, fun kept => ?_⟩
  · rw [readings] at steady
    have fell := steady [⟨0, 0, false⟩, ⟨10, 0, true⟩, ⟨10, 100, false⟩] ⟨10, 100, true⟩ [⟨15, 60, true⟩]
      [⟨25, 110, false⟩, ⟨25, 30, true⟩] rfl (by simp) _ rfl
    exact absurd fell (by decide +kernel)
  · rw [drains] at kept
    have gone := kept ⟨25, [(25, 50)], 30⟩ (by simp) [] (25, 50) [] rfl
    exact absurd gone (by decide +kernel)

end PPassQueue

end PhantomPass.Switch
