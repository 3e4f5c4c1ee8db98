import PhantomPass.Switch.DestHash
import Mathlib

/-! Two runs of one switch over the same packets, the second with more credit
in its GRANTs or with more of them. A GRANT that only the second run sees also
drains the port it leaves by, so the phantom queues are compared as of one time:
there the second run's are never shorter, and it marks whatever the first one
marks. -/

set_option autoImplicit false

namespace PhantomPass.Switch.DestHashClassifier

/-- What the classifier is called with: a packet to route, or one for which a
MultiPathForwarder has chosen a port. -/
inductive Call
  | classify (p : Packet) (ifaceIn : ℤ) (now : Time) (byteLength : ℤ → ℤ)
  | ppassEgress (label : ℤ) (p : Packet) (now : Time) (egressQlen : ℤ)

namespace Call

def packet : Call → Packet
  | classify p _ _ _ => p
  | ppassEgress _ p _ _ => p

def time : Call → Time
  | classify _ _ now _ => now
  | ppassEgress _ _ now _ => now

def egressQlen : Call → ℤ → ℤ
  | classify _ _ _ byteLength => byteLength
  | ppassEgress _ _ _ egressQlen => fun _ => egressQlen

def withCredit (credit : ℤ) : Call → Call
  | classify p ifaceIn now byteLength => classify { p with hdr.credit := credit } ifaceIn now byteLength
  | ppassEgress label p now egressQlen => ppassEgress label { p with hdr.credit := credit } now egressQlen

end Call

section Calls

variable {α : Type*} [LinearOrder α] [Zero α] [Sub α] [NatCast α]

def perform (lengths : Lengths α) (c : DestHashClassifier) (ports : Ports α) : Call → Ports α × Bool
  | .classify p ifaceIn now byteLength => (c.classify lengths ports p ifaceIn now byteLength).2
  | .ppassEgress label p now egressQlen => c.touch lengths ports (.leave label p now egressQlen)

/-- The ports after some calls, and those of them that marked their packet. -/
def performAll (lengths : Lengths α) (c : DestHashClassifier) (calls : List Call) : Ports α × List Call :=
  calls.foldl (fun state call => ((c.perform lengths state.1 call).1,
    state.2 ++ if (c.perform lengths state.1 call).2 then [call] else [])) (Ports.fresh, [])

def entersBy (c : DestHashClassifier) : Call → Option ℤ
  | .classify _ ifaceIn _ _ => if c.enablePpass then some ifaceIn else none
  | .ppassEgress .. => none

/-- The port by which the packet of a call leaves, if an interface is seen there. -/
def leavesBy (c : DestHashClassifier) : Call → Option ℤ
  | .classify p _ _ _ => if c.enablePpass then c.getIface (c.retSlot p) else none
  | .ppassEgress label _ _ _ => some label

/-- What a call does to the status of one port as its packet enters. -/
def takeIn (lengths : Lengths α) (c : DestHashClassifier) (label : ℤ) (call : Call) (status : PPassPortStatus α) :
    PPassPortStatus α :=
  if c.entersBy call = some label then c.ppassIngress lengths status call.packet else status

/-- What it does as the packet leaves, and whether it marks the packet there. -/
def dispatch (lengths : Lengths α) (c : DestHashClassifier) (label : ℤ) (call : Call) (status : PPassPortStatus α) :
    PPassPortStatus α × Bool :=
  if c.leavesBy call = some label then
    c.ppassEgress lengths status call.packet call.time (call.egressQlen label)
  else (status, false)

/-- A call does to each port what it does there, and marks what it marks where the packet leaves. -/
theorem perform_at (lengths : Lengths α) (c : DestHashClassifier) (ports : Ports α) (call : Call) :
    (∀ label, (c.perform lengths ports call).1 label =
      (c.dispatch lengths label call (c.takeIn lengths label call (ports label))).1) ∧
    (c.perform lengths ports call).2 = (c.leavesBy call).elim false fun label =>
      (c.dispatch lengths label call (c.takeIn lengths label call (ports label))).2 := by
  cases call with
  | classify p ifaceIn now byteLength =>
    have entered : ∀ label, c.enablePpass = true → (c.touch lengths ports (.enter ifaceIn p now)).1 label =
        c.takeIn lengths label (.classify p ifaceIn now byteLength) (ports label) := fun label enabled => by
      rw [enter_at]
      simp [takeIn, entersBy, enabled, Call.packet]
    cases enabled : c.enablePpass with
    | false => simp [perform, DestHashClassifier.classify, dispatch, takeIn, entersBy, leavesBy, enabled]
    | true =>
      cases out : c.getIface (c.retSlot p) with
      | none =>
        have stays : c.leavesBy (.classify p ifaceIn now byteLength) = none := by simp [leavesBy, enabled, out]
        simp [perform, DestHashClassifier.classify, dispatch, stays, enabled, out, entered]
      | some ifaceOut =>
        have leaves : c.leavesBy (.classify p ifaceIn now byteLength) = some ifaceOut := by
          simp [leavesBy, enabled, out]
        refine ⟨fun label => ?_, ?_⟩
        · by_cases here : ifaceOut = label
          · subst here
            simp [perform, DestHashClassifier.classify, enabled, out, leave_at, entered, dispatch, leaves, Call.packet,
              Call.time, Call.egressQlen]
          · simp [perform, DestHashClassifier.classify, enabled, out, leave_at, entered, dispatch, leaves, here]
        · rw [leaves, Option.elim_some, dispatch, if_pos leaves, ← entered ifaceOut enabled]
          simp [perform, DestHashClassifier.classify, enabled, out, touch, Call.packet, Call.time, Call.egressQlen]
  | ppassEgress label p now egressQlen =>
    refine ⟨fun l => ?_,
      by simp [perform, touch, dispatch, takeIn, entersBy, leavesBy, Call.packet, Call.time, Call.egressQlen]⟩
    have left_ := leave_at lengths c ports label l p now egressQlen
    simp only [perform, touch, dispatch, takeIn, entersBy, leavesBy, Call.packet, Call.time, Call.egressQlen] at left_ ⊢
    rw [left_]
    by_cases here : label = l
    · simp [here]
    · simp [here]

end Calls

/-- What happens next in two runs side by side: the same call, with some credit
in the second run's packet, or a call with a GRANT in the second only. -/
inductive Joint
  | both (call : Call) (credit : ℤ)
  | extra (call : Call)

namespace Joint

def time : Joint → Time
  | both call _ => call.time
  | extra call => call.time

def first : Joint → Option Call
  | both call _ => some call
  | extra _ => none

def second : Joint → Call
  | both call credit => call.withCredit credit
  | extra call => call

def Raises : Joint → Prop
  | both call credit => if call.packet.hdr.msgType = .grant then
      0 ≤ call.packet.hdr.credit ∧ call.packet.hdr.credit ≤ credit else credit = call.packet.hdr.credit
  | extra call => call.packet.hdr.msgType = .grant ∧ 0 ≤ call.packet.hdr.credit

def ExtraLeaves (c : DestHashClassifier) (label : ℤ) : Joint → Prop
  | both _ _ => False
  | extra call => c.leavesBy call = some label

def BothLeave (c : DestHashClassifier) (label : ℤ) : Joint → Prop
  | both call _ => c.leavesBy call = some label
  | extra _ => False

/-- No credit that enters by a port differs, and no GRANT of the second run alone leaves by it. -/
def Keeps (c : DestHashClassifier) (label : ℤ) : Joint → Prop
  | both call credit => c.entersBy call = some label → credit = call.packet.hdr.credit
  | extra call => c.entersBy call ≠ some label ∧ c.leavesBy call ≠ some label

end Joint

/-- A GRANT of the second run alone only leaves by a port that is in use, so
that the port is drained from some time on anyway. -/
def InUse (c : DestHashClassifier) (js : List Joint) : Prop := ∀ pre j post, js = pre ++ j :: post →
  ∀ label, j.ExtraLeaves c label → ∃ i ∈ pre, i.BothLeave c label ∧ 0 < i.time

/-- pqlen_ as it is once it is drained up to a time. -/
def lengthAt (c : DestHashClassifier) (status : PPassPortStatus ℕ) (now : Time) : ℕ :=
  status.pqlen - ⌊c.delta (interval status now)⌋₊

def firstRun (c : DestHashClassifier) (js : List Joint) : Ports ℕ × List Call :=
  c.performAll whole (js.filterMap Joint.first)

def secondRun (c : DestHashClassifier) (js : List Joint) : Ports ℕ × List Call :=
  c.performAll whole (js.map Joint.second)

/-- The second status was drained as late or later, and is not shorter once what
drains between is given back. -/
structure Behind (c : DestHashClassifier) (s t : PPassPortStatus ℕ) : Prop where
  used : s.lastTime = t.lastTime ∨ (0 < s.lastTime ∧ s.lastTime ≤ t.lastTime)
  pqlen : s.pqlen ≤ t.pqlen + ⌊c.delta (t.lastTime - s.lastTime)⌋₊

section Status

variable {c : DestHashClassifier} {s t : PPassPortStatus ℕ}

theorem Behind.refl (c : DestHashClassifier) (s : PPassPortStatus ℕ) : c.Behind s s :=
  ⟨Or.inl rfl, Nat.le_add_right _ _⟩

theorem delta_add (c : DestHashClassifier) {a b : Time} (first : 0 ≤ a) (second : 0 ≤ b) :
    ⌊c.delta a⌋₊ + ⌊c.delta b⌋₊ ≤ ⌊c.delta (a + b)⌋₊ := by
  have linear : ∀ x, c.delta x = c.rho * c.lineRateGbps * 125000000 * x := fun x => by
    unfold delta
    ring
  rw [linear, linear, linear]
  rcases le_total 0 (c.rho * c.lineRateGbps * 125000000) with up | down
  · have whole_a := Nat.floor_le (mul_nonneg up first)
    have whole_b := Nat.floor_le (mul_nonneg up second)
    apply Nat.le_floor
    push_cast
    linarith
  · rw [Nat.floor_of_nonpos (mul_nonpos_of_nonpos_of_nonneg down first),
      Nat.floor_of_nonpos (mul_nonpos_of_nonpos_of_nonneg down second)]
    exact Nat.zero_le _

/-- The first status has all the second one's drain ahead of it, and what drained between. -/
theorem Behind.drain (behind : c.Behind s t) {now : Time} (later : 0 < t.lastTime → t.lastTime ≤ now) :
    ⌊c.delta (t.lastTime - s.lastTime)⌋₊ + ⌊c.delta (interval t now)⌋₊ ≤ ⌊c.delta (interval s now)⌋₊ := by
  rcases behind.used with same | ⟨used, between⟩
  · have none : c.delta (t.lastTime - s.lastTime) = 0 := by simp [same, delta]
    have equal : interval s now = interval t now := by rw [interval, interval, same]
    rw [none, equal, Nat.floor_zero, Nat.zero_add]
  · have here : interval t now = now - t.lastTime := if_neg (used.trans_le between).ne'
    have there : interval s now = (t.lastTime - s.lastTime) + (now - t.lastTime) := by
      rw [interval, if_neg used.ne']
      ring
    rw [here, there]
    exact c.delta_add (sub_nonneg.mpr between) (sub_nonneg.mpr (later (used.trans_le between)))

theorem Behind.lengthAt (behind : c.Behind s t) {now : Time} (later : 0 < t.lastTime → t.lastTime ≤ now) :
    c.lengthAt s now ≤ c.lengthAt t now := by
  have drain := behind.drain later
  have pqlen := behind.pqlen
  unfold DestHashClassifier.lengthAt
  omega

theorem compared_whole (s : PPassPortStatus ℕ) (p : Packet) (now : Time) :
    c.compared whole s p now =
      (if counts p.hdr then s.pqlen + p.size else s.pqlen) - ⌊c.delta (interval s now)⌋₊ := by
  simp only [compared, whole]
  split <;> split <;> omega

theorem Behind.compared (behind : c.Behind s t) (p : Packet) (credit : ℤ) {now : Time}
    (later : 0 < t.lastTime → t.lastTime ≤ now) :
    c.compared whole s p now ≤ c.compared whole t { p with hdr.credit := credit } now := by
  have drain := behind.drain later
  have pqlen := behind.pqlen
  rw [compared_whole, compared_whole]
  change _ ≤ (if counts p.hdr then t.pqlen + p.size else t.pqlen) - ⌊c.delta (interval t now)⌋₊
  split <;> omega

theorem Behind.ingress (behind : c.Behind s t) (p : Packet) {credit : ℤ}
    (raises : p.hdr.msgType = .grant → p.hdr.credit ≤ credit) :
    c.Behind (c.ppassIngress whole s p) (c.ppassIngress whole t { p with hdr.credit := credit }) := by
  refine ⟨behind.used, ?_⟩
  have pqlen := behind.pqlen
  simp only [ppassIngress, whole]
  split
  · next grant =>
    have more := raises grant
    omega
  · omega

theorem Behind.egress (behind : c.Behind s t) (p : Packet) (credit : ℤ) {now : Time}
    (later : 0 < t.lastTime → t.lastTime ≤ now) (egressQlen : ℤ) :
    c.Behind (c.ppassEgress whole s p now egressQlen).1
        (c.ppassEgress whole t { p with hdr.credit := credit } now egressQlen).1 ∧
      ((c.ppassEgress whole s p now egressQlen).2 = true →
        (c.ppassEgress whole t { p with hdr.credit := credit } now egressQlen).2 = true) := by
  have more := behind.compared p credit later
  refine ⟨⟨Or.inl rfl, (min_le_min more le_rfl).trans (Nat.le_add_right _ _)⟩, fun mark => ?_⟩
  simp only [ppassEgress, Bool.and_eq_true, decide_eq_true_eq] at mark ⊢
  exact ⟨⟨mark.1.1, lt_of_lt_of_le mark.1.2 more⟩, mark.2⟩

theorem Behind.extra_ingress (behind : c.Behind s t) (bounded : t.pqlen ≤ c.limit) {p : Packet}
    (grant : p.hdr.msgType = .grant) (credit : 0 ≤ p.hdr.credit) : c.Behind s (c.ppassIngress whole t p) := by
  refine ⟨behind.used, ?_⟩
  have pqlen := behind.pqlen
  simp only [ppassIngress, whole, grant, if_true, Nat.cast_id]
  omega

/-- A GRANT that leaves in the second run alone drains ahead of the first run, by
no more than the first has still to drain. -/
theorem Behind.extra_egress (behind : c.Behind s t) (bounded : s.pqlen ≤ c.limit) (used : 0 < s.lastTime) (p : Packet)
    {now : Time} (later : 0 < t.lastTime → t.lastTime ≤ now) (egressQlen : ℤ) :
    c.Behind s (c.ppassEgress whole t p now egressQlen).1 := by
  have order : s.lastTime ≤ t.lastTime := by
    rcases behind.used with same | between
    · exact same.le
    · exact between.2
  refine ⟨Or.inr ⟨used, order.trans (later (used.trans_le order))⟩, ?_⟩
  have drain := behind.drain later
  have since : interval s now = now - s.lastTime := if_neg used.ne'
  rw [since] at drain
  have pqlen := behind.pqlen
  simp only [ppassEgress, compared_whole, Nat.cast_id]
  split <;> omega

end Status

section Step

variable {c : DestHashClassifier} {label : ℤ} {js : List Joint} {s t : PPassPortStatus ℕ}

/-- One port in both runs: the second run is ahead, and was drained last with the
first one unless a GRANT of its own left there. -/
structure Compared (c : DestHashClassifier) (label : ℤ) (js : List Joint) (s t : PPassPortStatus ℕ) : Prop where
  behind : c.Behind s t
  first : s.pqlen ≤ c.limit
  second : t.pqlen ≤ c.limit
  past : ∀ now, (∀ j ∈ js, j.time ≤ now) → 0 < t.lastTime → t.lastTime ≤ now
  used : (∃ i ∈ js, i.BothLeave c label ∧ 0 < i.time) → 0 < s.lastTime
  apart : (∀ j ∈ js, ¬ j.ExtraLeaves c label) → s.lastTime = t.lastTime

theorem entersBy_withCredit (call : Call) (credit : ℤ) : c.entersBy (call.withCredit credit) = c.entersBy call := by
  cases call <;> rfl

theorem leavesBy_withCredit (call : Call) (credit : ℤ) : c.leavesBy (call.withCredit credit) = c.leavesBy call := by
  cases call <;> rfl

theorem Compared.takeIn (compared : c.Compared label js s t) (call : Call) {credit : ℤ}
    (raises : call.packet.hdr.msgType = .grant → call.packet.hdr.credit ≤ credit) :
    c.Compared label js (c.takeIn whole label call s) (c.takeIn whole label (call.withCredit credit) t) := by
  unfold DestHashClassifier.takeIn
  rw [entersBy_withCredit]
  split
  · have packet : (call.withCredit credit).packet = { call.packet with hdr.credit := credit } := by cases call <;> rfl
    rw [packet]
    exact ⟨compared.behind.ingress call.packet raises, min_le_right _ _, min_le_right _ _, compared.past, compared.used,
      compared.apart⟩
  · exact compared

theorem Compared.dispatch (compared : c.Compared label js s t) (call : Call) (credit : ℤ)
    (later : ∀ j ∈ js, j.time ≤ call.time) :
    c.Compared label (js ++ [.both call credit]) (c.dispatch whole label call s).1
        (c.dispatch whole label (call.withCredit credit) t).1 ∧
      ((c.dispatch whole label call s).2 = true → (c.dispatch whole label (call.withCredit credit) t).2 = true) := by
  have packet : (call.withCredit credit).packet = { call.packet with hdr.credit := credit } := by cases call <;> rfl
  have time : (call.withCredit credit).time = call.time := by cases call <;> rfl
  have length : (call.withCredit credit).egressQlen = call.egressQlen := by cases call <;> rfl
  unfold DestHashClassifier.dispatch
  rw [leavesBy_withCredit]
  split
  · next leaves =>
    rw [packet, time, length]
    obtain ⟨behind, marks⟩ := compared.behind.egress call.packet credit (compared.past _ later) (call.egressQlen label)
    refine ⟨⟨behind, min_le_right _ _, min_le_right _ _, fun now all _ => all (.both call credit) (by simp),
      fun before => ?_, fun _ => rfl⟩, marks⟩
    obtain ⟨i, member, leave, positive⟩ := before
    rcases List.mem_append.mp member with earlier | here
    · have order := later i earlier
      exact positive.trans_le order
    · cases List.mem_singleton.mp here
      exact positive
  · next stays =>
    refine ⟨⟨compared.behind, compared.first, compared.second, fun now all => compared.past now fun j member =>
      all j (by simp [member]), fun before => ?_, fun none => compared.apart fun j member =>
      none j (by simp [member])⟩, id⟩
    obtain ⟨i, member, leave, positive⟩ := before
    rcases List.mem_append.mp member with earlier | here
    · exact compared.used ⟨i, earlier, leave, positive⟩
    · cases List.mem_singleton.mp here
      exact absurd leave stays

theorem Compared.extra (compared : c.Compared label js s t) {call : Call} (raises : (Joint.extra call).Raises)
    (inUse : (Joint.extra call).ExtraLeaves c label → ∃ i ∈ js, i.BothLeave c label ∧ 0 < i.time)
    (later : ∀ j ∈ js, j.time ≤ call.time) :
    c.Compared label (js ++ [.extra call]) s (c.dispatch whole label call (c.takeIn whole label call t)).1 := by
  have entered : c.Compared label js s (c.takeIn whole label call t) := by
    unfold DestHashClassifier.takeIn
    split
    · exact ⟨compared.behind.extra_ingress compared.second raises.1 raises.2, compared.first, min_le_right _ _,
        compared.past, compared.used, compared.apart⟩
    · exact compared
  have used : (∃ i ∈ js ++ [Joint.extra call], i.BothLeave c label ∧ 0 < i.time) → 0 < s.lastTime := by
    rintro ⟨i, member, leave, positive⟩
    rcases List.mem_append.mp member with earlier | here
    · exact compared.used ⟨i, earlier, leave, positive⟩
    · cases List.mem_singleton.mp here
      cases leave
  unfold DestHashClassifier.dispatch
  split
  · next leaves =>
    exact ⟨entered.behind.extra_egress compared.first (compared.used (inUse leaves)) call.packet
      (entered.past _ later) _,
      compared.first, min_le_right _ _, fun now all _ => all (.extra call) (by simp), used,
      fun none => absurd leaves (none (.extra call) (by simp))⟩
  · exact ⟨entered.behind, compared.first, entered.second, fun now all => entered.past now fun j member =>
      all j (by simp [member]), used, fun none => entered.apart fun j member => none j (by simp [member])⟩

theorem isDataPkt_of_perform {ports : Ports ℕ} {call : Call} (mark : (c.perform whole ports call).2 = true) :
    isDataPkt call.packet.hdr = true := by
  rw [(c.perform_at whole ports call).2] at mark
  cases leaves : c.leavesBy call with
  | none => simp [leaves] at mark
  | some label =>
    simp only [leaves, Option.elim_some, DestHashClassifier.dispatch, if_true, ppassEgress, Bool.and_eq_true] at mark
    exact mark.1.1

theorem withCredit_of_mark {ports : Ports ℕ} {call : Call} {credit : ℤ} (raises : (Joint.both call credit).Raises)
    (mark : (c.perform whole ports call).2 = true) : call.withCredit credit = call := by
  have data := isDataPkt_of_perform mark
  have notGrant : call.packet.hdr.msgType ≠ .grant := fun grant => by simp [isDataPkt, grant] at data
  simp only [Joint.Raises, notGrant, if_false] at raises
  subst raises
  cases call <;> rfl

end Step

section Run

variable (c : DestHashClassifier)

theorem performAll_append (calls : List Call) (call : Call) : c.performAll whole (calls ++ [call]) =
    ((c.perform whole (c.performAll whole calls).1 call).1,
      (c.performAll whole calls).2 ++ if (c.perform whole (c.performAll whole calls).1 call).2 then [call] else
      []) := by
  rw [performAll, List.foldl_append]
  rfl

theorem firstRun_both (js : List Joint) (call : Call) (credit : ℤ) : c.firstRun (js ++ [.both call credit]) =
    ((c.perform whole (c.firstRun js).1 call).1,
      (c.firstRun js).2 ++ if (c.perform whole (c.firstRun js).1 call).2 then [call] else []) := by
  have split : (js ++ [Joint.both call credit]).filterMap Joint.first = js.filterMap Joint.first ++ [call] := by
    rw [List.filterMap_append]
    rfl
  rw [firstRun, split]
  exact c.performAll_append _ call

theorem firstRun_extra (js : List Joint) (call : Call) : c.firstRun (js ++ [.extra call]) = c.firstRun js := by
  have split : (js ++ [Joint.extra call]).filterMap Joint.first = js.filterMap Joint.first := by
    rw [List.filterMap_append]
    exact List.append_nil _
  rw [firstRun, split, firstRun]

theorem secondRun_append (js : List Joint) (j : Joint) : c.secondRun (js ++ [j]) =
    ((c.perform whole (c.secondRun js).1 j.second).1,
      (c.secondRun js).2 ++ if (c.perform whole (c.secondRun js).1 j.second).2 then [j.second] else []) := by
  rw [secondRun, List.map_append]
  exact c.performAll_append _ j.second

theorem isDataPkt_of_marked (js : List Joint) {call : Call} (member : call ∈ (c.secondRun js).2) :
    isDataPkt call.packet.hdr = true := by
  induction js using List.reverseRecOn with
  | nil => cases member
  | append_singleton js j ih =>
    rw [secondRun_append, List.mem_append] at member
    rcases member with before | last
    · exact ih before
    · split at last
      · next mark =>
        rw [List.mem_singleton.mp last]
        exact isDataPkt_of_perform mark
      · cases last

theorem InUse.init {c : DestHashClassifier} {js : List Joint} {j : Joint} (inUse : c.InUse (js ++ [j])) : c.InUse js :=
  fun pre i post split label leaves => inUse pre i (post ++ [j]) (by rw [split]; simp) label leaves

theorem Compared.run (js : List Joint) (raises : ∀ j ∈ js, j.Raises) (ordered : js.Pairwise fun i j => i.time ≤ j.time)
    (inUse : c.InUse js) : (∀ label, c.Compared label js ((c.firstRun js).1 label) ((c.secondRun js).1 label)) ∧
      (c.firstRun js).2.Sublist (c.secondRun js).2 := by
  -- on the events so far: the last one is the only one to look at
  induction js using List.reverseRecOn with
  | nil =>
    exact ⟨fun label => ⟨Behind.refl c _, Nat.zero_le _, Nat.zero_le _, fun _ _ positive =>
      absurd positive (lt_irrefl _),
      by simp, fun _ => rfl⟩, List.Sublist.refl _⟩
  | append_singleton js j ih =>
    obtain ⟨before, -, later⟩ := List.pairwise_append.mp ordered
    have later : ∀ i ∈ js, i.time ≤ j.time := fun i member => later i member j (by simp)
    obtain ⟨compared, marks⟩ := ih (fun i member => raises i (by simp [member])) before inUse.init
    have raise := raises j (by simp)
    rw [secondRun_append]
    cases j with
    | extra call =>
      rw [firstRun_extra]
      refine ⟨fun label => ?_, marks.trans (List.sublist_append_left _ _)⟩
      rw [(c.perform_at whole _ _).1 label]
      exact (compared label).extra raise (inUse js _ [] rfl label) later
    | both call credit =>
      have raised : call.packet.hdr.msgType = .grant → call.packet.hdr.credit ≤ credit := fun grant => by
        simp only [Joint.Raises, grant, if_true] at raise
        exact raise.2
      have step := fun label => ((compared label).takeIn call raised).dispatch call credit later
      rw [firstRun_both]
      refine ⟨fun label => ?_, marks.append ?_⟩
      · rw [(c.perform_at whole _ _).1 label, (c.perform_at whole _ _).1 label]
        exact (step label).1
      · split
        · next mark =>
          have same := withCredit_of_mark raise mark
          have twice : (c.perform whole (c.secondRun js).1 (call.withCredit credit)).2 = true := by
            rw [(c.perform_at whole _ _).2] at mark ⊢
            rw [leavesBy_withCredit]
            cases leaves : c.leavesBy call with
            | none => simp [leaves] at mark
            | some label =>
              rw [leaves] at mark
              exact (step label).2 mark
          simp only [Joint.second, same] at twice ⊢
          rw [if_pos twice]
        · exact List.nil_sublist _

/-- A port by which no other credit enters and no other GRANT leaves does not
tell the two runs apart. -/
theorem same_port (label : ℤ) (js : List Joint) (raises : ∀ j ∈ js, j.Raises) (keeps : ∀ j ∈ js, j.Keeps c label) :
    (c.firstRun js).1 label = (c.secondRun js).1 label ∧
      (c.firstRun js).2.filter (fun call => c.leavesBy call = some label) =
        (c.secondRun js).2.filter (fun call => c.leavesBy call = some label) := by
  -- the port is the same before the last event, and the event treats it the same
  induction js using List.reverseRecOn with
  | nil => exact ⟨rfl, rfl⟩
  | append_singleton js j ih =>
    obtain ⟨status, marks⟩ :=
      ih (fun i member => raises i (by simp [member])) fun i member => keeps i (by simp [member])
    have raise := raises j (by simp)
    have keep := keeps j (by simp)
    rw [secondRun_append]
    cases j with
    | extra call =>
      rw [firstRun_extra]
      have elsewhere : c.dispatch whole label call (c.takeIn whole label call ((c.secondRun js).1 label)) =
          ((c.secondRun js).1 label, false) := by
        rw [DestHashClassifier.takeIn, if_neg keep.1, DestHashClassifier.dispatch, if_neg keep.2]
      refine ⟨?_, ?_⟩
      · rw [(c.perform_at whole _ _).1 label, Joint.second, elsewhere, status]
      · rw [List.filter_append, marks]
        split <;> simp [Joint.second, keep.2]
    | both call credit =>
      rw [firstRun_both]
      have same : c.dispatch whole label (call.withCredit credit) (c.takeIn whole label (call.withCredit credit)
          ((c.secondRun js).1 label)) = c.dispatch whole label call
            (c.takeIn whole label call ((c.firstRun js).1 label)) := by
        rw [status]
        have admitted : c.takeIn whole label (call.withCredit credit) ((c.secondRun js).1 label) =
            c.takeIn whole label call ((c.secondRun js).1 label) := by
          unfold DestHashClassifier.takeIn
          rw [entersBy_withCredit]
          split
          · next enters =>
            rw [keep enters]
            cases call <;> rfl
          · rfl
        rw [admitted]
        unfold DestHashClassifier.dispatch
        rw [leavesBy_withCredit]
        cases call <;> rfl
      refine ⟨by rw [(c.perform_at whole _ _).1 label, (c.perform_at whole _ _).1 label, Joint.second, same], ?_⟩
      rw [List.filter_append, List.filter_append, marks]
      congr 1
      by_cases leaves : c.leavesBy call = some label
      · have mark : (c.perform whole (c.secondRun js).1 (call.withCredit credit)).2 =
            (c.perform whole (c.firstRun js).1 call).2 := by
          rw [(c.perform_at whole _ _).2, (c.perform_at whole _ _).2, leavesBy_withCredit, leaves]
          exact congrArg Prod.snd same
        rw [Joint.second, mark]
        split
        · next marked => rw [withCredit_of_mark raise marked]
        · rfl
      · have there : c.leavesBy (call.withCredit credit) ≠ some label := by rwa [leavesBy_withCredit]
        split <;> split <;> simp [Joint.second, leaves, there]

/-- More credit in the GRANTs, or more of them that leave by ports in use only:
at every point of such runs the second has no phantom queue above the bound, and
none that is shorter than in the first where both were drained up to one time,
as they are where no GRANT of its own left, and everywhere once they are; it has
marked all that the first has, and data packets only; and a port that its credit
and GRANTs do not touch has behaved the same. -/
theorem marking_monotone (js : List Joint) (raises : ∀ j ∈ js, j.Raises)
    (ordered : js.Pairwise fun i j => i.time ≤ j.time) (inUse : c.InUse js) :
    (∀ label, ((c.secondRun js).1 label).pqlen ≤ 10 * c.pthr ∧
      ((∀ j ∈ js, ¬ j.ExtraLeaves c label) → ((c.firstRun js).1 label).lastTime = ((c.secondRun js).1 label).lastTime) ∧
      (((c.firstRun js).1 label).lastTime = ((c.secondRun js).1 label).lastTime →
        ((c.firstRun js).1 label).pqlen ≤ ((c.secondRun js).1 label).pqlen) ∧
      ∀ now, (∀ j ∈ js, j.time ≤ now) →
        c.lengthAt ((c.firstRun js).1 label) now ≤ c.lengthAt ((c.secondRun js).1 label) now) ∧
    (c.firstRun js).2.Sublist (c.secondRun js).2 ∧
    (∀ call ∈ (c.secondRun js).2, call.packet.hdr.msgType = .request ∨ call.packet.hdr.msgType = .grantReq ∨
      call.packet.hdr.msgType = .reply) ∧
    ∀ label, (∀ j ∈ js, j.Keeps c label) → (c.firstRun js).1 label = (c.secondRun js).1 label ∧
      (c.firstRun js).2.filter (fun call => c.leavesBy call = some label) =
        (c.secondRun js).2.filter (fun call => c.leavesBy call = some label) := by
  obtain ⟨compared, marks⟩ := Compared.run c js raises ordered inUse
  refine ⟨fun label => ⟨?_, (compared label).apart, fun same => ?_, fun now later => ?_⟩, marks, fun call member => ?_,
    fun label => same_port c label js raises⟩
  · have bounded := (compared label).second
    unfold limit at bounded
    omega
  · have pqlen := (compared label).behind.pqlen
    simpa [same, delta] using pqlen
  · exact (compared label).behind.lengthAt ((compared label).past now later)
  · have data := isDataPkt_of_marked c js member
    simpa [isDataPkt, or_assoc] using data

end Run

/-- A switch with two ports and a threshold of 1000 bytes, and a packet across it. -/
def twoPorts : DestHashClassifier := { onePort with pthr := 1000, lookup := fun dst => dst, maxslot := 1, slot := some }

def toHost (dst : Addr) (msgType : MsgType) (credit : ℤ) (now : Time) : Call :=
  .classify { frame msgType credit with dst } (1 - dst) now fun _ => 0

theorem inUse_of_start {c : DestHashClassifier} (start rest : List Joint)
    (both : ∀ j ∈ start, ∀ label, ¬ j.ExtraLeaves c label)
    (used : ∀ j ∈ rest, ∀ label, j.ExtraLeaves c label → ∃ i ∈ start, i.BothLeave c label ∧ 0 < i.time) :
    c.InUse (start ++ rest) := by
  intro pre j post split label leaves
  rcases List.append_eq_append_iff.mp split with behind | within
  · obtain ⟨later, rfl, rest_⟩ := behind
    obtain ⟨i, member, use⟩ := used j (by rw [rest_]; simp) label leaves
    exact ⟨i, List.mem_append_left _ member, use⟩
  · obtain ⟨later, start_, rest_⟩ := within
    cases later with
    | nil =>
      obtain ⟨i, member, use⟩ := used j (by rw [← List.nil_append rest, ← rest_]; simp) label leaves
      exact ⟨i, by simpa [start_] using member, use⟩
    | cons first later =>
      obtain ⟨rfl, -⟩ := List.cons.inj rest_
      exact absurd leaves (both j (by rw [start_]; simp) label)

theorem leavesBy_toHost (dst : Addr) (small : dst ≤ 1) (msgType : MsgType) (credit : ℤ) (now : Time) :
    twoPorts.leavesBy (toHost dst msgType credit now) = some (dst : ℤ) := by
  simp [leavesBy, toHost, twoPorts, onePort, retSlot, getIface, frame, small]

theorem time_toHost (dst : Addr) (msgType : MsgType) (credit : ℤ) (now : Time) :
    (toHost dst msgType credit now).time = now := rfl

/-- Two GRANTs against one with the credit of both, and another two that leave by
ports in use. -/
theorem marking_monotone_once :
    (twoPorts.firstRun ([.both (toHost 0 .request 0 1) 0, .both (toHost 1 .request 0 1) 0] ++
        [.both (toHost 1 .grant 1000 2) 2000, .extra (toHost 0 .grant 0 2), .extra (toHost 1 .grant 1000 2),
          .both (toHost 0 .request 0 2) 0])).2.Sublist
      (twoPorts.secondRun ([.both (toHost 0 .request 0 1) 0, .both (toHost 1 .request 0 1) 0] ++
        [.both (toHost 1 .grant 1000 2) 2000, .extra (toHost 0 .grant 0 2), .extra (toHost 1 .grant 1000 2),
          .both (toHost 0 .request 0 2) 0])).2 := by
  refine (marking_monotone twoPorts _ ?_ ?_ (inUse_of_start _ _ ?_ ?_)).2.1
  · simp [Joint.Raises, Call.packet, toHost, frame]
  · norm_num [Joint.time, time_toHost]
  · simp [Joint.ExtraLeaves]
  · simp [Joint.ExtraLeaves, Joint.BothLeave, Joint.time, leavesBy_toHost, time_toHost]

/-- A port that no packet has left by yet holds its 2000 bytes of credit until one
does, so that the packet is marked; a GRANT that leaves there before it sets the
clock, and all is drained until the packet comes. And behind a GRANT that leaves
by a port in use, the length is drained where it was not. -/
theorem extra_grant_unmarks :
    (∃ js : List Joint, (∀ j ∈ js, j.Raises) ∧ (js.Pairwise fun i j => i.time ≤ j.time) ∧
      ((twoPorts.firstRun js).1 0).pqlen = 2000 ∧ ((twoPorts.secondRun js).1 0).pqlen = 0 ∧
      (twoPorts.firstRun js).2.length = 1 ∧ (twoPorts.secondRun js).2 = []) ∧
    ∃ js : List Joint, (∀ j ∈ js, j.Raises) ∧ (js.Pairwise fun i j => i.time ≤ j.time) ∧ twoPorts.InUse js ∧
      ((twoPorts.firstRun js).1 0).pqlen = 2000 ∧ ((twoPorts.secondRun js).1 0).pqlen = 0 := by
  refine ⟨⟨[.both (toHost 1 .grant 2000 1) 2000, .extra (toHost 0 .grant 0 2), .both (toHost 0 .request 0 3) 0], ?_, ?_,
    by decide +kernel, by decide +kernel, by decide +kernel, List.length_eq_zero_iff.mp (by decide +kernel)⟩,
    [.both (toHost 0 .request 0 1) 0, .both (toHost 1 .grant 2000 2) 2000, .extra (toHost 0 .grant 0 3)], ?_, ?_, ?_,
    by decide +kernel, by decide +kernel⟩
  · simp [Joint.Raises, Call.packet, toHost, frame]
  · norm_num [Joint.time, time_toHost]
  · simp [Joint.Raises, Call.packet, toHost, frame]
  · norm_num [Joint.time, time_toHost]
  · apply inUse_of_start [.both (toHost 0 .request 0 1) 0]
    · simp [Joint.ExtraLeaves]
    · simp [Joint.ExtraLeaves, Joint.BothLeave, Joint.time, leavesBy_toHost, time_toHost]

end PhantomPass.Switch.DestHashClassifier
