import PhantomPass.Switch.DestHash
import PhantomPass.Tofino.Registers
import Mathlib

/-! The Tofino program against the simulator's switch, both with exact
arithmetic and the same threshold, bound and drain rate. The program has no
field that tells scheduled data apart and no use for a GRANT on its way out, and
it goes by the length of the IPv4 packet, not by the size of the frame. -/

set_option autoImplicit false

namespace PhantomPass.Tofino

open Switch DestHashClassifier

/-- The numbers of the program, exact, and its constants those of a switch of the simulator. -/
def exactly (c : DestHashClassifier) : Arithmetic ℚ ℚ ℚ ℤ where
  kPTHR := c.limit
  PTHR := c.pthr
  isEmptyThreshold := c.pEgressQueueThreshByte
  globalTstamp stamp := stamp
  totalLen length := length.toNat
  credit credit := credit.toNat
  shift := c.delta
  narrow value := value

/-- msg_type of the PPass header, for the types that it has. -/
def code : MsgType → Option (BitVec 8)
  | .grantReq => some 0
  | .grant => some 1
  | .request => some 2
  | .reply => some 3
  | _ => none

/-- A packet that passes the switch, as the program finds it in Egress and as the
simulator's switch does; by ports that have cells. -/
structure Passage where
  arrival : Arrival ℚ ℚ ℤ
  packet : Packet
  ppass : PpassH
  ipv4 : Ipv4H
  ifaceIn : Fin 32
  ifaceOut : Fin 32
  validPpass : arrival.hdr.ppass = some ppass
  validIpv4 : arrival.hdr.ipv4 = some ipv4
  msgType : code packet.hdr.msgType = some ppass.msgType
  credit : packet.hdr.credit = ppass.credit.toNat
  entersBy : cellAt (ppass.ingressPort.setWidth 9) = some ifaceIn
  leavesBy : cellAt arrival.md.egressPort = some ifaceOut

def label (port : Fin 32) : ℤ := port.val

namespace Passage

variable (p : Passage)

def now : Time := p.arrival.md.globalTstamp

/-- What the simulator's switch does with the packet: ppass_ingress and ppass_egress. -/
def touches : List Touch :=
  [.enter (label p.ifaceIn) p.packet p.now, .leave (label p.ifaceOut) p.packet p.now p.arrival.md.deqQdepth]

/-- The packet with the length of the IPv4 packet for its size, and of unsolicited data. -/
def counted : Packet := { p.packet with size := p.ipv4.totalLen.toNat, hdr.unsolCredit := 1 }

/-- What it would have to do to agree: no GRANT leaves, and every other packet
counts, by the length of its IPv4 packet. -/
def countedTouches : List Touch :=
  .enter (label p.ifaceIn) p.packet p.now ::
    if p.packet.hdr.msgType = .grant then []
    else [.leave (label p.ifaceOut) p.counted p.now p.arrival.md.deqQdepth]

def marked (c : DestHashClassifier) (regs : Registers ℚ) : Bool :=
  p.packet.hdr.msgType != .grant && ((exactly c).egressOther regs p.arrival).2

theorem msgType_eq_one : p.ppass.msgType = 1 ↔ p.packet.hdr.msgType = .grant := by
  have types := p.msgType
  cases kind : p.packet.hdr.msgType <;> simp_all [code] <;> rw [← types] <;> decide

theorem isDataPkt_of_not_grant (notGrant : p.packet.hdr.msgType ≠ .grant) : isDataPkt p.packet.hdr = true := by
  have types := p.msgType
  cases kind : p.packet.hdr.msgType <;> simp_all [code, isDataPkt]

theorem isOther (notGrant : p.packet.hdr.msgType ≠ .grant) : p.arrival.IsOther :=
  ⟨p.ppass, p.validPpass, fun one => notGrant (p.msgType_eq_one.mp one)⟩

theorem cell_grant (grant : p.packet.hdr.msgType = .grant) : p.arrival.cell = some p.ifaceIn := by
  have credit := p.msgType_eq_one.mpr grant
  simp only [Arrival.cell, Arrival.index, p.validPpass, Option.map_some, Option.bind_some, credit, if_true, p.entersBy]

theorem cell_other (notGrant : p.packet.hdr.msgType ≠ .grant) : p.arrival.cell = some p.ifaceOut := by
  have notCredit : p.ppass.msgType ≠ 1 := fun one => notGrant (p.msgType_eq_one.mp one)
  simp only [Arrival.cell, Arrival.index, p.validPpass, Option.map_some, Option.bind_some, notCredit,
    if_false, p.leavesBy]

theorem egress_hdr (c : DestHashClassifier) (regs : Registers ℚ) : ((exactly c).egress regs p.arrival).2 =
    if p.marked c regs then { p.arrival.hdr with ppass := some { p.ppass with nwMarked := 1 } } else p.arrival.hdr := by
  unfold marked
  by_cases grant : p.packet.hdr.msgType = .grant
  · rw [(exactly c).egress_credit regs p.arrival p.validPpass (p.msgType_eq_one.mpr grant)]
    simp [grant]
  · rw [(exactly c).egress_hdr regs p.arrival p.validPpass fun one => grant (p.msgType_eq_one.mp one)]
    simp [grant]

end Passage

/-- No packet leaves a queue longer than the bound, which the program only
puts on credit. -/
def WithinBound (c : DestHashClassifier) : Registers ℚ → List Passage → Prop
  | _, [] => True
  | regs, p :: passages =>
    (p.packet.hdr.msgType ≠ .grant → ((exactly c).egress regs p.arrival).1.phantomQueueReg p.ifaceOut ≤ c.limit) ∧
      WithinBound c ((exactly c).egress regs p.arrival).1 passages

/-- The packets that leave and are timed do not leave at time 0. -/
def Timed (p : Passage) : Prop := p.packet.hdr.msgType ≠ .grant → p.now ≠ 0

def programRun (c : DestHashClassifier) (regs : Registers ℚ) (passages : List Passage) : Registers ℚ :=
  (exactly c).run regs (passages.map Passage.arrival)

/-- Every port has the same queue and the same last packet. -/
structure Agree (c : DestHashClassifier) (regs : Registers ℚ) (ports : Ports ℚ) : Prop where
  pqlen : ∀ port, (ports (label port)).pqlen = regs.phantomQueueReg port
  lastTime : ∀ port, (ports (label port)).lastTime = regs.timestampReg port
  used : ∀ port, (ports (label port)).lastTime ≠ 0
  bounded : ∀ port, (ports (label port)).pqlen ≤ c.limit

variable {c : DestHashClassifier} {regs : Registers ℚ} {ports : Ports ℚ}

theorem minOf_eq_iff {α : Type*} [LinearOrder α] (a b : α) : minOf a b = a ↔ a ≤ b := by
  unfold minOf
  split
  · next less => exact ⟨fun same => absurd less (same ▸ lt_irrefl b), fun le => absurd less (not_lt.mpr le)⟩
  · next more => exact ⟨fun _ => not_lt.mp more, fun _ => rfl⟩

theorem label_inj {a b : Fin 32} : label a = label b ↔ a = b := by
  rw [label, label, Int.ofNat_inj, Fin.val_inj]

theorem Agree.update (agree : Agree c regs ports) (port : Fin 32) {regs' : Registers ℚ} {status : PPassPortStatus ℚ}
    (pqlen : status.pqlen = regs'.phantomQueueReg port) (lastTime : status.lastTime = regs'.timestampReg port)
    (used : status.lastTime ≠ 0) (bounded : status.pqlen ≤ c.limit)
    (frame : ∀ other, other ≠ port → regs'.phantomQueueReg other = regs.phantomQueueReg other ∧
      regs'.timestampReg other = regs.timestampReg other) :
    Agree c regs' (Function.update ports (label port) status) := by
  have elsewhere : ∀ other, other ≠ port → Function.update ports (label port) status (label other) =
    ports (label other) :=
    fun other differ => Function.update_of_ne (fun same => differ (label_inj.mp same)) _ _
  refine ⟨fun other => ?_, fun other => ?_, fun other => ?_, fun other => ?_⟩ <;>
    by_cases here : other = port
  · rw [here, Function.update_self, pqlen]
  · rw [elsewhere other here, (frame other here).1, agree.pqlen other]
  · rw [here, Function.update_self, lastTime]
  · rw [elsewhere other here, (frame other here).2, agree.lastTime other]
  · rw [here, Function.update_self]
    exact used
  · rw [elsewhere other here]
    exact agree.used other
  · rw [here, Function.update_self]
    exact bounded
  · rw [elsewhere other here]
    exact agree.bounded other

theorem compared_counted (agree : Agree c regs ports) (p : Passage) :
    c.compared exact (ports (label p.ifaceOut)) p.counted p.now =
      ppassOtherPktAction ((exactly c).ppassUnit regs p.arrival) (regs.phantomQueueReg p.ifaceOut) := by
  have interval : interval (ports (label p.ifaceOut)) p.now = p.now - regs.timestampReg p.ifaceOut := by
    rw [DestHashClassifier.interval, if_neg (agree.used p.ifaceOut), agree.lastTime p.ifaceOut]
  have drain : exact.ofDrain (c.delta (p.now - regs.timestampReg p.ifaceOut)) =
      c.delta (p.now - regs.timestampReg p.ifaceOut) := rfl
  have sum : exact.add (ports (label p.ifaceOut)).pqlen p.counted.size =
      regs.phantomQueueReg p.ifaceOut + p.ipv4.totalLen.toNat := by
    rw [agree.pqlen p.ifaceOut]
    rfl
  have counts : counts p.counted.hdr = true := by simp [counts, Passage.counted]
  have unit : (exactly c).ppassUnit regs p.arrival =
      c.delta (p.now - regs.timestampReg p.ifaceOut) - p.ipv4.totalLen.toNat := by
    rw [Arithmetic.ppassUnit, executed_at _ _ _ p.leavesBy, p.validIpv4]
    rfl
  simp only [compared, counts, if_true, interval, drain, sum, unit, ppassOtherPktAction]
  rcases lt_or_ge (regs.phantomQueueReg p.ifaceOut + p.ipv4.totalLen.toNat)
    (c.delta (p.now - regs.timestampReg p.ifaceOut)) with short | enough
  · rw [if_pos short, if_pos (by linarith)]
  · rw [if_neg (not_lt.mpr enough), if_neg (by linarith)]
    linarith

theorem Agree.grant (agree : Agree c regs ports) {p : Passage} (grant : p.packet.hdr.msgType = .grant) :
    Agree c ((exactly c).egress regs p.arrival).1
      (c.touch exact ports (.enter (label p.ifaceIn) p.packet p.now)).1 := by
  have credit := p.msgType_eq_one.mpr grant
  have after := (exactly c).egress_credit regs p.arrival p.validPpass credit
  have stamps : ((exactly c).egress regs p.arrival).1.timestampReg = regs.timestampReg := by
    rw [after]
    rfl
  have sum : exact.add (ports (label p.ifaceIn)).pqlen p.packet.hdr.credit =
      regs.phantomQueueReg p.ifaceIn + p.ppass.credit.toNat := by
    rw [agree.pqlen p.ifaceIn, p.credit]
    simp [exact]
  have filled : (c.ppassIngress exact (ports (label p.ifaceIn)) p.packet).pqlen =
      ((exactly c).egress regs p.arrival).1.phantomQueueReg p.ifaceIn := by
    rw [(exactly c).egress_queue_credit regs p.arrival p.validPpass credit p.entersBy]
    simp only [ppassIngress, grant, if_true, sum]
    rcases lt_or_ge (c.limit : ℚ) (regs.phantomQueueReg p.ifaceIn + p.ppass.credit.toNat) with above | within
    · exact (min_eq_right above.le).trans (if_pos above).symm
    · exact (min_eq_left within).trans (if_neg (not_lt.mpr within)).symm
  refine agree.update p.ifaceIn filled ?_ (agree.used p.ifaceIn) (min_le_right _ _) fun other differ =>
    ⟨?_, by rw [stamps]⟩
  · rw [stamps]
    exact agree.lastTime p.ifaceIn
  · apply (exactly c).egress_frame regs p.arrival
    rw [p.cell_grant grant]
    exact fun same => differ (Option.some.inj same).symm

/-- A leaving packet that counts: the same length, and the program marks it if
the simulator does; it alone marks only on a tie. -/
theorem Agree.other (agree : Agree c regs ports) {p : Passage} (notGrant : p.packet.hdr.msgType ≠ .grant)
    (timed : Timed p) (within : ((exactly c).egress regs p.arrival).1.phantomQueueReg p.ifaceOut ≤ c.limit) :
    Agree c ((exactly c).egress regs p.arrival).1
        (c.touch exact ports (.leave (label p.ifaceOut) p.counted p.now p.arrival.md.deqQdepth)).1 ∧
      ((c.touch exact ports (.leave (label p.ifaceOut) p.counted p.now p.arrival.md.deqQdepth)).2 = true →
        p.marked c regs = true) ∧
      (p.marked c regs = true →
        (c.touch exact ports (.leave (label p.ifaceOut) p.counted p.now p.arrival.md.deqQdepth)).2 = true ∨
          ((exactly c).egress regs p.arrival).1.phantomQueueReg p.ifaceOut = c.pthr ∨
          p.arrival.md.deqQdepth = c.pEgressQueueThreshByte) := by
  have other := p.isOther notGrant
  have queue := (exactly c).egress_queue_other regs p.arrival other p.leavesBy
  have same := compared_counted agree p
  rw [queue, ← same] at within ⊢
  have narrow : (exactly c).narrow (executed regs.phantomQueueReg p.arrival.md.egressPort
      (ppassOtherPktAction ((exactly c).ppassUnit regs p.arrival)) p.arrival.md.noCell) =
      c.compared exact (ports (label p.ifaceOut)) p.counted p.now := by
    rw [executed_at _ _ _ p.leavesBy, same]
    rfl
  have marks : p.marked c regs = true ↔ (c.pthr : ℚ) ≤ c.compared exact (ports (label p.ifaceOut)) p.counted p.now ∧
      c.pEgressQueueThreshByte ≤ p.arrival.md.deqQdepth := by
    simp only [Passage.marked, Arithmetic.egressOther, narrow, bne_iff_ne.mpr notGrant, Bool.true_and, Bool.and_eq_true,
      beq_iff_eq]
    exact and_congr (minOf_eq_iff _ _) (minOf_eq_iff _ _)
  have data : isDataPkt p.counted.hdr = true := p.isDataPkt_of_not_grant notGrant
  refine ⟨agree.update p.ifaceOut ?_ ?_ (timed notGrant) (min_le_right _ _) fun port differ => ⟨?_, ?_⟩, ?_, ?_⟩
  · rw [queue, ← same]
    exact min_eq_left within
  · exact ((exactly c).timestamp_other regs p.arrival other p.leavesBy).symm
  · apply (exactly c).egress_frame regs p.arrival
    rw [p.cell_other notGrant]
    exact fun here => differ (Option.some.inj here).symm
  · apply (exactly c).timestamp_frame regs p.arrival
    intro _ here
    rw [p.leavesBy] at here
    exact differ (Option.some.inj here).symm
  · simp only [touch, ppassEgress, data, Bool.true_and, Bool.and_eq_true, decide_eq_true_eq, marks]
    exact fun mark => ⟨mark.1.le, mark.2.le⟩
  · simp only [touch, ppassEgress, data, Bool.true_and, Bool.and_eq_true, decide_eq_true_eq, marks]
    rintro ⟨long, deep⟩
    rcases long.lt_or_eq with above | tie
    · rcases deep.lt_or_eq with above' | tie
      · exact Or.inl ⟨above, above'⟩
      · exact Or.inr (Or.inr tie.symm)
    · exact Or.inr (Or.inl tie.symm)

theorem Agree.step (agree : Agree c regs ports) {p : Passage} (timed : Timed p)
    (within : p.packet.hdr.msgType ≠ .grant → ((exactly c).egress regs p.arrival).1.phantomQueueReg p.ifaceOut ≤
    c.limit) :
    Agree c ((exactly c).egress regs p.arrival).1 (c.run exact ports p.countedTouches).1 ∧
      (true ∈ (c.run exact ports p.countedTouches).2 → p.marked c regs = true) ∧
      (p.marked c regs = true → true ∈ (c.run exact ports p.countedTouches).2 ∨
        ((exactly c).egress regs p.arrival).1.phantomQueueReg p.ifaceOut = c.pthr ∨
        p.arrival.md.deqQdepth = c.pEgressQueueThreshByte) := by
  by_cases grant : p.packet.hdr.msgType = .grant
  · have touches : p.countedTouches = [.enter (label p.ifaceIn) p.packet p.now] := by
      rw [Passage.countedTouches, if_pos grant]
    rw [touches]
    refine ⟨agree.grant grant, fun mark => ?_, fun mark => ?_⟩
    · simp [DestHashClassifier.run, touch] at mark
    · simp [Passage.marked, grant] at mark
  · have touches : p.countedTouches = [.enter (label p.ifaceIn) p.packet p.now,
        .leave (label p.ifaceOut) p.counted p.now p.arrival.md.deqQdepth] := by
      rw [Passage.countedTouches, if_neg grant]
    have stays : (c.touch exact ports (.enter (label p.ifaceIn) p.packet p.now)).1 = ports := by
      have same : c.ppassIngress exact (ports (label p.ifaceIn)) p.packet = ports (label p.ifaceIn) := by
        simp only [ppassIngress, grant, if_false, min_eq_left (agree.bounded p.ifaceIn)]
      simp only [touch, same, Function.update_eq_self]
    obtain ⟨after, forward, back⟩ := agree.other grant timed (within grant)
    rw [touches]
    simp only [DestHashClassifier.run, stays]
    refine ⟨after, fun mark => forward ?_, fun mark => ?_⟩
    · simpa [touch] using mark
    · simpa [touch] using back mark

theorem programRun_append (regs : Registers ℚ) (passages : List Passage) (p : Passage) :
    programRun c regs (passages ++ [p]) = ((exactly c).egress (programRun c regs passages) p.arrival).1 := by
  rw [programRun, List.map_append, Arithmetic.run, List.foldl_append]
  rfl

theorem withinBound_append (before after : List Passage) (regs : Registers ℚ) :
    WithinBound c regs (before ++ after) ↔ WithinBound c regs before ∧ WithinBound c
    (programRun c regs before) after := by
  induction before generalizing regs with
  | nil => simp [WithinBound, programRun, Arithmetic.run]
  | cons p before ih => simp only [List.cons_append, WithinBound, ih, and_assoc]; rfl

theorem Agree.run (passages : List Passage) (agree : Agree c regs ports) (timed : ∀ p ∈ passages, Timed p)
    (within : WithinBound c regs passages) :
    Agree c (programRun c regs passages) (c.run exact ports (passages.flatMap Passage.countedTouches)).1 := by
  -- the two sides agree before the last packet, and it does the same to both
  induction passages using List.reverseRecOn with
  | nil => exact agree
  | append_singleton passages p ih =>
    obtain ⟨before, here, -⟩ := (withinBound_append passages [p] regs).mp within
    have next := (ih (fun q member => timed q (by simp [member])) before).step (timed p (by simp)) here
    rw [programRun_append, List.flatMap_append, List.flatMap_singleton, run_append]
    exact next.1

/-- From the same queues and the same last packets, while no packet leaves a
queue longer than the bound: after each packet the program has the queues of
the simulator's switch that sees no GRANT leave and counts every other packet
that does, by its IPv4 length; it marks what that switch marks, and the two
differ in a mark only if the queue is just as long as one of the thresholds; and
the mark is all that it writes to the headers. -/
theorem program_matches_simulator (c : DestHashClassifier) (regs : Registers ℚ) (ports : Ports ℚ)
    (agree : Agree c regs ports) (passages : List Passage) (p : Passage)
    (timed : ∀ q ∈ passages ++ [p], Timed q) (within : WithinBound c regs (passages ++ [p])) :
    (∀ port, ((c.run exact ports ((passages ++ [p]).flatMap Passage.countedTouches)).1 (label port)).pqlen =
        (programRun c regs (passages ++ [p])).phantomQueueReg port) ∧
      (true ∈ (c.run exact (c.run exact ports (passages.flatMap Passage.countedTouches)).1 p.countedTouches).2 →
        p.marked c (programRun c regs passages) = true) ∧
      (p.marked c (programRun c regs passages) = true →
        true ∈ (c.run exact (c.run exact ports (passages.flatMap Passage.countedTouches)).1 p.countedTouches).2 ∨
          (programRun c regs (passages ++ [p])).phantomQueueReg p.ifaceOut = c.pthr ∨
          p.arrival.md.deqQdepth = c.pEgressQueueThreshByte) ∧
      ((exactly c).egress (programRun c regs passages) p.arrival).2 =
        if p.marked c (programRun c regs passages) then
          { p.arrival.hdr with ppass := some { p.ppass with nwMarked := 1 } }
        else p.arrival.hdr := by
  obtain ⟨before, last, -⟩ := (withinBound_append passages [p] regs).mp within
  have agreed := agree.run passages (fun q member => timed q (by simp [member])) before
  obtain ⟨-, forward, back⟩ := agreed.step (timed p (by simp)) last
  refine ⟨(agree.run (passages ++ [p]) timed within).pqlen, forward, ?_, p.egress_hdr c _⟩
  rw [programRun_append]
  exact back

def across (msgType : MsgType) (type : BitVec 8) (same : code msgType = some type) (credit : BitVec 32)
    (totalLen : BitVec 16) (size : ℕ) : Passage where
  arrival := ⟨ppassFrame type credit totalLen, ⟨0, 0, 1, 0⟩⟩
  packet := { frame msgType credit.toNat with size }
  ppass := _
  ipv4 := _
  ifaceIn := 0
  ifaceOut := 0
  validPpass := rfl
  validIpv4 := rfl
  msgType := same
  credit := rfl
  entersBy := rfl
  leavesBy := rfl

/-- From empty queues, a GRANT in and a GRANT_REQ out. -/
theorem program_matches_simulator_once :
    ((onePort.run exact (fun _ => ⟨0, 1⟩) ([across .grant 1 rfl 1538 46 84, across .grantReq 0 rfl 0 46 84].flatMap
        Passage.countedTouches)).1 (label 0)).pqlen =
      (programRun onePort ⟨fun _ => 1, fun _ => 0⟩ [across .grant 1 rfl 1538 46 84,
        across .grantReq 0 rfl 0 46 84]).phantomQueueReg 0 :=
  (program_matches_simulator onePort ⟨fun _ => 1, fun _ => 0⟩ (fun _ => ⟨0, 1⟩)
    ⟨fun _ => rfl, fun _ => rfl, fun _ => one_ne_zero, fun _ => Nat.cast_nonneg _⟩
    [across .grant 1 rfl 1538 46 84] (across .grantReq 0 rfl 0 46 84)
    (by simp [Timed, Passage.now, across])
    ⟨by decide +kernel, by decide +kernel, trivial⟩).1 0

/-- Two packets of scheduled data that leave at once: the program has counted
the second one, the simulator none. And a GRANT_REQ of a full frame counts 1500
bytes in the one and 1538 in the other. -/
theorem scheduled_data_differs :
    ((programRun onePort Registers.zero [across .request 2 rfl 0 1500 1538,
        across .request 2 rfl 0 1500 1538]).phantomQueueReg 0 = 1500 ∧
      ((onePort.run exact Ports.fresh ([across .request 2 rfl 0 1500 1538,
        across .request 2 rfl 0 1500 1538].flatMap Passage.touches)).1 (label 0)).pqlen = 0) ∧
    (programRun onePort ⟨fun _ => 1, fun _ => 0⟩ [across .grantReq 0 rfl 0 1500 1538]).phantomQueueReg 0 = 1500 ∧
      ((onePort.run exact (fun _ => ⟨0, 1⟩) ([across .grantReq 0 rfl 0 1500 1538].flatMap
        Passage.touches)).1 (label 0)).pqlen = 1538 := by
  decide +kernel

end PhantomPass.Tofino
