import PhantomPass.Tofino.Egress

/-! What the registers of the Tofino program hold. The phantom queues never
pass their bound; they drain by the time between packets when a packet is
shorter than what has drained, but are emptied when it is longer. -/

set_option autoImplicit false

namespace PhantomPass.Tofino

def drains (t₁ t₂ : ℕ) (totalLen : BitVec 16) : ℤ := 4 * ((t₂ : ℤ) - t₁) - totalLen.toNat

theorem interval_toNat {t₁ t₂ : ℕ} (ordered : t₁ ≤ t₂) (close : t₂ - t₁ < 2 ^ 32) :
    (bits.getAndUpdateTimestamp (BitVec.ofNat 48 t₂) ((BitVec.ofNat 48 t₁).setWidth 32)).1.toNat = t₂ - t₁ := by
  simp only [Arithmetic.getAndUpdateTimestamp, bits, BitVec.toNat_sub, BitVec.toNat_setWidth, BitVec.toNat_ofNat]
  omega

theorem ppassUnit_toNat (interval : BitVec 32) (totalLen : BitVec 16) :
    ((getPpassUint (bits.getReduceUint interval) (totalLen.setWidth 32)).toNat : ℤ) =
      (4 * (interval.toNat : ℤ) - totalLen.toNat) % 2 ^ 32 := by
  have shift : (bits.getReduceUint interval).toNat = 4 * interval.toNat % 2 ^ 32 := by
    simp only [Arithmetic.getReduceUint, bits, RHO_LINE_RATE]
    simp [BitVec.toNat_shiftLeft, Nat.shiftLeft_eq, Nat.mul_comm]
  have len : (totalLen.setWidth 32).toNat = totalLen.toNat := by
    rw [BitVec.toNat_setWidth]
    have := totalLen.isLt
    omega
  rw [getPpassUint, BitVec.toNat_sub, shift, len]
  have := totalLen.isLt
  omega

theorem ppassOther_toNat (unit value : BitVec 32) :
    ((ppassOtherPktAction unit value).toNat : ℤ) = max 0 ((value.toNat : ℤ) - unit.toNat) := by
  unfold ppassOtherPktAction
  split
  · next less =>
    rw [BitVec.lt_def] at less
    simp
    omega
  · next more =>
    rw [BitVec.lt_def] at more
    have := unit.isLt
    have := value.isLt
    rw [BitVec.toNat_sub]
    omega

/-- Two packets in a row that are no credits, on one port: the second drains
the phantom queue by what the integers say if it is no longer than what has
drained since the first, and either this amount fits into 32 bits or the queue
is within what is left of it there. -/
theorem drain_iff (regs : WordRegisters) (first second : WordArrival) (between : List WordArrival) (ipv4 : Ipv4H)
    (t₁ t₂ : ℕ) (port : Fin 32) (cell : cellAt first.md.egressPort = some port)
    (firstOther : first.IsOther) (secondOther : second.IsOther)
    (samePort : second.md.egressPort = first.md.egressPort)
    (consecutive : ∀ y ∈ between, y.IsOther → y.md.egressPort ≠ first.md.egressPort)
    (header : second.hdr.ipv4 = some ipv4)
    (stamp₁ : first.md.globalTstamp = BitVec.ofNat 48 t₁) (stamp₂ : second.md.globalTstamp = BitVec.ofNat 48 t₂)
    (ordered : t₁ ≤ t₂) (close : t₂ - t₁ < 2 ^ 32) :
    (((bits.egress (bits.run regs (first :: between)) second).1.phantomQueueReg port).toNat : ℤ) =
        max 0 ((((bits.run regs (first :: between)).phantomQueueReg port).toNat : ℤ) +
          ipv4.totalLen.toNat - 4 * ((t₂ : ℤ) - t₁)) ↔
      0 ≤ drains t₁ t₂ ipv4.totalLen ∧ (drains t₁ t₂ ipv4.totalLen < 2 ^ 32 ∨
        (((bits.run regs (first :: between)).phantomQueueReg port).toNat : ℤ) ≤
          drains t₁ t₂ ipv4.totalLen % 2 ^ 32) := by
  have cell' : cellAt second.md.egressPort = some port := by rw [samePort, cell]
  have stamped : (bits.run regs (first :: between)).timestampReg port = (BitVec.ofNat 48 t₁).setWidth 32 := by
    have kept := bits.timestamp_run (bits.egress regs first).1 between fun y mem other here =>
      consecutive y mem other (cellAt_inj here cell)
    rw [Arithmetic.run, List.foldl_cons, ← Arithmetic.run, kept, bits.timestamp_other regs first firstOther cell,
      stamp₁]
    rfl
  generalize bits.run regs (first :: between) = before at stamped ⊢
  have unit : ((bits.ppassUnit before second).toNat : ℤ) = drains t₁ t₂ ipv4.totalLen % 2 ^ 32 := by
    have interval := interval_toNat ordered close
    rw [Arithmetic.ppassUnit, header, stamp₂, executed_at _ _ _ cell', stamped]
    simp only [Option.map_some, Option.getD_some]
    have wraps := ppassUnit_toNat (bits.getAndUpdateTimestamp (BitVec.ofNat 48 t₂) ((BitVec.ofNat 48 t₁).setWidth 32)).1
      ipv4.totalLen
    rw [interval] at wraps
    rw [drains]
    refine wraps.trans ?_
    omega
  rw [bits.egress_queue_other before second secondOther cell', ppassOther_toNat, unit]
  have value := (before.phantomQueueReg port).isLt
  unfold drains
  omega

/-- A frame with a PPass header: its type, its credit and its total length. -/
def ppassFrame (msgType : BitVec 8) (credit : BitVec 32) (totalLen : BitVec 16) : HeadersT where
  ethernet := ⟨0, 0, ETHERTYPE_IPV4⟩
  ipv4 := some ⟨4, 5, 0, totalLen, 0, 0, 0, 64, IP_PROTOCOLS_UDP, 0, 0, 0⟩
  udp := some ⟨9001, PPASS_PORT, totalLen - 20, 0⟩
  ppass := some ⟨msgType, 0, 0, 0, credit, 0⟩

/-- The same frame on port 0, with some time stamp and an empty queue. -/
def atEgress (hdr : HeadersT) (globalTstamp : BitVec 48) : WordArrival := ⟨hdr, ⟨0, 0, globalTstamp, 0⟩⟩

/-- Packets of 1500 bytes that are 100 ns apart, with 2000 bytes of credit
between them: the queue of 2000 bytes is emptied instead of growing to 3100. -/
theorem drain_back_to_back :
    ((bits.run Registers.zero [atEgress (ppassFrame 2 0 1500) 1000000,
    atEgress (ppassFrame 1 2000 60) 1000050]).phantomQueueReg
        0).toNat = 2000 ∧
      ((bits.egress (bits.run Registers.zero [atEgress (ppassFrame 2 0 1500) 1000000,
        atEgress (ppassFrame 1 2000 60) 1000050]) (atEgress (ppassFrame 2 0 1500) 1000100)).1.phantomQueueReg
        0).toNat = 0 := by
  decide

/-- At 400 ns apart it drains by the 100 bytes left. -/
theorem drain_iff_apart :
    ((bits.egress (bits.run Registers.zero [atEgress (ppassFrame 2 0 1500) 1000000,
        atEgress (ppassFrame 1 2000 60) 1000050]) (atEgress (ppassFrame 2 0 1500) 1000400)).1.phantomQueueReg
        0).toNat = (1900 : ℤ) :=
  (drain_iff Registers.zero (atEgress (ppassFrame 2 0 1500) 1000000) (atEgress (ppassFrame 2 0 1500) 1000400)
    [atEgress (ppassFrame 1 2000 60) 1000050] _ 1000000 1000400 0 rfl ⟨_, rfl, by decide⟩ ⟨_, rfl, by decide⟩ rfl
    (by
      intro y mem
      obtain rfl := List.mem_singleton.mp mem
      rintro ⟨ppass, valid, other⟩
      cases valid
      exact absurd rfl other) rfl rfl rfl (by decide) (by decide)).mpr (by decide)

theorem ppassCredit_bounded (credit value : BitVec 32) :
    (ppassCreditPktAction (kPTHR.setWidth 32) credit value).toNat ≤ kPTHR.toNat := by
  have cap : (kPTHR.setWidth 32).toNat = kPTHR.toNat := by decide
  unfold ppassCreditPktAction
  split
  · exact cap.le
  · next within =>
    rw [BitVec.lt_def, cap] at within
    omega

theorem ppassOther_le (unit value : BitVec 32) : (ppassOtherPktAction unit value).toNat ≤ value.toNat := by
  have exact := ppassOther_toNat unit value
  omega

theorem egress_bounded (regs : WordRegisters) (x : WordArrival)
    (bounded : ∀ port, (regs.phantomQueueReg port).toNat ≤ kPTHR.toNat) (port : Fin 32) :
    ((bits.egress regs x).1.phantomQueueReg port).toNat ≤ kPTHR.toNat := by
  by_cases elsewhere : x.cell = some port
  · unfold Arrival.cell Arrival.index at elsewhere
    cases valid : x.hdr.ppass with
    | none => simp [valid] at elsewhere
    | some ppass =>
      simp only [valid, Option.map_some, Option.bind_some] at elsewhere
      by_cases credit : ppass.msgType = 1
      · rw [if_pos credit] at elsewhere
        rw [bits.egress_queue_credit regs x valid credit elsewhere]
        exact ppassCredit_bounded _ _
      · rw [if_neg credit] at elsewhere
        rw [bits.egress_queue_other regs x ⟨ppass, valid, credit⟩ elsewhere]
        exact (ppassOther_le _ _).trans (bounded _)
  · rw [bits.egress_frame regs x elsewhere]
    exact bounded port

theorem run_bounded (arrivals : List WordArrival) {regs : WordRegisters}
    (bounded : ∀ port, (regs.phantomQueueReg port).toNat ≤ kPTHR.toNat) (port : Fin 32) :
    ((bits.run regs arrivals).phantomQueueReg port).toNat ≤ kPTHR.toNat := by
  -- one packet keeps the bound, whatever it is
  induction arrivals generalizing regs with
  | nil => exact bounded port
  | cons x arrivals ih => exact ih (egress_bounded regs x bounded)

theorem minOf_eq_left {w : ℕ} (a b : BitVec w) : minOf a b = a ↔ a.toNat ≤ b.toNat := by
  unfold minOf
  split
  · next less =>
    rw [BitVec.lt_def] at less
    rw [← BitVec.toNat_inj]
    omega
  · next more =>
    rw [BitVec.lt_def] at more
    simp only [true_iff]
    omega

theorem narrow {value : BitVec 32} (bounded : value.toNat ≤ kPTHR.toNat) :
    (value.setWidth 24).toNat = value.toNat := by
  have cap : kPTHR.toNat < 2 ^ 24 := by decide
  rw [BitVec.toNat_setWidth]
  exact Nat.mod_eq_of_lt (bounded.trans_lt cap)

theorem mark_iff (regs : WordRegisters) (x : WordArrival) (other : x.IsOther) {port : Fin 32}
    (cell : cellAt x.md.egressPort = some port)
    (bounded : ((bits.egress regs x).1.phantomQueueReg port).toNat ≤ kPTHR.toNat) :
    (bits.egressOther regs x).2 = true ↔ PTHR.toNat ≤ ((bits.egress regs x).1.phantomQueueReg port).toNat ∧
      IsEMPTY_THRESHOLD.toNat ≤ x.md.deqQdepth.toNat := by
  have wide := narrow bounded
  rw [bits.egress_queue_other regs x other cell] at bounded wide ⊢
  have value := executed_at regs.phantomQueueReg (ppassOtherPktAction (bits.ppassUnit regs x)) x.md.noCell cell
  rw [← wide]
  simp only [Arithmetic.egressOther, value, Bool.and_eq_true, beq_iff_eq]
  exact and_congr (minOf_eq_left _ _) (minOf_eq_left _ _)

/-- From zeroed registers, after any packets and for the next: every cell is
within the bound, so that nothing is lost in 24 bits; the mark is only touched
in a packet with a valid PPass header that is no credit, and set there exactly
if the updated cell of its egress port has reached the threshold and the queue
is long enough; and the cells that the packet is not for stay. -/
theorem registers_and_marks (arrivals : List WordArrival) (x : WordArrival) :
    (∀ port, ((bits.egress (bits.run Registers.zero arrivals) x).1.phantomQueueReg port).toNat ≤ kPTHR.toNat ∧
      (((bits.egress (bits.run Registers.zero arrivals) x).1.phantomQueueReg port).setWidth 24).toNat =
        ((bits.egress (bits.run Registers.zero arrivals) x).1.phantomQueueReg port).toNat) ∧
    (¬ x.IsOther → (bits.egress (bits.run Registers.zero arrivals) x).2 = x.hdr) ∧
    (∀ ppass, x.hdr.ppass = some ppass → ppass.msgType ≠ 1 → ∀ port, cellAt x.md.egressPort = some port →
      (bits.egress (bits.run Registers.zero arrivals) x).2 = { x.hdr with ppass := some { ppass with
        nwMarked := if PTHR.toNat ≤ ((bits.egress (bits.run Registers.zero arrivals) x).1.phantomQueueReg port).toNat ∧
          IsEMPTY_THRESHOLD.toNat ≤ x.md.deqQdepth.toNat then 1 else ppass.nwMarked } }) ∧
    ∀ port, x.cell ≠ some port →
      (bits.egress (bits.run Registers.zero arrivals) x).1.phantomQueueReg port =
        (bits.run Registers.zero arrivals).phantomQueueReg port ∧
      (bits.egress (bits.run Registers.zero arrivals) x).1.timestampReg port =
        (bits.run Registers.zero arrivals).timestampReg port := by
  have start : ∀ port, ((Registers.zero : WordRegisters).phantomQueueReg port).toNat ≤ kPTHR.toNat :=
    fun _ => Nat.zero_le _
  have bounded := egress_bounded _ x (run_bounded arrivals start)
  refine ⟨fun port => ⟨bounded port, narrow (bounded port)⟩, fun notOther => ?_,
    fun ppass valid notCredit port cell => ?_, fun port elsewhere => ⟨bits.egress_frame _ x elsewhere, ?_⟩⟩
  · unfold Arithmetic.egress
    cases valid : x.hdr.ppass with
    | none => rfl
    | some ppass =>
      have credit : ppass.msgType = 1 := by
        by_contra notCredit
        exact notOther ⟨ppass, valid, notCredit⟩
      simp only [credit, if_true]
  · have marks := mark_iff _ x ⟨ppass, valid, notCredit⟩ cell (bounded port)
    rw [bits.egress_hdr _ x valid notCredit]
    simp only [← marks]
    split
    · rfl
    · rw [← valid]
  · apply bits.timestamp_frame
    rintro ⟨ppass, valid, notCredit⟩ here
    apply elsewhere
    simp only [Arrival.cell, Arrival.index, valid, Option.map_some, Option.bind_some, notCredit, if_false, here]

theorem ppassCredit_toNat (credit value : BitVec 32) :
    (ppassCreditPktAction (kPTHR.setWidth 32) credit value).toNat =
      min kPTHR.toNat ((value.toNat + credit.toNat) % 2 ^ 32) := by
  have cap : (kPTHR.setWidth 32).toNat = kPTHR.toNat := by decide
  unfold ppassCreditPktAction
  split
  · next more =>
    rw [BitVec.lt_def, cap, BitVec.toNat_add] at more
    rw [cap]
    exact (min_eq_left more.le).symm
  · next within =>
    rw [BitVec.lt_def, cap, BitVec.toNat_add] at within
    rw [BitVec.toNat_add]
    exact (min_eq_right (not_lt.mp within)).symm

theorem ppassCredit_iff {credit value : BitVec 32} (bounded : value.toNat ≤ kPTHR.toNat) :
    ((ppassCreditPktAction (kPTHR.setWidth 32) credit value).toNat = min kPTHR.toNat (value.toNat + credit.toNat) ↔
        value.toNat + credit.toNat < 2 ^ 32) ∧
      ((ppassCreditPktAction (kPTHR.setWidth 32) credit value).toNat < value.toNat ↔
        2 ^ 32 ≤ value.toNat + credit.toNat) := by
  have := credit.isLt
  rw [ppassCredit_toNat]
  rcases Nat.lt_or_ge (value.toNat + credit.toNat) (2 ^ 32) with fits | wraps
  · rw [Nat.mod_eq_of_lt fits]
    omega
  · have wrapped : (value.toNat + credit.toNat) % 2 ^ 32 = value.toNat + credit.toNat - 2 ^ 32 := by omega
    rw [wrapped]
    omega

/-- After any packets, a credit packet saturates its cell as the integers do
exactly if the sum fits into 32 bits, and lowers the cell otherwise. -/
theorem credit_saturates_iff {regs : WordRegisters} (arrivals : List WordArrival) (x : WordArrival) {ppass : PpassH}
    (bounded : ∀ port, (regs.phantomQueueReg port).toNat ≤ kPTHR.toNat)
    (valid : x.hdr.ppass = some ppass) (credit : ppass.msgType = 1) {port : Fin 32}
    (cell : cellAt (ppass.ingressPort.setWidth 9) = some port) :
    let before := ((bits.run regs arrivals).phantomQueueReg port).toNat
    let after := ((bits.egress (bits.run regs arrivals) x).1.phantomQueueReg port).toNat
    (after = min kPTHR.toNat (before + ppass.credit.toNat) ↔ before + ppass.credit.toNat < 2 ^ 32) ∧
      (after < before ↔ 2 ^ 32 ≤ before + ppass.credit.toNat) := by
  dsimp only
  rw [bits.egress_queue_credit _ x valid credit cell]
  exact ppassCredit_iff (run_bounded arrivals bounded _)

/-- A cell of 2000 bytes and a credit of 1000 bytes: it holds 3000 bytes. -/
theorem credit_saturates_fits :
    ((bits.egress (bits.run Registers.zero [atEgress (ppassFrame 1 2000 60) 50])
    (atEgress (ppassFrame 1 1000 60) 60)).1.phantomQueueReg
      0).toNat = 3000 :=
  (credit_saturates_iff [atEgress (ppassFrame 1 2000 60) 50]
    (atEgress (ppassFrame 1 1000 60) 60) (fun _ => Nat.zero_le _) rfl rfl rfl).1.mpr (by decide)

/-- A cell of 2000 bytes and a credit of 2^32 - 1000: the cell falls to 1000
bytes, where it should have reached its bound. -/
theorem credit_wraps :
    ((bits.run Registers.zero [atEgress (ppassFrame 1 2000 60) 50]).phantomQueueReg 0).toNat = 2000 ∧
      ((bits.egress (bits.run Registers.zero [atEgress (ppassFrame 1 2000 60) 50])
        (atEgress (ppassFrame 1 (BitVec.ofNat 32 (2 ^ 32 - 1000)) 60) 60)).1.phantomQueueReg 0).toNat = 1000 ∧
      1000 < min kPTHR.toNat (2000 + (2 ^ 32 - 1000)) := by
  decide

end PhantomPass.Tofino
