import PhantomPass.Credit.SendInvariant

/-! From payload to bytes on the wire and back: what the conversions cost, and
what each of them loses when it follows the other. -/

set_option autoImplicit false

namespace PhantomPass

namespace OutboundMsgState

/-- The payloads of the packets that a message still has to send, one packet after the other. -/
def payloads (m : OutboundMsgState) : List ℕ :=
  if 0 < m.unsentBytes then m.nextPayload :: m.afterPacket.payloads else []
termination_by m.unsentBytes
decreasing_by
  have len := m.nextPayload_eq
  have mss := ethernet.mss_pos
  change m.unsentBytes - m.nextPayload < m.unsentBytes
  omega

theorem payloads_eq (m : OutboundMsgState) : m.payloads = ethernet.lens m.unsentBytes := by
  induction m using payloads.induct with
  | case1 m pos ih =>
    have rest : m.afterPacket.unsentBytes = m.unsentBytes - m.nextPayload := rfl
    rw [payloads, if_pos pos, ih, rest, m.nextPayload_eq, ethernet.lens_of_pos pos]
  | case2 m done =>
    rw [payloads, if_neg done, Nat.eq_zero_of_not_pos done, ethernet.lens_zero]

end OutboundMsgState

theorem MsgOk.payloads {cfg : Config} {addr : Addr} {out : List Packet} {m : OutboundMsgState}
    (ok : MsgOk cfg addr out m) :
    (dataOf m.reqId out).map Packet.payload ++ m.payloads = ethernet.lens m.totalBytes := by
  rw [m.payloads_eq]
  exact ok.lens

theorem removeHeaderOverhead_eq (size : ℕ) : removeHeaderOverhead size = ethernet.whole size := by
  unfold removeHeaderOverhead Lib.Framing.whole
  rw [← Int.ofNat_tdiv]
  push_cast
  rfl

theorem addHeaderOverhead_whole (size : ℕ) :
    addHeaderOverhead (ethernet.whole size) true = ethernet.wire (ethernet.whole size) := by
  unfold Lib.Framing.whole
  rw [show ethernet.mss = maxR2p2Payload from rfl, addHeaderOverhead_full, wire_full]
  push_cast
  rfl

theorem addHeaderOverhead_payloads (m : OutboundMsgState) :
    addHeaderOverhead m.unsentBytes = ((m.payloads.map fun p => max 84 (p + 80)).sum : ℕ) := by
  have cost : ethernet.cost = fun p => max 84 (p + 80) := by
    funext p
    exact max_comm ..
  rw [addHeaderOverhead_eq, m.payloads_eq, Lib.Framing.wire, cost]

theorem addHeaderOverhead_mono : Monotone fun n : ℕ => addHeaderOverhead n := by
  intro a b le
  dsimp only
  rw [addHeaderOverhead_eq, addHeaderOverhead_eq]
  exact_mod_cast ethernet.wire_mono le

theorem addHeaderOverhead_add (k n : ℕ) : addHeaderOverhead (1458 * k + n) = 1538 * k + addHeaderOverhead n := by
  have split : ethernet.wire (k * maxR2p2Payload + n) = k * 1538 + ethernet.wire n := by
    rw [← wire_full]
    exact ethernet.wire_add (dvd_mul_left ..)
  have bytes : (1458 * k + n : ℤ) = (k * maxR2p2Payload + n : ℕ) := by
    rw [Nat.mul_comm k]
    push_cast
    rfl
  rw [bytes, addHeaderOverhead_eq, addHeaderOverhead_eq, split]
  push_cast
  ring

theorem addHeaderOverhead_removed (s : ℕ) : addHeaderOverhead (removeHeaderOverhead s) true ≤ s ∧
    s < addHeaderOverhead (removeHeaderOverhead s) true + 1538 := by
  obtain ⟨low, high⟩ := ethernet.wire_whole_bounds s
  have full : ethernet.cost ethernet.mss = 1538 := by decide
  rw [removeHeaderOverhead_eq, addHeaderOverhead_whole]
  rw [full] at high
  exact ⟨by exact_mod_cast low, by exact_mod_cast high⟩

theorem removeHeaderOverhead_added (n : ℕ) : removeHeaderOverhead (addHeaderOverhead n) ≤ n ∧
    (removeHeaderOverhead (addHeaderOverhead n) = n ↔ 1458 ∣ n) := by
  have short : ethernet.floor < ethernet.mss + ethernet.header := by decide
  have same : ethernet.whole (ethernet.wire n) = n ↔ 1458 ∣ n := ethernet.whole_wire_eq_iff short n
  have le : ethernet.whole (ethernet.wire n) ≤ n := by
    rw [ethernet.whole_wire short]
    exact Nat.div_mul_le_self ..
  rw [addHeaderOverhead_eq, removeHeaderOverhead_eq, Nat.cast_inj]
  exact ⟨by exact_mod_cast le, same⟩

/-- One byte behind a full packet takes a frame of the smallest size. -/
example : addHeaderOverhead 1459 = 1622 ∧ removeHeaderOverhead 1622 = 1458 := by decide

def addHeaderOverheadInt (payload : BitVec 32) (skipLastPktCheck : Bool := false) : BitVec 32 :=
  let maxPayload : BitVec 32 := maxR2p2Payload
  let overhead : BitVec 32 := (r2p2AllHeadersSize + interPktGapSize + ethernetPreambleSize : ℕ)
  let wHdrs := payload.sdiv maxPayload * (maxPayload + overhead)
  if (0 : BitVec 32).slt (payload.srem maxPayload) ∧ skipLastPktCheck = false then
    let rem := payload.srem maxPayload + overhead
    wHdrs + if rem.slt minEthernetFrameOnWire then (minEthernetFrameOnWire : BitVec 32) else rem
  else wHdrs

def removeHeaderOverheadInt (size : BitVec 32) : BitVec 32 :=
  size.sdiv (maxEthernetFrameOnWire : BitVec 32) * (maxR2p2Payload : BitVec 32)

theorem toInt_ofNat_small {n : ℕ} (small : n < 2 ^ 31) : (BitVec.ofNat 32 n).toInt = n := by
  rw [BitVec.toInt_ofNat']
  exact Int.bmod_eq_of_le (by omega) (by omega)

theorem bmod_small {n : ℤ} (low : -2 ^ 31 ≤ n) (high : n < 2 ^ 31) : n.bmod (2 ^ 32) = n :=
  Int.bmod_eq_of_le (by omega) (by omega)

theorem addHeaderOverheadInt_toInt {n : ℕ} (small : n < 2 ^ 31) (skip : Bool) :
    (addHeaderOverheadInt (BitVec.ofNat 32 n) skip).toInt = (addHeaderOverhead n skip).bmod (2 ^ 32) := by
  have value := toInt_ofNat_small small
  have quot : ((BitVec.ofNat 32 n).sdiv (maxR2p2Payload : BitVec 32)).toInt = (n / 1458 : ℕ) := by
    rw [BitVec.toInt_sdiv, value, show ((maxR2p2Payload : BitVec 32)).toInt =
      (1458 : ℕ) from by decide, ← Int.ofNat_tdiv]
    exact bmod_small (by omega) (by omega)
  have rem : ((BitVec.ofNat 32 n).srem (maxR2p2Payload : BitVec 32)).toInt = (n % 1458 : ℕ) := by
    rw [BitVec.toInt_srem, value, show ((maxR2p2Payload : BitVec 32)).toInt =
      (1458 : ℕ) from by decide, ← Int.ofNat_tmod]
  have full : ((BitVec.ofNat 32 n).sdiv (maxR2p2Payload : BitVec 32) * ((maxR2p2Payload : BitVec 32) +
      (r2p2AllHeadersSize + interPktGapSize + ethernetPreambleSize : ℕ))).toInt = ((n / 1458 : ℕ) * 1538 : ℤ).bmod
        (2 ^ 32) := by
    rw [BitVec.toInt_mul, quot]
    rfl
  have last : ((BitVec.ofNat 32 n).srem (maxR2p2Payload : BitVec 32) +
      ((r2p2AllHeadersSize + interPktGapSize + ethernetPreambleSize : ℕ) : BitVec 32)).toInt =
        ((n % 1458 + 80 : ℕ) : ℤ) := by
    rw [BitVec.toInt_add, rem]
    exact bmod_small (n := ((n % 1458 : ℕ) : ℤ) + 80) (by omega) (by omega)
  have some_rem : (0 : BitVec 32).slt ((BitVec.ofNat 32 n).srem (maxR2p2Payload : BitVec 32)) = true ↔
    0 < n % 1458 := by
    rw [BitVec.slt_iff_toInt_lt, rem]
    exact Int.natCast_pos
  have small_rem : ((BitVec.ofNat 32 n).srem (maxR2p2Payload : BitVec 32) +
      ((r2p2AllHeadersSize + interPktGapSize + ethernetPreambleSize : ℕ) : BitVec 32)).slt
        (minEthernetFrameOnWire : BitVec 32) = true ↔ n % 1458 + 80 < 84 := by
    rw [BitVec.slt_iff_toInt_lt, last]
    exact Int.ofNat_lt
  have exact_ : addHeaderOverhead n skip = (n / 1458 : ℕ) * 1538 +
      if 0 < n % 1458 ∧ skip = false then max ((n % 1458 + 80 : ℕ) : ℤ) 84 else 0 := by
    have wide : (n : ℤ).tdiv maxR2p2Payload = (n / 1458 : ℕ) := (Int.ofNat_tdiv ..).symm
    have narrow : (n : ℤ).tmod maxR2p2Payload = (n % 1458 : ℕ) := (Int.ofNat_tmod ..).symm
    rw [addHeaderOverhead, wide, narrow]
    simp only [Int.natCast_pos, r2p2AllHeadersSize, interPktGapSize, ethernetPreambleSize, minEthernetFrameOnWire,
      maxR2p2Payload]
    split <;> push_cast <;> omega
  rw [exact_, addHeaderOverheadInt]
  simp only [some_rem, small_rem]
  split
  · rw [BitVec.toInt_add, full, Int.bmod_add_bmod]
    congr 2
    split
    · rw [max_eq_right (by omega)]
      rfl
    · rw [last, max_eq_left (by omega)]
  · rw [full, add_zero]

theorem removeHeaderOverheadInt_toInt (size : BitVec 32) :
    (removeHeaderOverheadInt size).toInt = removeHeaderOverhead size.toInt := by
  have low := BitVec.le_toInt size
  have high := BitVec.toInt_lt (x := size)
  have bounds : -2 ^ 31 ≤ size.toInt.tdiv 1538 * 1458 ∧ size.toInt.tdiv 1538 * 1458 < 2 ^ 31 ∧
      -2 ^ 31 ≤ size.toInt.tdiv 1538 ∧ size.toInt.tdiv 1538 < 2 ^ 31 := by
    rcases Int.le_total 0 size.toInt with up | down
    · rw [Int.tdiv_eq_ediv_of_nonneg up]
      omega
    · have negated : size.toInt.tdiv 1538 = -((-size.toInt) / 1538) := by
        rw [← Int.tdiv_eq_ediv_of_nonneg (by omega), Int.neg_tdiv, neg_neg]
      rw [negated]
      omega
  have quot : (size.sdiv (maxEthernetFrameOnWire : BitVec 32)).toInt = size.toInt.tdiv 1538 := by
    rw [BitVec.toInt_sdiv]
    exact bmod_small (n := size.toInt.tdiv 1538) bounds.2.2.1 bounds.2.2.2
  rw [removeHeaderOverheadInt, BitVec.toInt_mul, quot]
  exact bmod_small (n := size.toInt.tdiv 1538 * 1458) bounds.1 bounds.2.1

/-- add_header_overhead on so many bytes. -/
def overheadInt (n : ℕ) : ℤ := (addHeaderOverheadInt (BitVec.ofNat 32 n)).toInt

theorem wire_fits_iff {n : ℕ} (small : n < 2 ^ 31) :
    (ethernet.wire n < 2 ^ 31 ↔ n < 2035780928) ∧ ethernet.wire n < 2 ^ 31 + 2 ^ 30 := by
  have wire : ethernet.wire n = n / 1458 * 1538 + if n % 1458 = 0 then 0 else max (n % 1458 + 80) 84 :=
    ethernet.wire_eq n
  rw [wire]
  split <;> omega

theorem overheadInt_eq {n : ℕ} (small : n < 2 ^ 31) :
    overheadInt n = if n < 2035780928 then (ethernet.wire n : ℤ) else ethernet.wire n - 2 ^ 32 := by
  obtain ⟨fits, bounded⟩ := wire_fits_iff small
  rw [overheadInt, addHeaderOverheadInt_toInt small, addHeaderOverhead_eq]
  split
  · next short =>
    have int := fits.mpr short
    exact bmod_small (by omega) (by omega)
  · next long =>
    have wraps : 2 ^ 31 ≤ ethernet.wire n := not_lt.mp fun int => long (fits.mp int)
    rw [Int.bmod_def]
    split <;> omega

/-- The laws of the two conversions for the bytes that a message has not sent. -/
structure OverheadLaws (m : OutboundMsgState) : Prop where
  sum : overheadInt m.unsentBytes = ((m.payloads.map fun p => max 84 (p + 80)).sum : ℕ)
  mono : ∀ n ≤ m.unsentBytes, overheadInt n ≤ overheadInt m.unsentBytes
  add : ∀ k n : ℕ, 1458 * k + n = m.unsentBytes → overheadInt m.unsentBytes = 1538 * k + overheadInt n
  back : (removeHeaderOverheadInt (addHeaderOverheadInt (BitVec.ofNat 32 m.unsentBytes))).toInt ≤ m.unsentBytes ∧
    ((removeHeaderOverheadInt (addHeaderOverheadInt (BitVec.ofNat 32 m.unsentBytes))).toInt = m.unsentBytes ↔
      1458 ∣ m.unsentBytes)

theorem overheadLaws_iff (m : OutboundMsgState) (small : m.unsentBytes < 2 ^ 31) :
    OverheadLaws m ↔ m.unsentBytes < 2035780928 := by
  have payloads : (ethernet.wire m.unsentBytes : ℤ) = ((m.payloads.map fun p => max 84 (p + 80)).sum : ℕ) := by
    rw [← addHeaderOverhead_eq, addHeaderOverhead_payloads]
  have exact_ : ∀ n ≤ m.unsentBytes, m.unsentBytes < 2035780928 → overheadInt n = addHeaderOverhead n :=
    fun n le short => by
    rw [overheadInt_eq (by omega), if_pos (by omega), addHeaderOverhead_eq]
  constructor
  · intro laws
    by_contra long
    have sum := laws.sum
    rw [overheadInt_eq small, if_neg long, ← payloads] at sum
    omega
  · intro short
    have here := exact_ m.unsentBytes le_rfl short
    refine ⟨by rw [here, addHeaderOverhead_payloads], fun n le => ?_, fun k n split => ?_, ?_⟩
    · rw [here, exact_ n le short]
      exact addHeaderOverhead_mono le
    · rw [here, exact_ n (by omega) short, ← addHeaderOverhead_add, ← split]
      push_cast
      rfl
    · have again := removeHeaderOverhead_added m.unsentBytes
      rw [overheadInt] at here
      rw [removeHeaderOverheadInt_toInt, here]
      exact again

theorem addHeaderOverheadInt_removed {s : ℕ} (small : s < 2 ^ 31) :
    (addHeaderOverheadInt (removeHeaderOverheadInt (BitVec.ofNat 32 s)) true).toInt ≤ s ∧
      s < (addHeaderOverheadInt (removeHeaderOverheadInt (BitVec.ofNat 32 s)) true).toInt + 1538 := by
  obtain ⟨low, high⟩ := addHeaderOverhead_removed s
  have whole : removeHeaderOverhead s = (s / 1538 * 1458 : ℕ) := removeHeaderOverhead_eq s
  have removed : removeHeaderOverheadInt (BitVec.ofNat 32 s) = BitVec.ofNat 32 (s / 1538 * 1458) := by
    apply BitVec.eq_of_toInt_eq
    rw [removeHeaderOverheadInt_toInt, toInt_ofNat_small small, whole, toInt_ofNat_small (by omega)]
  have back : (addHeaderOverheadInt (removeHeaderOverheadInt (BitVec.ofNat 32 s)) true).toInt =
      addHeaderOverhead (removeHeaderOverhead s) true := by
    rw [removed, addHeaderOverheadInt_toInt (by omega), ← whole]
    exact bmod_small (by omega) (by omega)
  rw [back]
  exact ⟨low, high⟩

/-- The laws of the two conversions: those for a message hold exactly if it is
short enough, the one for bytes on the wire for every int. -/
theorem header_overhead (m : OutboundMsgState) (small : m.unsentBytes < 2 ^ 31) :
    (OverheadLaws m ↔ m.unsentBytes < 2035780928) ∧
    ∀ s : ℕ, s < 2 ^ 31 → (addHeaderOverheadInt (removeHeaderOverheadInt (BitVec.ofNat 32 s)) true).toInt ≤ s ∧
      s < (addHeaderOverheadInt (removeHeaderOverheadInt (BitVec.ofNat 32 s)) true).toInt + 1538 :=
  ⟨overheadLaws_iff m small, fun _ int => addHeaderOverheadInt_removed int⟩

def longMsg (unsentBytes : ℕ) : OutboundMsgState :=
  { reqId := ⟨0, 0, 0⟩, remoteAddr := 1, r2p2Hdr := { msgType := .request }, unsentBytes }

/-- The longest message of an int: its frames do not sum up to a negative number. -/
theorem header_overhead_wraps : overheadInt (longMsg 2147483647).unsentBytes = -2029651889 ∧
    (((longMsg 2147483647).payloads.map fun p => max 84 (p + 80)).sum : ℕ) = 2265315407 := by
  refine ⟨by decide +kernel, ?_⟩
  have sum := addHeaderOverhead_payloads (longMsg 2147483647)
  have value : addHeaderOverhead (longMsg 2147483647).unsentBytes = 2265315407 := by decide +kernel
  rw [value] at sum
  exact_mod_cast sum.symm

/-- A message of some gigabytes still fits. -/
theorem header_overhead_fits : OverheadLaws (longMsg 2035780927) :=
  (header_overhead (longMsg 2035780927) (by decide)).1.mpr (by decide)

end PhantomPass
