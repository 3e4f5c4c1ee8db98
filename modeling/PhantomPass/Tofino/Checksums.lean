import PhantomPass.Tofino.Pipeline
import Mathlib

/-! Which frames leave the switch with intact checksums. The recomputed IPv4
checksum leaves out options, and nothing makes up for the rewritten PPass
bytes in the UDP checksum. -/

set_option autoImplicit false

namespace PhantomPass.Tofino

open Lib (Byte)
open Lib.OnesSum

/-! Fields of a frame, by their places. -/

def byte (f : List Byte) (i : ℕ) : Byte := f.getD i 0

def word (f : List Byte) (i : ℕ) : BitVec 16 := byte f i ++ byte f (i + 1)

def headerLen (f : List Byte) : ℕ := 4 * ((byte f 14).extractLsb' 0 4).toNat

def totalLen (f : List Byte) : ℕ := (word f 16).toNat

def dstAddr (f : List Byte) : BitVec 32 := byte f 30 ++ byte f 31 ++ byte f 32 ++ byte f 33

def IsUdp (f : List Byte) : Prop := byte f 23 = IP_PROTOCOLS_UDP

/-- The parser finds a PPass header: it takes the bytes behind the first 20 of
the IPv4 header for the UDP header. -/
def Found (f : List Byte) : Prop := IsUdp f ∧ word f 36 = PPASS_PORT

instance (f : List Byte) : Decidable (IsUdp f) := inferInstanceAs (Decidable (_ = _))

instance (f : List Byte) : Decidable (Found f) := inferInstanceAs (Decidable (_ ∧ _))

def HeaderIntact (f : List Byte) : Prop := fold (words (part f 14 (headerLen f))) = 65535

def udpLen (f : List Byte) : ℕ := totalLen f - headerLen f

/-- The UDP datagram has its length, and a checksum that is there and agrees
with it and the pseudo header. -/
def UdpIntact (f : List Byte) : Prop :=
  (word f (14 + headerLen f + 4)).toNat = udpLen f ∧ word f (14 + headerLen f + 6) ≠ 0 ∧
    fold (words (part f 26 8) + 17 + udpLen f + words (part f (14 + headerLen f) (udpLen f))) = 65535

instance (f : List Byte) : Decidable (HeaderIntact f) := inferInstanceAs (Decidable (_ = _))

instance (f : List Byte) : Decidable (UdpIntact f) := inferInstanceAs (Decidable (_ ∧ _))

/-- An Ethernet frame, without its own check sequence, with an IPv4 packet
whose checksums are right. -/
structure Ipv4Frame (f : List Byte) : Prop where
  long : 60 ≤ f.length
  etherType : word f 12 = ETHERTYPE_IPV4
  header : 20 ≤ headerLen f ∧ headerLen f ≤ totalLen f ∧ 14 + totalLen f ≤ f.length
  intact : HeaderIntact f
  ttl : 1 < (byte f 22).toNat
  udp : IsUdp f → 8 ≤ udpLen f ∧ UdpIntact f

/-- The same headers but for the fields that the switch is to write. -/
def Rewritten (hdr hdr' : HeadersT) : Prop :=
  ∃ checksum port mark, hdr' = { hdr with
    ipv4 := hdr.ipv4.map fun h => { h with ttl := h.ttl - 1, hdrChecksum := checksum }
    ppass := hdr.ppass.map fun h => { h with ingressPort := port, nwMarked := mark } }

def marks (regs : WordRegisters) (md : Meta) (hdr : HeadersT) (egressPort : BitVec 9) : Bool :=
  match hdr.ppass with
  | none => false
  | some ppass => ppass.msgType != 1 && (bits.egressOther regs (md.arrival hdr egressPort)).2

/-- The PPass bytes that the switch writes: the mark, and the ingress port. -/
def newByte (f : List Byte) (ingressPort : BitVec 9) (mark : Bool) (i : ℕ) : Byte :=
  if i = 43 then if mark then (byte f 43).extractLsb' 4 4 ++ 1#4 else byte f 43
  else if i = 52 then (ingressPort.setWidth 16).extractLsb' 8 8
  else if i = 53 then (ingressPort.setWidth 16).extractLsb' 0 8
  else byte f i

def moved (f : List Byte) (ingressPort : BitVec 9) (mark : Bool) (start length : ℕ) : ℤ :=
  if Found f then ([43, 52, 53].map fun i => if start ≤ i ∧ i < start + length then
    weight i * (((newByte f ingressPort mark i).toNat : ℤ) - (byte f i).toNat) else 0).sum
  else 0

/-- The options, as they leave, do not count; and the PPass bytes move the sum
of the UDP datagram by nothing, without touching its length or leaving it
without a checksum. -/
def Harmless (f : List Byte) (ingressPort : BitVec 9) (mark : Bool) : Prop :=
  (words (part f 34 (headerLen f - 20)) + moved f ingressPort mark 34 (headerLen f - 20)) % 65535 = 0 ∧
    (IsUdp f → moved f ingressPort mark (14 + headerLen f) (udpLen f) % 65535 = 0 ∧
      (Found f → headerLen f = 24 → newByte f ingressPort mark 43 = byte f 43) ∧
      (Found f → headerLen f = 32 → ingressPort ≠ 0))

def leavingHeaders (ingressPort : BitVec 9) (mark : Bool) (hdr : HeadersT) : HeadersT :=
  { hdr with
    ipv4 := hdr.ipv4.map fun h => { h with
      ttl := h.ttl - 1
      hdrChecksum := ipv4Checksum { h with ttl := h.ttl - 1 } }
    ppass := hdr.ppass.map fun h => { h with
      ingressPort := ingressPort.setWidth 16
      nwMarked := if mark then 1 else h.nwMarked } }

theorem pipe_eq {tableForward : BitVec 32 → Option (BitVec 9)} (regs : WordRegisters) (md : Meta)
    {frame payload : List Byte} {hdr : HeadersT} {ipv4 : Ipv4H} {port : BitVec 9}
    (parsed : etherIPTCPUDPParser frame = some (hdr, payload)) (header : hdr.ipv4 = some ipv4)
    (entry : tableForward ipv4.dstAddr = some port) :
    ∃ regs', pipe tableForward regs md frame =
      some (regs', (leavingHeaders md.ingressPort (marks regs md hdr port) hdr).emit ++ payload) := by
  obtain ⟨ethernet, _, tcp, udp, ppass⟩ := hdr
  cases header
  obtain ⟨isParsed, -⟩ := parser_eq_some.mp parsed
  have again : etherIPTCPUDPParser ((ingressDeparser (forward md.ingressPort
      ⟨ethernet, some ipv4, tcp, udp, ppass⟩)).emit ++ payload) =
      some (ingressDeparser (forward md.ingressPort ⟨ethernet, some ipv4, tcp, udp, ppass⟩), payload) := by
    refine parser_eq_some.mpr ⟨?_, rfl⟩
    simpa [HeadersT.Parsed, ingressDeparser, forward] using isParsed
  have entered : ingress tableForward md.ingressPort ⟨ethernet, some ipv4, tcp, udp, ppass⟩ =
      some (forward md.ingressPort ⟨ethernet, some ipv4, tcp, udp, ppass⟩, port) := by
    simp [ingress, entry]
  simp only [pipe, Option.bind_eq_bind, parsed, Option.bind_some, entered, again]
  cases ppass with
  | none => exact ⟨_, rfl⟩
  | some ppass =>
    by_cases credit : ppass.msgType = 1
    · refine ⟨bits.egressCredit regs { ppass with ingressPort := md.ingressPort.setWidth 16 }, ?_⟩
      simp [Arithmetic.egress, leavingHeaders, marks, Meta.arrival, ingressDeparser, forward, credit]
    · refine ⟨(bits.egressOther regs (md.arrival ⟨ethernet, some ipv4, tcp, udp, some ppass⟩ port)).1, ?_⟩
      have same : bits.egressOther regs (md.arrival (ingressDeparser (forward md.ingressPort
          ⟨ethernet, some ipv4, tcp, udp, some ppass⟩)) port) =
          bits.egressOther regs (md.arrival ⟨ethernet, some ipv4, tcp, udp, some ppass⟩ port) := rfl
      have kept : (md.arrival (ingressDeparser (forward md.ingressPort
          ⟨ethernet, some ipv4, tcp, udp, some ppass⟩)) port).hdr.ppass =
          some { ppass with ingressPort := md.ingressPort.setWidth 16 } := rfl
      have marked : marks regs md ⟨ethernet, some ipv4, tcp, udp, some ppass⟩ port =
          (bits.egressOther regs (md.arrival ⟨ethernet, some ipv4, tcp, udp, some ppass⟩ port)).2 := by
        have other : (ppass.msgType != 1) = true := bne_iff_ne.mpr credit
        simp only [marks, other, Bool.true_and]
      simp only [Arithmetic.egress, kept, credit, if_false, same, marked, Option.pure_def]
      cases (bits.egressOther regs (md.arrival ⟨ethernet, some ipv4, tcp, udp, some ppass⟩ port)).2 <;> rfl

/-- The IPv4 fields that change, written over the bytes of the frame. -/
def overwriteIpv4 (f : List Byte) (checksum : BitVec 16) : List Byte :=
  ((f.set 22 (byte f 22 - 1)).set 24 (checksum.extractLsb' 8 8)).set 25 (checksum.extractLsb' 0 8)

/-- All headers that leave, written over the bytes of the frame. -/
def overwrite (f : List Byte) (ingressPort : BitVec 9) (mark : Bool) (checksum : BitVec 16) : List Byte :=
  if Found f then (((overwriteIpv4 f checksum).set 43 (newByte f ingressPort mark 43)).set 52
    (newByte f ingressPort mark 52)).set 53 (newByte f ingressPort mark 53)
  else overwriteIpv4 f checksum

theorem found_iff {hdr : HeadersT} {ipv4 : Ipv4H} (header : hdr.ipv4 = some ipv4) (parsed : hdr.Parsed)
    (payload : List Byte) : Found (hdr.emit ++ payload) ↔ hdr.ppass.isSome := by
  obtain ⟨ethernet, _, tcp, udp, ppass⟩ := hdr
  cases header
  obtain ⟨isIpv4, isTcp, isUdp, isPpass⟩ := parsed
  dsimp only at isIpv4 isTcp isUdp isPpass ⊢
  have protocol : ∀ rest, byte (ethernet.emit ++ (ipv4.emit ++ rest)) 23 = ipv4.protocol := fun rest => by
    simp [byte, EthernetH.emit, Ipv4H.emit, sixths, halves, quarters]
  have port : ∀ (h : UdpH) rest, word (ethernet.emit ++ (ipv4.emit ++ (h.emit ++ rest))) 36 = h.dstPort :=
    fun h rest => by
      simp [word, byte, EthernetH.emit, Ipv4H.emit, UdpH.emit, sixths, halves, quarters]
  rw [isPpass]
  simp only [HeadersT.emit, Option.map_some, Option.getD_some, List.append_assoc, Found, IsUdp, protocol]
  rw [← isUdp]
  cases udp with
  | none => simp
  | some h =>
    have noTcp : tcp = none := by
      cases tcp with
      | none => rfl
      | some tcp => exact absurd ((isTcp.mp rfl).symm.trans (isUdp.mp rfl)) (by decide)
    subst noTcp
    simp [port]

theorem leaving_eq_overwrite {hdr : HeadersT} {ipv4 : Ipv4H} (header : hdr.ipv4 = some ipv4)
    (parsed : hdr.Parsed) (payload : List Byte) (ingressPort : BitVec 9) (mark : Bool) :
    (leavingHeaders ingressPort mark hdr).emit ++ payload =
      overwrite (hdr.emit ++ payload) ingressPort mark (ipv4Checksum { ipv4 with ttl := ipv4.ttl - 1 }) := by
  have found := found_iff header parsed payload
  obtain ⟨ethernet, _, tcp, udp, ppass⟩ := hdr
  cases header
  obtain ⟨isIpv4, isTcp, isUdp, isPpass⟩ := parsed
  dsimp only at isIpv4 isTcp isUdp isPpass
  cases ppass with
  | some ppass =>
    obtain ⟨udp, rfl, port⟩ := isPpass.mp rfl
    have noTcp : tcp = none := by
      cases tcp with
      | none => rfl
      | some tcp => exact absurd ((isTcp.mp rfl).symm.trans (isUdp.mp rfl)) (by decide)
    subst noTcp
    rw [overwrite, if_pos (found.mpr rfl), overwriteIpv4]
    simp only [newByte]
    simp [byte, leavingHeaders, HeadersT.emit, EthernetH.emit, Ipv4H.emit, UdpH.emit, PpassH.emit, sixths,
      halves, quarters]
    cases mark <;> simp
  | none =>
    rw [overwrite, if_neg (by simp [found]), overwriteIpv4]
    simp [byte, leavingHeaders, HeadersT.emit, EthernetH.emit, Ipv4H.emit, sixths, halves, quarters]

section Overwrite

variable {f : List Byte} {ingressPort : BitVec 9} {mark : Bool} {checksum : BitVec 16}

theorem byte_set_ne (g : List Byte) {i j : ℕ} (b : Byte) (other : i ≠ j) : byte (g.set i b) j = byte g j := by
  simp only [byte, List.getD_eq_getElem?_getD, List.getElem?_set_ne other]

theorem byte_set_self (g : List Byte) {i : ℕ} (b : Byte) (within : i < g.length) : byte (g.set i b) i = b := by
  simp only [byte, List.getD_eq_getElem?_getD, List.getElem?_set_self within, Option.getD_some]

theorem part_set_before (g : List Byte) {i start : ℕ} (b : Byte) (length : ℕ) (before : i < start) :
    part (g.set i b) start length = part g start length := by
  simp only [part, List.drop_set, if_pos before]

@[simp] theorem overwriteIpv4_length : (overwriteIpv4 f checksum).length = f.length := by simp [overwriteIpv4]

theorem byte_overwriteIpv4 {i : ℕ} (kept : i ≠ 22 ∧ i ≠ 24 ∧ i ≠ 25) :
    byte (overwriteIpv4 f checksum) i = byte f i := by
  rw [overwriteIpv4, byte_set_ne _ _ kept.2.2.symm, byte_set_ne _ _ kept.2.1.symm, byte_set_ne _ _ kept.1.symm]

theorem part_overwriteIpv4 {start : ℕ} (length : ℕ) (behind : 26 ≤ start) :
    part (overwriteIpv4 f checksum) start length = part f start length := by
  rw [overwriteIpv4, part_set_before _ _ _ (by omega), part_set_before _ _ _ (by omega),
    part_set_before _ _ _ (by omega)]

@[simp] theorem overwrite_length : (overwrite f ingressPort mark checksum).length = f.length := by
  unfold overwrite
  split <;> simp

/-- The rewritten PPass bytes are in place, and the bytes besides the IPv4
fields as they were. -/
theorem byte_overwrite (long : 60 ≤ f.length) {i : ℕ} (kept : i ≠ 22 ∧ i ≠ 24 ∧ i ≠ 25) :
    byte (overwrite f ingressPort mark checksum) i =
      if Found f then newByte f ingressPort mark i else byte f i := by
  unfold overwrite
  split
  · by_cases here : i = 53
    · subst here
      exact byte_set_self _ _ (by simp; omega)
    · rw [byte_set_ne _ _ (Ne.symm here)]
      by_cases here : i = 52
      · subst here
        exact byte_set_self _ _ (by simp; omega)
      · rw [byte_set_ne _ _ (Ne.symm here)]
        by_cases here : i = 43
        · subst here
          exact byte_set_self _ _ (by simp; omega)
        · rw [byte_set_ne _ _ (Ne.symm here), byte_overwriteIpv4 kept]
          simp only [newByte, *, if_false]
  · exact byte_overwriteIpv4 kept

theorem words_set {g : List Byte} (i : ℕ) (b : Byte) (within : i < g.length) (start length : ℕ)
    (even : 2 ∣ start) : (words (part (g.set i b) start length) : ℤ) = words (part g start length) +
      if start ≤ i ∧ i < start + length then weight i * ((b.toNat : ℤ) - (byte g i).toNat) else 0 := by
  have old : g[i] = byte g i := by simp [byte, within]
  rw [words_part_set g i b within start length even, old]

theorem words_overwrite (ingressPort : BitVec 9) (mark : Bool) (checksum : BitVec 16) (long : 60 ≤ f.length)
    (start length : ℕ) (even : 2 ∣ start) (behind : 26 ≤ start) :
    (words (part (overwrite f ingressPort mark checksum) start length) : ℤ) =
      words (part f start length) + moved f ingressPort mark start length := by
  unfold overwrite moved
  split
  · rw [words_set 53 _ (by simp; omega) start length even, words_set 52 _ (by simp; omega) start length even,
      words_set 43 _ (by simp; omega) start length even, part_overwriteIpv4 length behind,
      byte_set_ne _ _ (by omega), byte_set_ne _ _ (by omega), byte_set_ne _ _ (by omega),
      byte_overwriteIpv4 (by omega), byte_overwriteIpv4 (by omega), byte_overwriteIpv4 (by omega)]
    simp only [List.map_cons, List.map_nil, List.sum_cons, List.sum_nil]
    ring
  · rw [part_overwriteIpv4 length behind, add_zero]

end Overwrite

theorem halves_toNat (w : BitVec 16) : 256 * (w.extractLsb' 8 8).toNat + (w.extractLsb' 0 8).toNat = w.toNat := by
  have := w.isLt
  simp only [BitVec.extractLsb'_toNat, Nat.shiftRight_eq_div_pow]
  omega

theorem words_ipv4 (h : Ipv4H) : words h.emit = words (checksumFields h) + h.hdrChecksum.toNat := by
  have checksum := halves_toNat h.hdrChecksum
  simp only [Ipv4H.emit, checksumFields, halves, quarters, List.cons_append, List.nil_append, words]
  omega

theorem part_header {hdr : HeadersT} {ipv4 : Ipv4H} (header : hdr.ipv4 = some ipv4) (payload : List Byte) :
    part (hdr.emit ++ payload) 14 20 = ipv4.emit := by
  simp only [HeadersT.emit, header, Option.map_some, Option.getD_some, List.append_assoc, part]
  rw [List.drop_append_of_le_length (by simp), List.drop_eq_nil_of_le (by simp), List.nil_append,
    List.take_append_of_le_length (by simp), List.take_of_length_le (by simp)]

theorem leaving_sum {hdr : HeadersT} {ipv4 : Ipv4H} (header : hdr.ipv4 = some ipv4) (payload : List Byte)
    (ingressPort : BitVec 9) (mark : Bool) :
    fold (words (part ((leavingHeaders ingressPort mark hdr).emit ++ payload) 14 20)) = 65535 := by
  have left : (leavingHeaders ingressPort mark hdr).ipv4 = some { ipv4 with
      ttl := ipv4.ttl - 1
      hdrChecksum := ipv4Checksum { ipv4 with ttl := ipv4.ttl - 1 } } := by
    simp [leavingHeaders, header]
  have fits := complement_le (words (checksumFields { ipv4 with ttl := ipv4.ttl - 1 }))
  have checksum : (ipv4Checksum { ipv4 with ttl := ipv4.ttl - 1 }).toNat =
      complement (words (checksumFields { ipv4 with ttl := ipv4.ttl - 1 })) := by
    rw [ipv4Checksum, BitVec.toNat_ofNat]
    exact Nat.mod_eq_of_lt (by omega)
  rw [part_header left, words_ipv4, checksum]
  exact fold_add_complement _

theorem dstAddr_eq {hdr : HeadersT} {ipv4 : Ipv4H} (header : hdr.ipv4 = some ipv4) (payload : List Byte) :
    dstAddr (hdr.emit ++ payload) = ipv4.dstAddr := by
  simp [dstAddr, byte, HeadersT.emit, header, EthernetH.emit, Ipv4H.emit, sixths, halves, quarters]

theorem etherType_eq (hdr : HeadersT) (payload : List Byte) :
    word (hdr.emit ++ payload) 12 = hdr.ethernet.etherType := by
  simp [word, byte, HeadersT.emit, EthernetH.emit, sixths, halves]

theorem headerIntact_iff {g : List Byte} (long : 34 ≤ g.length) (fixed : fold (words (part g 14 20)) = 65535)
    (header : 20 ≤ headerLen g) : HeaderIntact g ↔ words (part g 34 (headerLen g - 20)) % 65535 = 0 := by
  have even : 2 ∣ (part g 14 20).length := by rw [part_length g (by omega)]; decide
  have split : part g 14 (headerLen g) = part g 14 20 ++ part g 34 (headerLen g - 20) := by
    rw [← part_add, Nat.add_sub_cancel' header]
  rw [fold_eq_ones_iff] at fixed
  rw [HeaderIntact, split, words_append even, fold_eq_ones_iff]
  omega

section Udp

variable {f : List Byte} {ingressPort : BitVec 9} {mark : Bool} {checksum : BitVec 16}

theorem word_overwrite (long : 60 ≤ f.length) {i : ℕ} (even : i % 2 = 0) (kept : i ≠ 22 ∧ i ≠ 24)
    (other : Found f → i ≠ 42 ∧ i ≠ 52) : word (overwrite f ingressPort mark checksum) i = word f i := by
  rw [word, byte_overwrite long (by omega), byte_overwrite long (by omega)]
  split
  · next found =>
    have apart := other found
    simp only [newByte, word]
    rw [if_neg (by omega), if_neg (by omega), if_neg (by omega), if_neg (by omega), if_neg (by omega),
      if_neg (by omega)]
  · rfl

theorem headerLen_overwrite (long : 60 ≤ f.length) :
    headerLen (overwrite f ingressPort mark checksum) = headerLen f := by
  rw [headerLen, byte_overwrite long (by omega)]
  simp [newByte, headerLen]

theorem udpLen_overwrite (long : 60 ≤ f.length) :
    udpLen (overwrite f ingressPort mark checksum) = udpLen f := by
  rw [udpLen, headerLen_overwrite long, totalLen, word_overwrite long (by omega) (by omega) (by omega)]
  rfl

theorem headerLen_dvd (f : List Byte) : 4 ∣ headerLen f := Dvd.intro _ rfl

theorem udpLength_iff (checksum : BitVec 16) (long : 60 ≤ f.length) (header : 20 ≤ headerLen f) :
    word (overwrite f ingressPort mark checksum) (14 + headerLen f + 4) = word f (14 + headerLen f + 4) ↔
      (Found f → headerLen f = 24 → newByte f ingressPort mark 43 = byte f 43) := by
  have quads := headerLen_dvd f
  by_cases here : Found f ∧ headerLen f = 24
  · have place : word (overwrite f ingressPort mark checksum) 42 = byte f 42 ++ newByte f ingressPort mark 43 := by
      rw [word, byte_overwrite long (by omega), byte_overwrite long (by omega), if_pos here.1, if_pos here.1]
      rfl
    rw [here.2, place, word]
    refine ⟨fun same _ _ => ?_, fun same => congrArg (byte f 42 ++ ·) (same here.1 rfl)⟩
    have low := congrArg (fun w : BitVec 16 => w.extractLsb' 0 8) same
    simpa only [low_byte] using low
  · rw [word_overwrite long (by omega) (by omega) (fun found => ?_)]
    · exact ⟨fun _ found is => absurd ⟨found, is⟩ here, fun _ => rfl⟩
    · have : headerLen f ≠ 24 := fun is => here ⟨found, is⟩
      omega

theorem udpChecksum_iff (long : 60 ≤ f.length) (header : 20 ≤ headerLen f)
    (there : word f (14 + headerLen f + 6) ≠ 0) :
    word (overwrite f ingressPort mark checksum) (14 + headerLen f + 6) ≠ 0 ↔
      (Found f → headerLen f = 32 → ingressPort ≠ 0) := by
  have quads := headerLen_dvd f
  by_cases here : Found f ∧ headerLen f = 32
  · have place : word (overwrite f ingressPort mark checksum) 52 = ingressPort.setWidth 16 := by
      rw [word, byte_overwrite long (by omega), byte_overwrite long (by omega), if_pos here.1, if_pos here.1]
      simp [newByte]
    have zero : ingressPort.setWidth 16 = 0 ↔ ingressPort = 0 := by
      constructor
      · intro zero
        have back := congrArg (BitVec.setWidth 9) zero
        simpa using back
      · rintro rfl
        rfl
    rw [here.2, place, ne_eq, zero]
    exact ⟨fun nonzero _ _ => nonzero, fun nonzero => nonzero here.1 rfl⟩
  · rw [word_overwrite long (by omega) (by omega) (fun found => ?_)]
    · exact ⟨fun _ found is => absurd ⟨found, is⟩ here, fun _ => there⟩
    · have : headerLen f ≠ 32 := fun is => here ⟨found, is⟩
      omega

/-- The datagram that leaves is intact exactly if its length and checksum are
not spoilt and the rewritten bytes move its sum by nothing. -/
theorem udpIntact_iff (frame : Ipv4Frame f) (udp : IsUdp f) :
    UdpIntact (overwrite f ingressPort mark checksum) ↔
      moved f ingressPort mark (14 + headerLen f) (udpLen f) % 65535 = 0 ∧
        (Found f → headerLen f = 24 → newByte f ingressPort mark 43 = byte f 43) ∧
        (Found f → headerLen f = 32 → ingressPort ≠ 0) := by
  have long := frame.long
  have quads := headerLen_dvd f
  have header := frame.header.1
  obtain ⟨-, length, there, sum⟩ := frame.udp udp
  have addresses := words_overwrite ingressPort mark checksum long 26 8 (by omega) le_rfl
  have datagram := words_overwrite ingressPort mark checksum long (14 + headerLen f) (udpLen f)
    (by omega) (by omega)
  have still : moved f ingressPort mark 26 8 = 0 := by simp [moved]
  rw [fold_eq_ones_iff] at sum
  rw [UdpIntact, headerLen_overwrite long, udpLen_overwrite long, fold_eq_ones_iff,
    udpChecksum_iff long frame.header.1 there, ← udpLength_iff checksum long frame.header.1]
  have same : (word (overwrite f ingressPort mark checksum) (14 + headerLen f + 4)).toNat = udpLen f ↔
      word (overwrite f ingressPort mark checksum) (14 + headerLen f + 4) = word f (14 + headerLen f + 4) := by
    rw [← BitVec.toNat_inj, length]
  rw [same]
  constructor
  · rintro ⟨length, there, sum⟩
    exact ⟨by omega, length, there⟩
  · rintro ⟨still, length, there⟩
    exact ⟨length, there, by omega⟩

end Udp

/-- What becomes of a frame with intact checksums that the table forwards: the
switch only writes the fields it is to write, and the checksums of what leaves
are right, exactly if the options do not count and the PPass bytes change
nothing for the UDP checksum. -/
theorem checksums_iff (tableForward : BitVec 32 → Option (BitVec 9)) (regs : WordRegisters) (md : Meta)
    (f : List Byte) (frame : Ipv4Frame f) (port : BitVec 9) (entry : tableForward (dstAddr f) = some port) :
    ∃ hdr payload hdr' regs', etherIPTCPUDPParser f = some (hdr, payload) ∧
      pipe tableForward regs md f = some (regs', hdr'.emit ++ payload) ∧
      ((Rewritten hdr hdr' ∧ HeaderIntact (hdr'.emit ++ payload) ∧
          (IsUdp f → UdpIntact (hdr'.emit ++ payload))) ↔
        Harmless f md.ingressPort (marks regs md hdr port)) := by
  obtain ⟨hdr, payload, parsed⟩ := parser_succeeds f (by have := frame.long; omega)
  obtain ⟨isParsed, rfl⟩ := parser_eq_some.mp parsed
  have isIpv4 : ∃ ipv4, hdr.ipv4 = some ipv4 := by
    have etherType := frame.etherType
    rw [etherType_eq] at etherType
    cases none : hdr.ipv4 with
    | none =>
      simp only [HeadersT.Parsed, none] at isParsed
      exact absurd etherType isParsed.1
    | some ipv4 => exact ⟨ipv4, rfl⟩
  obtain ⟨ipv4, header⟩ := isIpv4
  rw [dstAddr_eq header] at entry
  obtain ⟨regs', out⟩ := pipe_eq regs md parsed header entry
  refine ⟨hdr, payload, _, regs', parsed, out, ?_⟩
  have rewritten : Rewritten hdr (leavingHeaders md.ingressPort (marks regs md hdr port) hdr) := by
    refine ⟨ipv4Checksum { ipv4 with ttl := ipv4.ttl - 1 }, md.ingressPort.setWidth 16,
      if marks regs md hdr port then 1 else ((hdr.ppass.map PpassH.nwMarked).getD 0), ?_⟩
    simp only [leavingHeaders, header, Option.map_some]
    cases hdr.ppass <;> rfl
  have fixed := leaving_sum header payload md.ingressPort (marks regs md hdr port)
  rw [leaving_eq_overwrite header isParsed] at fixed ⊢
  have long := frame.long
  have options := words_overwrite md.ingressPort (marks regs md hdr port)
    (ipv4Checksum { ipv4 with ttl := ipv4.ttl - 1 }) long 34 (headerLen (hdr.emit ++ payload) - 20)
      (by omega) (by omega)
  have intact := headerIntact_iff (by rw [overwrite_length]; omega) fixed
    (by rw [headerLen_overwrite long]; exact frame.header.1)
  rw [headerLen_overwrite long] at intact
  rw [intact, Harmless]
  constructor
  · rintro ⟨-, ip, datagram⟩
    exact ⟨by omega, fun udp => (udpIntact_iff frame udp).mp (datagram udp)⟩
  · rintro ⟨ip, datagram⟩
    exact ⟨rewritten, by omega, fun udp => (udpIntact_iff frame udp).mpr (datagram udp)⟩

/-- A frame of 60 bytes from its IPv4 fields and what follows the fixed header,
with the checksum of the header. -/
def ipv4Frame (ihl : BitVec 4) (totalLen : BitVec 16) (protocol : BitVec 8) (rest : List Byte) : List Byte :=
  let blank : Ipv4H := ⟨4, ihl, 0, totalLen, 0, 0, 0, 64, protocol, 0, 0x0a000001, 0x0a000002⟩
  let checksum := BitVec.ofNat 16 (complement (words (blank.emit ++ rest.take (4 * ihl.toNat - 20))))
  (EthernetH.mk 1 2 ETHERTYPE_IPV4).emit ++ { blank with hdrChecksum := checksum }.emit ++
    (rest ++ List.replicate (26 - rest.length) 0)

/-- An echo request behind three no-operation options leaves with a wrong
header checksum, a PPass request without options with a wrong UDP checksum. -/
theorem checksums_spoilt :
    (Ipv4Frame (ipv4Frame 6 46 1 [1, 1, 1, 0, 8]) ∧
      (pipe (fun _ => some 1) Registers.zero ⟨5, 0, 1000, 0⟩ (ipv4Frame 6 46 1 [1, 1, 1, 0, 8])).map
        (fun out => decide (HeaderIntact out.2)) = some false) ∧
    (Ipv4Frame (ipv4Frame 5 40 17 [0x23, 0x29, 0x23, 0x29, 0, 20, 0xa3, 0x71, 2]) ∧
      (pipe (fun _ => some 1) Registers.zero ⟨5, 0, 1000, 0⟩
        (ipv4Frame 5 40 17 [0x23, 0x29, 0x23, 0x29, 0, 20, 0xa3, 0x71, 2])).map
        (fun out => decide (UdpIntact out.2)) = some false) := by
  refine ⟨⟨⟨by decide, by decide, by decide, by decide +kernel, by decide, fun udp => absurd udp (by decide)⟩,
    by decide +kernel⟩, ⟨⟨by decide, by decide, by decide, by decide +kernel, by decide, fun _ => ?_⟩,
    by decide +kernel⟩⟩
  exact ⟨by decide, by decide +kernel⟩

/-- The echo request without options. -/
theorem checksums_iff_plain :
    ∃ hdr payload hdr' regs', etherIPTCPUDPParser (ipv4Frame 5 46 1 [8]) = some (hdr, payload) ∧
      pipe (fun _ => some 1) Registers.zero ⟨5, 0, 1000, 0⟩ (ipv4Frame 5 46 1 [8]) =
        some (regs', hdr'.emit ++ payload) ∧
      ((Rewritten hdr hdr' ∧ HeaderIntact (hdr'.emit ++ payload) ∧
          (IsUdp (ipv4Frame 5 46 1 [8]) → UdpIntact (hdr'.emit ++ payload))) ↔
        Harmless (ipv4Frame 5 46 1 [8]) 5 (marks Registers.zero ⟨5, 0, 1000, 0⟩ hdr 1)) :=
  checksums_iff (fun _ => some 1) Registers.zero ⟨5, 0, 1000, 0⟩ (ipv4Frame 5 46 1 [8])
    ⟨by decide, by decide, by decide, by decide +kernel, by decide, fun udp => absurd udp (by decide)⟩ 1 rfl

end PhantomPass.Tofino
