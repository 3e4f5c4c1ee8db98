import Mathlib
import PhantomPass.Lib.Checked
import PhantomPass.Wire

/-! What the Homa transport sends: the packets of hdr_homa with their sizes on the
wire, the messages of the application, and the parameters of a transport. -/

set_option autoImplicit false

namespace PhantomPass.Homa

def maxEthernetPayload : ℕ := 1500
def minEthernetPayload : ℕ := 46
def ethernetHeaderSize : ℕ := 18
def ipHeaderSize : ℕ := 20
def udpHeaderSize : ℕ := 8

inductive PktType
  | request | grant | schedData | unschedData
  deriving DecidableEq

/-- HomaMsgType: whether a message is a request or a reply. -/
inductive MsgType
  | undef | request | reply | other
  deriving DecidableEq

structure AppMessage where
  msgType : MsgType
  byteLength : ℕ
  reqId : ℤ
  appLevelId : ℤ
  clientThreadId : ℤ
  serverThreadId : ℤ
  srcAddr : Addr
  destAddr : Addr
  msgCreationTime : Time
  deriving DecidableEq

structure UnschedFields where
  msgByteLen : ℕ := 0
  totalUnschedBytes : ℕ := 0
  firstByte : ℕ := 0
  lastByte : ℕ := 0
  deriving DecidableEq

structure GrantFields where
  grantBytes : ℕ := 0
  offset : ℕ := 0
  schedPrio : ℕ := 0
  deriving DecidableEq

structure SchedDataFields where
  firstByte : ℕ := 0
  lastByte : ℕ := 0
  deriving DecidableEq

/-- hdr_homa. -/
structure Hdr where
  pktType : PktType
  msgType : MsgType
  srcAddr : Addr
  destAddr : Addr
  msgId : ℕ
  priority : ℕ
  msgCreationTime : Time
  creationTime : Time
  arrivalTime : Time
  reqId : ℤ := 0
  appLevelId : ℤ := 0
  clientThreadId : ℤ := 0
  serverThreadId : ℤ := 0
  unschedFields : UnschedFields := {}
  grantFields : GrantFields := {}
  schedDataFields : SchedDataFields := {}
  deriving DecidableEq

/-- How a run stops: an assertion, an exception, a missing key, a null pointer. -/
inductive Fault
  | assertion (symbol text : String)
  | thrown (symbol text : String)
  | outOfRange (symbol container : String)
  | nullPointer (symbol : String)
  deriving DecidableEq

abbrev Checked := Except Fault

def assert (symbol text : String) (cond : Prop) [Decidable cond] : Checked PUnit :=
  Lib.require (.assertion symbol text) cond

def sub32 (a b : ℕ) : ℕ := if b ≤ a then a - b else a + 2 ^ 32 - b

theorem sub32_of_le {a b : ℕ} (le : b ≤ a) : sub32 a b = a - b := if_pos le

namespace PktType

/-- The fields that the header of a packet of this type is made of. -/
def headerSize : PktType → ℕ
  | request | unschedData => 30
  | grant => 20
  | schedData => 16

def maxData (t : PktType) : ℕ := maxEthernetPayload - ipHeaderSize - udpHeaderSize - t.headerSize

def framing (t : PktType) : Lib.Framing where
  mss := t.maxData
  header := t.headerSize + ipHeaderSize + udpHeaderSize + ethernetHeaderSize + ethernetPreambleSize + interPktGapSize
  floor := minEthernetPayload + ethernetHeaderSize + ethernetPreambleSize + interPktGapSize
  mss_pos := by cases t <;> decide

end PktType

namespace Hdr

variable (p : Hdr)

def IsData : Prop := p.pktType ≠ .grant

instance : DecidablePred IsData := fun p => inferInstanceAs (Decidable (p.pktType ≠ .grant))

def getDataBytes : ℕ :=
  match p.pktType with
  | .request | .unschedData => (sub32 p.unschedFields.lastByte p.unschedFields.firstByte + 1) % 2 ^ 32
  | .schedData => (sub32 p.schedDataFields.lastByte p.schedDataFields.firstByte + 1) % 2 ^ 32
  | .grant => 0

def getFirstByte : ℕ :=
  match p.pktType with
  | .schedData => p.schedDataFields.firstByte
  | .request | .unschedData => p.unschedFields.firstByte
  | .grant => 0

end Hdr

def getBytesOnWire (numDataBytes : ℕ) (t : PktType) : ℕ :=
  let perPkt := ethernetHeaderSize + ethernetPreambleSize + interPktGapSize
  let numFullPkts := numDataBytes / t.maxData
  let numPartialBytes := numDataBytes - numFullPkts * t.maxData
  let full := numFullPkts * (maxEthernetPayload + perPkt)
  if 0 < numFullPkts ∧ numPartialBytes = 0 then full
  else full + (max (numPartialBytes + (t.headerSize + ipHeaderSize + udpHeaderSize)) minEthernetPayload + perPkt)

theorem getBytesOnWire_eq_sum {n : ℕ} (t : PktType) (pos : 0 < n) :
    getBytesOnWire n t = ((t.framing.lens n).map t.framing.cost).sum := by
  have full : t.framing.cost t.maxData =
    maxEthernetPayload + (ethernetHeaderSize + ethernetPreambleSize + interPktGapSize) := by
    cases t <;> decide
  have left : n - n / t.maxData * t.maxData = n % t.maxData := by
    have := Nat.div_add_mod' n t.maxData
    omega
  have cost : ∀ m, max (m + (t.headerSize + ipHeaderSize + udpHeaderSize)) minEthernetPayload +
      (ethernetHeaderSize + ethernetPreambleSize + interPktGapSize) = t.framing.cost m := by
    intro m
    simp only [Lib.Framing.cost, PktType.framing, minEthernetPayload, ethernetHeaderSize, ethernetPreambleSize,
      interPktGapSize,
      ipHeaderSize, udpHeaderSize]
    omega
  have some_ : n % t.maxData = 0 → 0 < n / t.maxData := by
    intro zero
    by_contra none
    have := Nat.div_add_mod' n t.maxData
    rw [zero, Nat.eq_zero_of_not_pos none] at this
    omega
  unfold getBytesOnWire Lib.Framing.lens
  dsimp only
  rw [left, cost, show t.framing.mss = t.maxData from rfl, List.map_append, List.sum_append, List.map_replicate,
    List.sum_replicate,
    full, smul_eq_mul]
  by_cases zero : n % t.maxData = 0
  · rw [if_pos ⟨some_ zero, zero⟩, if_pos zero]
    simp
  · rw [if_neg (fun both => zero both.2), if_neg zero]
    simp

theorem getBytesOnWire_single {n : ℕ} {t : PktType} (le : n ≤ t.maxData) : getBytesOnWire n t = t.framing.cost n := by
  rcases n.eq_zero_or_pos with rfl | pos
  · cases t <;> decide
  · rw [getBytesOnWire_eq_sum t pos, t.framing.lens_of_le pos le]
    simp

/-- The parameters that size packets and grants, and the cut-off sizes of the priorities. -/
structure Params where
  grantMaxBytes : ℕ
  defaultReqBytes : ℕ
  defaultUnschedBytes : ℕ
  prioCutOffs : List ℕ

def Params.grantMax (x : Params) : ℕ := min x.grantMaxBytes PktType.schedData.maxData

end PhantomPass.Homa
