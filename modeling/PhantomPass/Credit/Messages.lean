import PhantomPass.Hybrid.SendData

/-! Packets as parts of messages: what a log of packets holds of one message. -/

set_option autoImplicit false

namespace PhantomPass

/-- A packet carries a header and so many payload bytes; the agent only filled
in the mark, the queue length and the link speed. -/
structure Packet.Carries (p : Packet) (hdr : Hdr) (len : ℕ) (src dst : Addr) : Prop where
  hdr : p.hdr = { hdr with senderMarked := p.hdr.senderMarked, qlen := p.hdr.qlen, B := p.hdr.B }
  src : p.src = src
  dst : p.dst = dst
  size : p.size = ethernet.cost len
  padding : p.padding = p.size - (len + wireOverhead)

namespace Packet

def wireCost (p : Packet) : ℤ := ethernet.cost p.payload

def isCreditReq (p : Packet) : Bool := p.hdr.msgType == .grantReq

/-- The only packet of a reply: it passes the receiver's transport untouched. -/
def isSingleReply (p : Packet) : Bool := p.hdr.msgType == .reply && p.hdr.first && p.hdr.pktId == 1

theorem isGrant_of_isData {p : Packet} (data : p.isData = true) : p.isGrant = false := by
  unfold isData at data; unfold isGrant; cases h : p.hdr.msgType <;> simp_all

theorem isGrant_of_part {p : Packet} (kind : p.isData = true ∨ p.isCreditReq = true) : p.isGrant = false := by
  rcases kind with data | req
  · exact isGrant_of_isData data
  · unfold isCreditReq at req
    unfold isGrant
    cases type : p.hdr.msgType <;> simp_all

namespace Carries

variable {p : Packet} {hdr : Hdr} {len : ℕ} {src dst : Addr}

theorem payload_eq (carries : p.Carries hdr len src dst) : p.payload = len := by
  have size := carries.size
  have padding := carries.padding
  simp only [ethernet, Lib.Framing.cost, wireOverhead, r2p2AllHeadersSize, interPktGapSize, ethernetPreambleSize,
    minEthernetFrameOnWire] at size padding
  simp only [payload, r2p2AllHeadersSize, interPktGapSize, ethernetPreambleSize]
  omega

theorem wireCost_eq (carries : p.Carries hdr len src dst) : p.wireCost = ethernet.cost len := by
  rw [wireCost, carries.payload_eq]

theorem msgType (carries : p.Carries hdr len src dst) : p.hdr.msgType = hdr.msgType := by rw [carries.hdr]

theorem uniqReqId (carries : p.Carries hdr len src dst) : p.uniqReqId = hdr.uniqReqId := by
  rw [Packet.uniqReqId, carries.hdr]; rfl

end Carries

end Packet

def dataOf (id : UniqReqId) (log : List Packet) : List Packet := log.filter fun p => p.isData && p.uniqReqId == id

def creditReqsOf (id : UniqReqId) (log : List Packet) : List Packet :=
  log.filter fun p => p.isCreditReq && p.uniqReqId == id

def grantsOf (id : UniqReqId) (log : List Packet) : List Packet :=
  log.filter fun p => p.isGrant && p.uniqReqId == id

@[simp] theorem dataOf_nil (id : UniqReqId) : dataOf id [] = [] := rfl

@[simp] theorem creditReqsOf_nil (id : UniqReqId) : creditReqsOf id [] = [] := rfl

@[simp] theorem grantsOf_nil (id : UniqReqId) : grantsOf id [] = [] := rfl

theorem mem_dataOf {id : UniqReqId} {log : List Packet} {p : Packet} :
    p ∈ dataOf id log ↔ p ∈ log ∧ p.isData = true ∧ p.uniqReqId = id := by simp [dataOf]

theorem mem_creditReqsOf {id : UniqReqId} {log : List Packet} {p : Packet} :
    p ∈ creditReqsOf id log ↔ p ∈ log ∧ p.isCreditReq = true ∧ p.uniqReqId = id := by simp [creditReqsOf]

theorem mem_grantsOf {id : UniqReqId} {log : List Packet} {p : Packet} :
    p ∈ grantsOf id log ↔ p ∈ log ∧ p.isGrant = true ∧ p.uniqReqId = id := by simp [grantsOf]

section Append

variable {id : UniqReqId} {log : List Packet} {p : Packet}

theorem dataOf_append (more : List Packet) : dataOf id (log ++ more) = dataOf id log ++ dataOf id more :=
  List.filter_append ..

theorem creditReqsOf_append (more : List Packet) :
    creditReqsOf id (log ++ more) = creditReqsOf id log ++ creditReqsOf id more := List.filter_append ..

theorem grantsOf_append (more : List Packet) : grantsOf id (log ++ more) = grantsOf id log ++ grantsOf id more :=
  List.filter_append ..

theorem dataOf_append_self (data : p.isData = true) (of : p.uniqReqId = id) :
    dataOf id (log ++ [p]) = dataOf id log ++ [p] := by simp [dataOf, data, of]

theorem dataOf_append_other (other : p.isData = false ∨ p.uniqReqId ≠ id) :
    dataOf id (log ++ [p]) = dataOf id log := by
  rcases other with other | other <;> simp [dataOf, other]

theorem creditReqsOf_append_self (req : p.isCreditReq = true) (of : p.uniqReqId = id) :
    creditReqsOf id (log ++ [p]) = creditReqsOf id log ++ [p] := by
  simp [creditReqsOf, req, of]

theorem creditReqsOf_append_other (other : p.isCreditReq = false ∨ p.uniqReqId ≠ id) :
    creditReqsOf id (log ++ [p]) = creditReqsOf id log := by
  rcases other with other | other <;> simp [creditReqsOf, other]

theorem grantsOf_append_self (grant : p.isGrant = true) (of : p.uniqReqId = id) :
    grantsOf id (log ++ [p]) = grantsOf id log ++ [p] := by simp [grantsOf, grant, of]

theorem grantsOf_append_other (other : p.isGrant = false ∨ p.uniqReqId ≠ id) :
    grantsOf id (log ++ [p]) = grantsOf id log := by
  rcases other with other | other <;> simp [grantsOf, other]

end Append

def fromAddr (addr : Addr) (log : List Packet) : List Packet := log.filter fun p => p.src == addr

def toAddr (addr : Addr) (log : List Packet) : List Packet := log.filter fun p => p.dst == addr

def dataPkts (log : List Packet) : List Packet := log.filter Packet.isData

theorem mem_fromAddr {addr : Addr} {log : List Packet} {p : Packet} : p ∈ fromAddr addr log ↔
    p ∈ log ∧ p.src = addr := by
  simp [fromAddr]

theorem mem_toAddr {addr : Addr} {log : List Packet} {p : Packet} : p ∈ toAddr addr log ↔ p ∈ log ∧ p.dst = addr := by
  simp [toAddr]

theorem mem_dataPkts {log : List Packet} {p : Packet} : p ∈ dataPkts log ↔ p ∈ log ∧ p.isData = true := by
    simp [dataPkts]

theorem fromAddr_append (addr : Addr) (log more : List Packet) :
    fromAddr addr (log ++ more) = fromAddr addr log ++ fromAddr addr more := List.filter_append ..

theorem toAddr_append (addr : Addr) (log more : List Packet) :
    toAddr addr (log ++ more) = toAddr addr log ++ toAddr addr more := List.filter_append ..

theorem dataPkts_append (log more : List Packet) : dataPkts (log ++ more) = dataPkts log ++ dataPkts more :=
  List.filter_append ..

theorem fromAddr_singleton (addr : Addr) (p : Packet) : fromAddr addr [p] = if p.src = addr then [p] else [] := by
  by_cases same : p.src = addr <;> simp [fromAddr, same]

theorem toAddr_singleton (addr : Addr) (p : Packet) : toAddr addr [p] = if p.dst = addr then [p] else [] := by
  by_cases same : p.dst = addr <;> simp [toAddr, same]

theorem dataPkts_singleton (p : Packet) : dataPkts [p] = if p.isData then [p] else [] := by
  cases kind : p.isData <;> simp [dataPkts, kind]

theorem dataOf_filter {id : UniqReqId} {log : List Packet} {keep : Packet → Bool}
    (all : ∀ p ∈ dataOf id log, keep p = true) : dataOf id (log.filter keep) = dataOf id log := by
  unfold dataOf
  rw [List.filter_filter]
  refine List.filter_congr fun p inside => ?_
  cases of : p.isData && p.uniqReqId == id with
  | false => rfl
  | true => exact all p (List.mem_filter.mpr ⟨inside, of⟩)

theorem dataOf_toAddr {addr : Addr} {id : UniqReqId} {log : List Packet} (aimed : ∀ p ∈ dataOf id log, p.dst = addr) :
    dataOf id (dataPkts (toAddr addr log)) = dataOf id log := by
  have towards : dataOf id (toAddr addr log) = dataOf id log :=
    dataOf_filter fun p inside => beq_iff_eq.mpr (aimed p inside)
  rw [← towards]
  exact dataOf_filter fun p inside => (mem_dataOf.mp inside).2.1

def payloadSum (log : List Packet) : ℕ := (log.map Packet.payload).sum

def wireSum (log : List Packet) : ℤ := (log.map Packet.wireCost).sum

def creditSum (log : List Packet) : ℤ := (log.map fun p => p.hdr.credit).sum

@[simp] theorem payloadSum_nil : payloadSum [] = 0 := rfl

@[simp] theorem wireSum_nil : wireSum [] = 0 := rfl

@[simp] theorem creditSum_nil : creditSum [] = 0 := rfl

@[simp] theorem payloadSum_append (a b : List Packet) : payloadSum (a ++ b) = payloadSum a + payloadSum b := by
  simp [payloadSum]

@[simp] theorem wireSum_append (a b : List Packet) : wireSum (a ++ b) = wireSum a + wireSum b := by simp [wireSum]

@[simp] theorem creditSum_append (a b : List Packet) : creditSum (a ++ b) = creditSum a + creditSum b := by
  simp [creditSum]

@[simp] theorem payloadSum_singleton (p : Packet) : payloadSum [p] = p.payload := by simp [payloadSum]

@[simp] theorem wireSum_singleton (p : Packet) : wireSum [p] = p.wireCost := by simp [wireSum]

@[simp] theorem creditSum_singleton (p : Packet) : creditSum [p] = p.hdr.credit := by simp [creditSum]

theorem payloadSum_perm {a b : List Packet} (perm : a.Perm b) : payloadSum a = payloadSum b :=
  (perm.map _).sum_eq

theorem wireSum_perm {a b : List Packet} (perm : a.Perm b) : wireSum a = wireSum b := (perm.map _).sum_eq

theorem creditSum_perm {a b : List Packet} (perm : a.Perm b) : creditSum a = creditSum b := (perm.map _).sum_eq

theorem wireSum_nonneg (log : List Packet) : 0 ≤ wireSum log :=
  List.sum_nonneg fun cost inside => by
    obtain ⟨p, _, rfl⟩ := List.mem_map.mp inside
    exact Int.natCast_nonneg _

theorem creditSum_nonneg {grants : List Packet} (each : ∀ p ∈ grants, 0 ≤ p.hdr.credit) : 0 ≤ creditSum grants := by
  apply List.sum_nonneg
  intro credit inside
  obtain ⟨p, member, rfl⟩ := List.mem_map.mp inside
  exact each p member

end PhantomPass
