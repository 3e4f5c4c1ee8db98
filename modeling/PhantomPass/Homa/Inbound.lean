import PhantomPass.Homa.Outbound

/-! The receiving side of a Homa transport: a message that is coming in, what is
granted of it, and what a packet does to it. -/

set_option autoImplicit false

namespace PhantomPass.Homa

variable (now : Time)

/-- A message that is coming in; each grant that is not answered by its offset and size. -/
structure InboundMessage where
  msgType : MsgType
  reqId : ℤ
  appLevelId : ℤ
  clientThreadId : ℤ
  serverThreadId : ℤ
  srcAddr : Addr
  destAddr : Addr
  msgIdAtSender : ℕ
  bytesToGrant : ℕ
  offset : ℕ
  totalBytesInFlight : ℕ
  bytesToReceive : ℕ
  msgSize : ℕ
  totalUnschedBytes : ℕ
  msgCreationTime : Time
  reqArrivalTime : Time
  lastGrantTime : Time
  inflightGrants : List (ℕ × ℕ)
  deriving DecidableEq

namespace InboundMessage

variable (m : InboundMessage)

def ofPkt (rxPkt : Hdr) : Checked InboundMessage := do
  assert "InboundMessage::InboundMessage" "rxPkt->msgType_var() != HomaMsgType::UNDEF_HOMA_MSG_TYPE"
    (rxPkt.msgType ≠ .undef)
  Lib.require (.thrown "InboundMessage::InboundMessage" "Can't create inbound message from received packet type")
    (rxPkt.pktType = .request ∨ rxPkt.pktType = .unschedData)
  let fields := rxPkt.unschedFields
  return {
    msgType := rxPkt.msgType
    reqId := rxPkt.reqId
    appLevelId := rxPkt.appLevelId
    clientThreadId := rxPkt.clientThreadId
    serverThreadId := rxPkt.serverThreadId
    srcAddr := rxPkt.srcAddr
    destAddr := rxPkt.destAddr
    msgIdAtSender := rxPkt.msgId
    -- the unscheduled bytes come without a grant, as if granted at once
    bytesToGrant := sub32 fields.msgByteLen fields.totalUnschedBytes
    offset := fields.totalUnschedBytes
    totalBytesInFlight := getBytesOnWire fields.totalUnschedBytes .unschedData
    bytesToReceive := fields.msgByteLen
    msgSize := fields.msgByteLen
    totalUnschedBytes := fields.totalUnschedBytes
    msgCreationTime := rxPkt.msgCreationTime
    reqArrivalTime := now
    lastGrantTime := now
    inflightGrants := [(0, fields.totalUnschedBytes)] }

def fillinUnsched (bytesReceived : ℕ) : Checked (List (ℕ × ℕ)) :=
  match m.inflightGrants with
  | [] => throw (.nullPointer "InboundMessage::fillinRxBytes")
  | (offset, size) :: rest => do
    assert "InboundMessage::fillinRxBytes" "std::get<0>(*grantZero) == 0" (offset = 0)
    assert "InboundMessage::fillinRxBytes" "std::get<1>(*grantZero) >= bytesReceived" (bytesReceived ≤ size)
    -- the first entry stands for all unscheduled bytes
    return if size - bytesReceived = 0 then rest else (offset, size - bytesReceived) :: rest

def fillinSched (byteStart bytesReceived : ℕ) : Checked (List (ℕ × ℕ)) := do
  assert "InboundMessage::fillinRxBytes" "bytesReceived > 0" (0 < bytesReceived)
  match m.inflightGrants.find? fun grant => grant.1 = byteStart with
  | none => throw (.assertion "InboundMessage::fillinRxBytes" "grant != inflightGrants.end()")
  | some grant => do
    assert "InboundMessage::fillinRxBytes" "std::get<1>(*grant) == bytesReceived" (grant.2 = bytesReceived)
    return m.inflightGrants.eraseP fun grant => grant.1 = byteStart

def fillinGrants (byteStart bytesReceived : ℕ) : PktType → Checked (List (ℕ × ℕ))
  | .unschedData | .request => m.fillinUnsched bytesReceived
  | .schedData => m.fillinSched byteStart bytesReceived
  | .grant => return m.inflightGrants

def fillinRxBytes (byteStart byteEnd : ℕ) (pktType : PktType) : Checked InboundMessage := do
  let bytesReceived := (sub32 byteEnd byteStart + 1) % 2 ^ 32
  let inflightGrants ← m.fillinGrants byteStart bytesReceived pktType
  return { m with
    bytesToReceive := sub32 m.bytesToReceive bytesReceived
    totalBytesInFlight := sub32 m.totalBytesInFlight (getBytesOnWire bytesReceived pktType)
    inflightGrants }

def fillin (rxPkt : Hdr) : Checked InboundMessage :=
  match rxPkt.pktType with
  | .request | .unschedData => m.fillinRxBytes rxPkt.unschedFields.firstByte rxPkt.unschedFields.lastByte rxPkt.pktType
  | .schedData => m.fillinRxBytes rxPkt.schedDataFields.firstByte rxPkt.schedDataFields.lastByte rxPkt.pktType
  | .grant => throw (.thrown "SenderState::handleInboundPkt" "PktType %d is not recongnized")

def grantPkt (grantSize schedPrio : ℕ) : Hdr where
  pktType := .grant
  msgType := .other
  srcAddr := m.destAddr
  destAddr := m.srcAddr
  msgId := m.msgIdAtSender
  priority := 0
  msgCreationTime := now
  creationTime := now
  arrivalTime := now
  grantFields := { grantBytes := grantSize, offset := m.offset, schedPrio }

def granted (grantSize : ℕ) : InboundMessage :=
  { m with
    inflightGrants := m.inflightGrants ++ [(m.offset, grantSize)]
    bytesToGrant := sub32 m.bytesToGrant grantSize
    offset := m.offset + grantSize
    lastGrantTime := now
    totalBytesInFlight := m.totalBytesInFlight + getBytesOnWire grantSize .schedData }

def prepareGrant (grantSize schedPrio : ℕ) : Checked (InboundMessage × Hdr) := do
  let granted := m.granted now grantSize
  assert "InboundMessage::prepareGrant" "this->offset == this->msgSize - this->bytesToGrant"
    (granted.offset = sub32 granted.msgSize granted.bytesToGrant)
  return (granted, m.grantPkt now grantSize schedPrio)

def prepareRxMsgForApp : Checked AppMessage := do
  if m.msgSize ≤ m.totalUnschedBytes then
    assert "InboundMessage::prepareRxMsgForApp"
      "reqArrivalTime == lastGrantTime && bytesToGrant == 0 && bytesToReceive == 0"
      (m.reqArrivalTime = m.lastGrantTime ∧ m.bytesToGrant = 0 ∧ m.bytesToReceive = 0)
  else
    assert "InboundMessage::prepareRxMsgForApp"
      "reqArrivalTime <= lastGrantTime && bytesToGrant == 0 && bytesToReceive == 0"
      (m.reqArrivalTime ≤ m.lastGrantTime ∧ m.bytesToGrant = 0 ∧ m.bytesToReceive = 0)
  return {
    msgType := m.msgType
    byteLength := m.msgSize
    reqId := m.reqId
    appLevelId := m.appLevelId
    clientThreadId := m.clientThreadId
    serverThreadId := m.serverThreadId
    srcAddr := m.srcAddr
    destAddr := m.destAddr
    msgCreationTime := m.msgCreationTime }

end InboundMessage

end PhantomPass.Homa
