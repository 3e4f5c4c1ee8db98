import Mathlib
import PhantomPass.Homa.Headers
import PhantomPass.Lib.Ordered

/-! The sending side of a Homa transport: how a message is cut into unscheduled
packets, what a grant adds, and what is sent next. -/

set_option autoImplicit false

namespace PhantomPass.Homa

open Lib (place)

variable (x : Params) (now : Time)

/-! ### UnschedByteAllocator -/

def maxReqPktDataBytes : ℕ := PktType.request.maxData
def maxUnschedPktDataBytes : ℕ := PktType.unschedData.maxData

def getReqDataBytes (msgSize : ℕ) : Checked ℕ := do
  Lib.require (.thrown "UnschedByteAllocator::initReqBytes"
  "Config Param defaultReqBytes is larger than max possible bytes")
    (x.defaultReqBytes ≤ maxReqPktDataBytes)
  return min x.defaultReqBytes msgSize

def getUnschedBytes (msgSize : ℕ) : Checked ℕ := do
  let reqDataBytes ← getReqDataBytes x msgSize
  return if msgSize ≤ reqDataBytes then 0 else min (msgSize - reqDataBytes) x.defaultUnschedBytes

/-- The packets behind the request, in as many rounds as there are bytes at most. -/
def unschedPktsData : ℕ → ℕ → List ℕ
  | 0, _ => []
  | rounds + 1, unschedData =>
    if unschedData = 0 then []
    else min unschedData maxUnschedPktDataBytes ::
      unschedPktsData rounds (unschedData - min unschedData maxUnschedPktDataBytes)

def getReqUnschedDataPkts (msgSize : ℕ) : Checked (List ℕ) := do
  let reqData ← getReqDataBytes x msgSize
  let unschedData ← getUnschedBytes x msgSize
  return reqData :: unschedPktsData unschedData unschedData

/-! ### PriorityResolver -/

/-- The search between two bounds, in as many rounds as there are cut-offs at most. -/
def searchPrio (msgSize : ℕ) : ℕ → ℕ → ℕ → ℕ
  | 0, _, high => high
  | rounds + 1, low, high =>
    if low < high then
      let mid := (high + low) / 2
      if msgSize ≤ x.prioCutOffs.getD mid 0 then searchPrio msgSize rounds low mid
      else searchPrio msgSize rounds (mid + 1) high
    else high

def getMesgPrio (msgSize : ℕ) : ℕ := searchPrio x msgSize x.prioCutOffs.length 0 (x.prioCutOffs.length - 1)

/-- The mode is STATIC_CBF_GRADUATED: each packet goes by what is left of the message. -/
def getUnschedPktsPrio : ℕ → List ℕ → Checked (List ℕ)
  | _, [] => return []
  | msgSize, pkt :: pkts => do
    assert "PriorityResolver::getUnschedPktsPrio" "msgSize >= pkt" (pkt ≤ msgSize)
    let rest ← getUnschedPktsPrio (msgSize - pkt) pkts
    return getMesgPrio x msgSize :: rest

/-! ### OutboundMessage -/

structure OutboundMessage where
  msgType : MsgType
  reqId : ℤ
  appLevelId : ℤ
  clientThreadId : ℤ
  serverThreadId : ℤ
  msgId : ℕ
  msgSize : ℕ
  bytesToSched : ℕ
  bytesLeft : ℕ
  reqUnschedDataVec : List ℕ
  destAddr : Addr
  srcAddr : Addr
  msgCreationTime : Time
  txPkts : List Hdr := []
  deriving DecidableEq

def Hdr.txKey (p : Hdr) : ℕ ×ₗ ℚ ×ₗ ℕ := toLex (p.getFirstByte, toLex (p.creationTime, p.priority))

namespace OutboundMessage

variable (o : OutboundMessage)

def ofAppMessage (msg : AppMessage) (msgId : ℕ) (reqUnschedDataVec : List ℕ) : OutboundMessage where
  msgType := msg.msgType
  reqId := msg.reqId
  appLevelId := msg.appLevelId
  clientThreadId := msg.clientThreadId
  serverThreadId := msg.serverThreadId
  msgId
  msgSize := msg.byteLength
  bytesToSched := msg.byteLength
  bytesLeft := msg.byteLength
  reqUnschedDataVec
  destAddr := msg.destAddr
  srcAddr := msg.srcAddr
  msgCreationTime := msg.msgCreationTime

def packet (pktType : PktType) (priority : ℕ) : Hdr where
  pktType
  msgType := o.msgType
  srcAddr := o.srcAddr
  destAddr := o.destAddr
  msgId := o.msgId
  priority
  msgCreationTime := o.msgCreationTime
  creationTime := now
  arrivalTime := now
  reqId := o.reqId
  appLevelId := o.appLevelId
  clientThreadId := o.clientThreadId
  serverThreadId := o.serverThreadId

def unschedPkt (pktType : PktType) (priority total firstByte len : ℕ) : Hdr :=
  { o.packet now pktType priority with
    unschedFields :=
      { msgByteLen := o.msgSize, totalUnschedBytes := total, firstByte, lastByte := sub32 (firstByte + len) 1 } }

/-- All but the first are UNSCHED_DATA. -/
def unschedPkts (total : ℕ) : PktType → ℕ → List (ℕ × ℕ) → List Hdr
  | _, _, [] => []
  | pktType, nextByteToSched, (len, priority) :: rest =>
    o.unschedPkt now pktType priority total nextByteToSched len ::
      unschedPkts total .unschedData (nextByteToSched + len) rest

def prepareRequestAndUnsched : Checked OutboundMessage := do
  let prios ← getUnschedPktsPrio x o.msgSize o.reqUnschedDataVec
  assert "OutboundMessage::prepareRequestAndUnsched" "msgType != HomaMsgType::UNDEF_HOMA_MSG_TYPE" (o.msgType ≠ .undef)
  assert "OutboundMessage::prepareRequestAndUnsched" "msgType != HomaMsgType::OTHER_MSG" (o.msgType ≠ .other)
  let pkts := o.unschedPkts now o.reqUnschedDataVec.sum .request 0 (o.reqUnschedDataVec.zip prios)
  -- the queue is kept in order, whatever is put into it
  return { o with
    txPkts := pkts.foldl (fun queue p => place Hdr.txKey p queue) o.txPkts
    bytesToSched := pkts.foldl (fun left p => sub32 left p.getDataBytes) o.bytesToSched }

def schedPkt (offset bytesToSend schedPrio : ℕ) : Hdr :=
  { o.packet now .schedData schedPrio with
    schedDataFields := { firstByte := offset, lastByte := sub32 (offset + bytesToSend) 1 } }

def prepareSchedPkt (offset numBytes schedPrio : ℕ) : Checked OutboundMessage := do
  assert "OutboundMessage::prepareSchedPkt" "this->bytesToSched > 0" (0 < o.bytesToSched)
  let bytesToSend := min numBytes o.bytesToSched
  return { o with
    txPkts := place Hdr.txKey (o.schedPkt now offset bytesToSend schedPrio) o.txPkts
    bytesToSched := sub32 o.bytesToSched bytesToSend }

def getTransmitReadyPkt : Checked (Hdr × OutboundMessage) :=
  match o.txPkts with
  | [] => throw (.assertion "OutboundMessage::getTransmitReadyPkt" "!txPkts.empty()")
  | head :: rest => do
    assert "OutboundMessage::getTransmitReadyPkt" "(*outPkt)->msgType_var() != HomaMsgType::UNDEF_HOMA_MSG_TYPE"
      (head.msgType ≠ .undef)
    assert "OutboundMessage::getTransmitReadyPkt" "(*outPkt)->msgType_var() != HomaMsgType::OTHER_MSG"
      (head.msgType ≠ .other)
    return (head, { o with txPkts := rest, bytesLeft := sub32 o.bytesLeft head.getDataBytes })

end OutboundMessage

/-! ### HomaAgent -/

/-- HomaAgent::sendmsg: full packets, and one for the rest. -/
def sendmsg (p : Hdr) : Checked (List Hdr) := do
  assert "HomaAgent::sendmsg" "homa_hdr->msg_creation_time_var() > 0.0" (0 < p.msgCreationTime)
  let payloadSize := p.pktType.maxData
  assert "HomaAgent::sendmsg" "data_bytes < 1500" (p.getDataBytes < 1500)
  -- a packet without data still takes a frame
  let dataBytes := if p.getDataBytes = 0 then 1 else p.getDataBytes
  return List.replicate (p.getDataBytes / payloadSize) p ++ if 0 < dataBytes % payloadSize then [p] else []

end PhantomPass.Homa
