import PhantomPass.Hybrid.Rpc
import PhantomPass.Hybrid.SendGrants
import PhantomPass.Hybrid.Windows

/-! A host as the network and the application drive it: polls, packets that
arrive, requests and responses that are sent. -/

set_option autoImplicit false

namespace PhantomPass

open Lib (RoundRobin)

/-- per_loop_stats reads the inbound messages through their cursor. -/
def walkInbound : ℕ → RoundRobin UniqReqId → Checked (RoundRobin UniqReqId)
  | 0, inbound => return inbound
  | turns + 1, inbound =>
    match inbound.next with
    | none => throw (.thrown .inboundNext "there is no next() because the array is empty")
    | some (_, inbound) => walkInbound turns inbound

namespace Host

/-- The statistics themselves are left out; only the cursor of the inbound messages moves. -/
def pollTrace (env : Env) (now : Time) (h : Host) : Checked Host :=
  if env.cfg.doTrace ∧ h.lastPollTrace + env.cfg.statePollingIvalS < now then do
    let inbound ← walkInbound h.rcv.inbound.size h.rcv.inbound
    let inbound ← walkInbound inbound.size inbound
    return { h with rcv := { h.rcv with inbound }, lastPollTrace := now }
  else return h

def poll (env : Env) (now : Time) (h : Host) : Checked Host := do
  let h ← h.sendGrants env now
  let h ← h.sendData env now
  h.pollTrace env now

def startPolling (env : Env) (now : Time) (h : Host) : Checked Host :=
  if h.pollStarted then return h
  else do
    let h ← h.poll env now
    return { h with pollStarted := true }

/-- Finds or creates the state of the packet's sender, and updates its windows. -/
def updateSenderState (env : Env) (p : Packet) (stamp : Stamp) (h : Host) : Checked Host := do
  let st := (h.rcv.senderState.find p.src).getD (.new p.src env.cfg.maxSrpb)
  let st ← st.update env.cfg p stamp
  return { h with rcv := { h.rcv with senderState := h.rcv.senderState.insert p.src st } }

def updateReceiverState (p : Packet) (h : Host) : Host := { h with snd := h.snd.findOrCreate p.src }

/-- R2p2::recv, for the packets that the transport passes up. -/
def r2p2Recv (env : Env) (p : Packet) (h : Host) : Checked Host := do
  let rpc ←
    match p.hdr.msgType with
    | .request => h.rpc.handleRequestPkt env.cfg h.thisAddr p.hdr p.payload
    | .reply => h.rpc.handleReplyPkt env.cfg h.thisAddr p.hdr p.payload
    | _ => pure h.rpc
  return { h with rpc }

def receivedData (env : Env) (p : Packet) (id : UniqReqId) (h : Host) : Checked Host := do
  assert .receivedData "srch != sender_state_.end()" (p.src ∈ h.rcv.senderState.keys)
  let rcv := h.rcv.modifyMsg id fun m => { m with dataBytesReceived := m.dataBytesReceived + p.payload }
  -- a short packet was paid for with its padding
  let replenished :=
    max (p.payload + r2p2AllHeadersSize + interPktGapSize + ethernetPreambleSize) minEthernetFrameOnWire
  if env.cfg.accountUnsched = false then
    throw (.thrown .receivedData "Not accounting for unscheduled bytes in B and sender buckets")
  let rcv := rcv.replenish p.src replenished
  assert .receivedData "stats->credit_replenished_ <= stats->credit_granted_" (rcv.creditReplenished ≤
    rcv.creditGranted)
  assert .receivedData "payload_rec > 0" (0 < p.payload)
  assert .receivedData "budget_bytes_ <= max_budget_bytes_" (rcv.budgetBytes ≤ env.cfg.budgetBytes)
  let m := rcv.msg id
  assert .receivedData "msg_state->data_bytes_received_ <= msg_state->data_bytes_expected_"
    (m.receivedMsgInfo = true → m.dataBytesReceived ≤ m.dataBytesExpected)
  if m.dataBytesReceived = m.dataBytesExpected ∧ m.dataBytesGranted = m.dataBytesExpected then
    assert .receivedData "msg_state->received_msg_info_" (m.receivedMsgInfo = true)
    let rcv ← rcv.removeInbound id
    return { h with rcv }
  else return { h with rcv }

/-- A packet that names the size of its message, and the credit its sender took for it. -/
def noteMsgInfo (env : Env) (p : Packet) (id : UniqReqId) (h : Host) : Checked Host := do
  let hdr := p.hdr
  assert .recv "r2p2_hdr->credit() == 0" (hdr.credit = 0)
  assert .recv "msg_type() == GRANT_REQ || msg_type() == REQUEST" (hdr.msgType = .grantReq ∨ hdr.msgType = .request)
  assert .recv "stats->credit_data_request_rcvd_ >= stats->credit_data_granted_"
    (h.rcv.creditDataGranted ≤ h.rcv.creditDataRequestRcvd)
  let rcv := h.rcv.modifyMsg id fun m => { m with dataBytesExpected := hdr.creditReq, receivedMsgInfo := true }
  let rcv := { rcv with creditDataRequestRcvd := rcv.creditDataRequestRcvd + hdr.creditReq }
  let m := rcv.msg id
  -- what the sender took for itself counts as granted
  if 0 < hdr.unsolCredit then
    assert .recv "msg_state->data_bytes_received_ == 0" (m.dataBytesReceived = 0)
    assert .recv "unsolicited_thresh_bytes_ != 0" (env.cfg.unsolicitedThreshBytes ≠ 0)
    if m.remoteAddr ∉ rcv.senderState.keys then throw (.thrown .recv "Unsolicited msg. Did not find state for sender")
    if env.cfg.accountUnsched = false then
      throw (.thrown .recv "Not accounting for unscheduled bytes in B and sender buckets")
    let rcv := rcv.modifyMsg id fun m => { m with dataBytesGranted := hdr.unsolCreditData.toNat }
    return { h with rcv := rcv.debit m.remoteAddr hdr.unsolCredit }
  else return { h with rcv }

/-- The state of the packet's message, created with its first packet. -/
def findOrAddInbound (env : Env) (p : Packet) (h : Host) : Checked Host :=
  let id := p.uniqReqId
  let hdr := p.hdr
  match h.rcv.findInbound id with
  | none => do
    if 0 < hdr.creditReq then
      assert .recv "msg_type() == GRANT_REQ || msg_type() == REQUEST" (hdr.msgType = .grantReq ∨ hdr.msgType = .request)
    else assert .recv "msg_type() == REQUEST || msg_type() == REPLY" (hdr.msgType = .request ∨ hdr.msgType = .reply)
    let m : InboundMsgState := { reqId := id, remoteAddr := p.src, firstHeader := hdr }
    return { h with rcv := { h.rcv with
      inboundObjs := h.rcv.inboundObjs.insert id m
      inbound := h.rcv.inbound.append id } }
  | some m => do
    assert .recv "unsolicited_thresh_bytes_ == -1 ? msg_state->received_msg_info_ : true"
      (env.cfg.unsolicitedThreshBytes = -1 → m.receivedMsgInfo = true)
    return h

/-- R2p2CCHybrid::recv behind its first checks. -/
def dispatch (env : Env) (p : Packet) (h : Host) : Checked Host := do
  let hdr := p.hdr
  let singlePktReply ←
    if hdr.msgType = .reply then
      match hdr.isSinglePacketMsg with
      | some single => pure single
      | none => throw (.thrown .isSinglePacketMsg "Cannot determine whether the message is single-packet")
    else pure false
  -- such a reply goes up past all accounting
  if singlePktReply then
    assert .recv "r2p2_hdr->credit() == 0" (hdr.credit = 0)
    h.r2p2Recv env p
  -- whatever carries credit has to be a GRANT
  else if 0 < hdr.credit then
    assert .recv "r2p2_hdr->credit_req() == 0" (hdr.creditReq = 0)
    assert .recv "r2p2_hdr->msg_type() == GRANT" (hdr.msgType = .grant)
    let snd ← h.snd.receivedCredit p
    return { h with snd }
  else
    let id := p.uniqReqId
    let h ← h.findOrAddInbound env p
    -- the first packet that names the size of its message
    if 0 < hdr.creditReq ∧ (h.rcv.msg id).receivedMsgInfo = false then
      let h ← h.noteMsgInfo env p id
      if hdr.msgType = .grantReq then
        assert .recv "msg_state->data_bytes_granted_ == 0" ((h.rcv.msg id).dataBytesGranted = 0)
        return h
      else
        assert .recv "msg_state->data_bytes_granted_ > 0" (0 < (h.rcv.msg id).dataBytesGranted)
        let h ← h.receivedData env p id
        h.r2p2Recv env p
    else
      assert .recv "is_data_pkt" (hdr.msgType = .request ∨ hdr.msgType = .reply)
      assert .recv "r2p2_hdr->credit() == 0" (hdr.credit = 0)
      let h ← h.receivedData env p id
      h.r2p2Recv env p

/-- The checks of R2p2Agent::recv and the first ones of R2p2CCHybrid::recv. -/
def checkSize (p : Packet) : Checked PUnit := do
  assert .agentRecv "size <= MAX_ETHERNET_FRAME_ON_WIRE" (p.size ≤ maxEthernetFrameOnWire)
  assert .agentRecv "size >= MIN_ETHERNET_FRAME_ON_WIRE" (minEthernetFrameOnWire ≤ p.size)
  assert .agentRecv "padding < MIN_R2P2_PAYLOAD" (p.padding < minR2p2Payload)

/-- A packet arrives: R2p2Agent::recv, then R2p2CCHybrid::recv. -/
def recv (env : Env) (now : Time) (p : Packet) (stamp : Stamp) (h : Host) : Checked Host := do
  checkSize p
  let h ← h.startPolling env now
  let pktSize := p.payload + r2p2AllHeadersSize + p.padding
  assert .recv "pkt_size >= MIN_ETHERNET_FRAME" (minEthernetFrame ≤ pktSize)
  assert .recv "pkt_size <= MAX_ETHERNET_FRAME" (pktSize ≤ maxEthernetFrame)
  let h := { h with rcvd := h.rcvd ++ [p] }
  let h ← h.updateSenderState env p stamp
  (h.updateReceiverState p).dispatch env p

/-- What send_to_transport does with a message that does not come back up. -/
def sendToTransportDown (env : Env) (now : Time) (hdr : Hdr) (payload : ℕ) (daddr : Addr) (h : Host) :
    Checked Host := do
  let h ← h.startPolling env now
  match hdr.msgType, hdr.isSinglePacketMsg with
  | .request, some single =>
    if ¬(single || hdr.isFromMultipktReqNotReq0) then
      throw (.thrown .sendToTransport "CC layer was asked to send unknown message type")
    -- a longer request is there since its REQ0
    let snd := if single then h.snd.prepMsgSend hdr payload daddr else h.snd
    let snd ← snd.sendingRequest hdr payload
    return { h with snd }
  | .reply, some _ =>
    let snd ← h.snd.sendingReply hdr payload daddr
    return { h with snd }
  | .reqrdy, _ => throw (.thrown .sendToTransport "Hybrid protocol never sends reqrdys")
  | _, _ => throw (.thrown .sendToTransport "CC layer was asked to send unknown message type")

/-- R2p2Client::handle_req_rdy: the rest of a request goes to the transport. -/
def handleReqRdy (env : Env) (now : Time) (hdr : Hdr) (h : Host) : Checked Host :=
  match h.rpc.pendingReqs.find (hdr.clThreadId, hdr.reqId) with
  | none => throw (.thrown .handleReqRdy "no such request")
  | some state =>
    h.sendToTransportDown env now
      { hdr with msgType := .request, pktId := 1, first := false, msgCreationTime := state.msgCreationTime }
      state.reqBytesLeft hdr.srAddr

/-- Bypasses the req0 mechanism: the client is told at once to hand down the rest. -/
def shortingReq0 (env : Env) (now : Time) (hdr : Hdr) (payload : ℕ) (h : Host) : Checked Host := do
  assert .shortingReq0 "r2p2_hdr.pkt_id() >= 1" (1 ≤ hdr.pktId)
  assert .shortingReq0 "payload == 14" (payload = 14)
  h.handleReqRdy env now { hdr with msgType := .reqrdy, first := false, last := false }

def sendToTransport (env : Env) (now : Time) (hdr : Hdr) (payload : ℕ) (daddr : Addr) (h : Host) :
    Checked Host :=
  if hdr.isReq0OfMultipkt then do
    let h ← h.startPolling env now
    { h with snd := h.snd.prepMsgSend hdr payload daddr }.shortingReq0 env now hdr payload
  else h.sendToTransportDown env now hdr payload daddr

/-- The number of packets that send_req puts into the header of a request. -/
def reqNumPkts (payload : ℕ) : ℕ :=
  let numPkts := payload / maxR2p2Payload + if 0 < payload % maxR2p2Payload then 1 else 0
  if numPkts = 1 then 0
  else
    let reqnPayload := payload - req0MsgSize
    reqnPayload / maxR2p2Payload + if 0 < reqnPayload % maxR2p2Payload then 1 else 0

def singlePktRpc (payload : ℕ) : Bool :=
  payload / maxR2p2Payload + (if 0 < payload % maxR2p2Payload then 1 else 0) == 1

/-- R2p2Client::send_req. -/
def sendReq (env : Env) (now : Time) (payload : ℕ) (tuple : RequestIdTuple) (h : Host) : Checked Host :=
  if payload < 1 then throw (.thrown .sendReq "nbytes must be > 0")
  else
    let single := singlePktRpc payload
    let thread := tuple.clThreadId
    -- the first request of a thread has number 0
    let currentRid := (h.rpc.thrdIdToReqId thread).elim 0 (· + 1)
    let hdr : Hdr := {
      msgType := .request, first := true, last := single, reqId := currentRid, pktId := reqNumPkts payload
      clAddr := tuple.clAddr, clThreadId := thread, appLevelId := tuple.appLevelId
      srAddr := tuple.srAddr, srThreadId := tuple.srThreadId, msgCreationTime := tuple.ts }
    let state : ClientRequestState := {
      reqBytesLeft := if single then 0 else payload - req0MsgSize, msgCreationTime := tuple.ts }
    let rpc := { h.rpc with
      thrdIdToReqId := Function.update h.rpc.thrdIdToReqId thread (some currentRid)
      pendingReqs := h.rpc.pendingReqs.insert (thread, currentRid) state
      reqSent := h.rpc.reqSent ++ [(payload, { tuple with reqId := currentRid })] }
    { h with rpc }.sendToTransport env now hdr (if single then payload else req0MsgSize) tuple.srAddr

/-- R2p2Server::send_response. -/
def sendResponse (env : Env) (now : Time) (payload : ℕ) (tuple : RequestIdTuple) (h : Host) : Checked Host :=
  let numPkts := payload / maxR2p2Payload + if 0 < payload % maxR2p2Payload then 1 else 0
  let hdr : Hdr := {
    msgType := .reply, first := true, reqId := tuple.reqId, pktId := numPkts
    clAddr := tuple.clAddr, srAddr := tuple.srAddr, clThreadId := tuple.clThreadId, srThreadId := tuple.srThreadId
    appLevelId := tuple.appLevelId, msgCreationTime := now }
  match h.rpc.pendingRequests.find tuple.uniqReqId with
  | none => throw (.undefined .sendResponse "no state for the request")
  | some state =>
    let rpc := { h.rpc with
      pendingRequests := h.rpc.pendingRequests.insert tuple.uniqReqId { state with replySent := true }
      respSent := h.rpc.respSent ++ [(payload, { tuple with ts := now })] }
    { h with rpc }.sendToTransport env now hdr payload tuple.clAddr

/-- R2p2Application::send_response for the oldest request of a thread, with a
response of so many bytes. -/
def appSendResponse (env : Env) (now : Time) (thread : ℤ) (payload : ℕ) (h : Host) : Checked Host :=
  match h.rpc.pendingTasks thread with
  | [] => throw (.undefined .sendResponse "pending_tasks_.front()")
  | tuple :: rest => do
    let h ← h.sendResponse env now payload tuple
    return { h with rpc := { h.rpc with pendingTasks := Function.update h.rpc.pendingTasks thread rest } }

end Host

end PhantomPass
