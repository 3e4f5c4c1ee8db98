import PhantomPass.Hybrid.Support

/-! The RPC layer: R2p2Client and R2p2Server count the packets of a message and
hand the complete message to the application. -/

set_option autoImplicit false

namespace PhantomPass

namespace Hdr

def requestIdTuple (hdr : Hdr) : RequestIdTuple where
  reqId := hdr.reqId
  appLevelId := hdr.appLevelId
  clAddr := hdr.clAddr
  srAddr := hdr.srAddr
  clThreadId := hdr.clThreadId
  srThreadId := hdr.srThreadId
  ts := hdr.msgCreationTime

end Hdr

namespace Rpc

/-- R2p2Application::req_recv: the request waits for its turn to be answered. -/
def reqRecv (size : ℕ) (tuple : RequestIdTuple) (rpc : Rpc) : Checked Rpc := do
  assert .reqRecv "msg_created_at > 9.9" (99 / 10 < tuple.ts)
  return { rpc with
    pendingTasks := Function.update rpc.pendingTasks tuple.srThreadId (rpc.pendingTasks tuple.srThreadId ++ [tuple])
    reqRecvd := rpc.reqRecvd ++ [(size, tuple)] }

/-- R2p2::send_to_application. -/
def sendToApplication (cfg : Config) (thisAddr : Addr) (hdr : Hdr) (size : ℕ) (rpc : Rpc) : Checked Rpc :=
  match hdr.msgType with
  | .request =>
    if cfg.attached thisAddr hdr.srThreadId then rpc.reqRecv size hdr.requestIdTuple
    else throw (.thrown .sendToApplication "Did not find a server with thread id")
  | .reply =>
    if cfg.attached thisAddr hdr.clThreadId then
      return { rpc with reqSuccesses := rpc.reqSuccesses ++ [(size, hdr.requestIdTuple)] }
    else throw (.thrown .sendToApplication "Did not find a client with thread id")
  | _ => return rpc

/-- R2p2Server::handle_request_pkt: pkt_id of the first packet is the number of
packets behind it, and the first packet need not arrive first. -/
def handleRequestPkt (cfg : Config) (thisAddr : Addr) (hdr : Hdr) (payload : ℕ) (rpc : Rpc) : Checked Rpc := do
  let id := hdr.uniqReqId
  match rpc.pendingRequests.find id with
  | none =>
    let state : ServerRequestState := {
      reqPktsExpected := if hdr.first then hdr.pktId + 1 else -1, reqPktsReceived := 1, reqBytesReceived := payload }
    -- a request of one packet goes up before there is a state for it
    let rpc ←
      if hdr.first ∧ hdr.pktId + 1 = 1 then rpc.sendToApplication cfg thisAddr hdr payload else pure rpc
    let rpc := { rpc with pendingRequests := rpc.pendingRequests.insert id state }
    if hdr.first ∧ hdr.pktId + 1 = 1 then return rpc
    else if state.reqPktsExpected ≠ -1 ∧ state.reqPktsExpected = state.reqPktsReceived then
      rpc.sendToApplication cfg thisAddr hdr state.reqBytesReceived
    else return rpc
  | some state =>
    if hdr.first then assert .handleRequestPkt "req_state->req_pkts_expected_ == -1" (state.reqPktsExpected = -1)
    let state := { state with
      reqPktsExpected := if hdr.first then hdr.pktId + 1 else state.reqPktsExpected
      reqPktsReceived := state.reqPktsReceived + 1
      reqBytesReceived := state.reqBytesReceived + payload }
    let rpc := { rpc with pendingRequests := rpc.pendingRequests.insert id state }
    if state.reqPktsExpected ≠ -1 ∧ state.reqPktsExpected = state.reqPktsReceived then
      rpc.sendToApplication cfg thisAddr hdr state.reqBytesReceived
    else return rpc

/-- R2p2Client::handle_reply_pkt: pkt_id of the first packet counts all packets. -/
def handleReplyPkt (cfg : Config) (thisAddr : Addr) (hdr : Hdr) (payload : ℕ) (rpc : Rpc) : Checked Rpc :=
  let key := (hdr.clThreadId, hdr.reqId)
  match rpc.pendingReqs.find key with
  | none => throw (.thrown .handleReplyPkt "Received a reply for a request that was never sent?")
  | some state =>
    if state.freed then throw (.undefined .handleReplyPkt "use of a deleted request state")
    else do
      let state := { state with
        replyPktsRecvd := state.replyPktsRecvd + 1
        replyPktsToRec := if hdr.first then hdr.pktId else state.replyPktsToRec
        replyBytesRecvd := state.replyBytesRecvd + payload }
      -- packets in front of the first() one do not complete the reply
      let isOoo := !hdr.first && state.replyPktsToRec == 0
      if isOoo = false ∧ state.replyPktsRecvd = state.replyPktsToRec then
        let rpc ← rpc.sendToApplication cfg thisAddr hdr state.replyBytesRecvd
        return { rpc with pendingReqs := rpc.pendingReqs.insert key { state with freed := true } }
      else return { rpc with pendingReqs := rpc.pendingReqs.insert key state }

/-- R2p2Server::garbage_collect_state: a request that was answered goes with the second collection. -/
def garbageCollectState (rpc : Rpc) : Rpc :=
  { rpc with pendingRequests :=
      (rpc.pendingRequests.filter fun _ state => !(state.replySent && state.oldState)).map fun state =>
        if state.replySent then { state with oldState := true } else state }

end Rpc

end PhantomPass
