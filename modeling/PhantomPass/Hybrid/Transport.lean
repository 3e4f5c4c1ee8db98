import PhantomPass.Hybrid.Policy

/-! Handing packets to the network: forward_to_transport and the agent's
sendmsg, which splits by payload, pads, marks and stamps the queue length. -/

set_option autoImplicit false

namespace PhantomPass

/-- The bytes by which the sender marks; never with a single outbound message. -/
def Sender.getGrantedBytesQueueLen (s : Sender) : ℕ :=
  if s.numOutbound < 2 then 0 else toUInt32 s.totalAvailableCredit

def actuallyMark (cfg : Config) (currentDecision : Bool) : Checked Bool :=
  if cfg.senderAlgo = 1 then throw (.thrown .actuallyMark "Not implemented") else return currentDecision

def getOutboundVqLen (env : Env) (daddr : Addr) (s : Sender) : Checked ℕ :=
  if env.cfg.senderAlgo = 101 then throw (.thrown .getOutboundVqLen "Not implemented")
  else if env.cfg.senderAlgo = 2 then do
    let numRcv ← s.numReceiversOwingCredit (env.plat.walk s.remotes.keys)
    return if numRcv < 2 then 0 else 1
  else if env.cfg.senderAlgo = 3 then do
    assert .getOutboundVqLen "rcver_state" (daddr ∈ s.remotes.keys)
    -- nothing in the source ever sets the flag that asks for a reset
    return 1
  else return s.getGrantedBytesQueueLen

namespace Host

/-- The mark of one frame, and the bytes still counted for the marks of the next ones. -/
def markFrame (cfg : Config) (last : Bool) (hdr : Hdr) (grantedBytes : ℤ) : Checked (Bool × ℤ) :=
  if decide (cfg.ecnCapable = 1) && (hdr.msgType == .request || hdr.msgType == .reply) then do
    -- the comparison is unsigned: a negative number of bytes is a large one
    let tmpDecision := decide (cfg.ecnThreshPkts * maxR2p2Payload < toUInt32 grantedBytes)
    let decision ← actuallyMark cfg tmpDecision
    let grantedBytes := grantedBytes - maxR2p2Payload
    if last then assert .sendmsg "granted_bytes >= -(MAX_R2P2_PAYLOAD)" (-(maxR2p2Payload : ℤ) ≤ grantedBytes)
    else assert .sendmsg "granted_bytes >= -(2 * MAX_R2P2_PAYLOAD)" (-(2 * maxR2p2Payload : ℤ) ≤ grantedBytes)
    return (decision, grantedBytes)
  else return (hdr.senderMarked, grantedBytes)

/-- The frame that carries so many bytes: it is padded up to the smallest frame. -/
def frame (env : Env) (daddr : Addr) (len : ℕ) (flowid prio : ℤ) (hdr : Hdr) (senderMarked : Bool) (qlen : ℕ)
    (h : Host) : Packet :=
  let bare := len + r2p2AllHeadersSize + interPktGapSize + ethernetPreambleSize
  let size := max bare minEthernetFrameOnWire
  { hdr := { hdr with senderMarked, qlen, B := env.cfg.linkSpeedGbps }
    src := h.thisAddr, dst := daddr, size, padding := size - bare, flowid, prio
    ect := decide (env.cfg.ecnCapable = 1), seqno := h.agentSeqno daddr }

def emit (p : Packet) (h : Host) : Host :=
  { h with
    totalBytesSent := h.totalBytesSent + p.size
    agentSeqno := Function.update h.agentSeqno p.dst (h.agentSeqno p.dst + 1)
    sent := h.sent ++ [p] }

def sendFrame (env : Env) (last : Bool) (daddr : Addr) (len : ℕ) (flowid prio : ℤ) (hdr : Hdr)
    (grantedBytes : ℤ) (h : Host) : Checked (Host × ℤ) := do
  let (senderMarked, grantedBytes) ← markFrame env.cfg last hdr grantedBytes
  let bare := len + r2p2AllHeadersSize + interPktGapSize + ethernetPreambleSize
  assert .sendmsg "size() <= MAX_ETHERNET_FRAME_ON_WIRE" (max bare minEthernetFrameOnWire ≤ maxEthernetFrameOnWire)
  let qlen ← getOutboundVqLen env daddr h.snd
  return (h.emit (h.frame env daddr len flowid prio hdr senderMarked qlen), grantedBytes)

/-- The loop of sendmsg over full frames. Only the first frame is first() and requests credit. -/
def sendFullFrames (env : Env) (daddr : Addr) (flowid prio : ℤ) :
    ℕ → Hdr → ℤ → Host → Checked (Hdr × ℤ × Host)
  | 0, hdr, grantedBytes, h => return (hdr, grantedBytes, h)
  | n + 1, hdr, grantedBytes, h => do
    let (h, grantedBytes) ← h.sendFrame env false daddr maxR2p2Payload flowid prio hdr grantedBytes
    sendFullFrames env daddr flowid prio n { hdr with pktId := hdr.pktId + 1, first := false, creditReq := 0 }
      grantedBytes h

/-- R2p2Agent::sendmsg. The flow id -1 stands for the request number. -/
def sendmsg (env : Env) (nbytes : ℕ) (hdr : Hdr) (daddr : Addr) (fid prio : ℤ) (h : Host) : Checked Host := do
  assert .sendmsg "r2p2_hdr.msg_creation_time() > 0.0" (0 < hdr.msgCreationTime)
  -- nothing but data is marked
  let grantedBytes : ℤ :=
    if hdr.msgType == .request || hdr.msgType == .reply then h.snd.getGrantedBytesQueueLen else 0
  let flowid := if fid = -1 then (hdr.reqId : ℤ) else fid
  let (hdr, grantedBytes, h) ← sendFullFrames env daddr flowid prio (nbytes / maxR2p2Payload) hdr grantedBytes h
  if nbytes % maxR2p2Payload = 0 then return h
  else
    let (h, _) ← h.sendFrame env true daddr (nbytes % maxR2p2Payload) flowid prio hdr grantedBytes
    return h

/-- Control packets and unsolicited data are favoured in the network. The flow
id is the same for a message, for a micro message, or random for each packet. -/
def forwardToTransport (env : Env) (hdr : Hdr) (nbytes : ℕ) (daddr : Addr) (h : Host) : Checked Host :=
  let control := hdr.msgType == .grantReq || hdr.msgType == .reqrdy || hdr.msgType == .grant || hdr.isUnsolPkt
  let prio := if control then 0 else 7
  let fid : ℤ :=
    if env.cfg.singlePathPerMsg then -1
    else if env.cfg.paceUplink then hdr.umsgId
    else (env.plat.rand h.thisAddr daddr (h.agentSeqno daddr) % 200 : ℕ)
  h.sendmsg env nbytes hdr daddr fid prio

end Host

end PhantomPass
