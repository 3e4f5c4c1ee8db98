import PhantomPass.Hybrid.Transport

/-! The sender of the hybrid transport: messages enter, GRANTs arrive, and every
poll announces messages and sends at most one data packet. -/

set_option autoImplicit false

namespace PhantomPass

open Lib (RoundRobin)

namespace OutboundMsgState

variable (m : OutboundMsgState)

def nextPayload : ℕ := if m.unsentBytes ≤ maxR2p2Payload then m.unsentBytes else maxR2p2Payload

def afterPacket : OutboundMsgState :=
  { m with
    seq := if m.isRequest then m.seq + m.nextPayload else m.seq
    r2p2Hdr := if m.sentFirst then m.r2p2Hdr else { m.r2p2Hdr with first := false }
    sentFirst := true
    -- every packet of such a message counts, one for which there was a GRANT too
    remainingSelfAllocCreditData :=
      if m.isScheduled then m.remainingSelfAllocCreditData else m.remainingSelfAllocCreditData - m.nextPayload
    sentAnouncement := m.sentAnouncement || !m.isScheduled
    unsentBytes := m.unsentBytes - m.nextPayload }

/-- The message once it has credited itself; all of it when it is small. -/
def credited (cfg : Config) (bytes dataBytes : ℤ) : OutboundMsgState :=
  { m with
    r2p2Hdr := if addHeaderOverhead m.totalBytes ≤ cfg.maxSrpb then { m.r2p2Hdr with hasScheduledPart := false }
      else m.r2p2Hdr
    selfAllocCredit := bytes
    selfAllocCreditData := dataBytes
    remainingSelfAllocCreditData := dataBytes
    usnsolCheckDone := true
    isScheduled := false }

/-- The header of the next packet. Every packet of a message that does not send
a separate credit request announces the message and its unsolicited credit. -/
def packetHdr (cfg : Config) (ps : PolicyState) : Hdr :=
  { m.r2p2Hdr with
    msgCreationTime := m.msgCreationTime
    msgType := if m.isRequest then .request else .reply
    -- only requests number their bytes
    seq := if m.isRequest then m.seq + m.nextPayload else 0
    credit := 0
    creditReq := if m.isScheduled then 0 else m.totalBytes
    first := !m.sentFirst
    unsolCredit := if m.isScheduled then m.r2p2Hdr.unsolCredit else m.selfAllocCredit
    unsolCreditData := if m.isScheduled then m.r2p2Hdr.unsolCreditData else m.selfAllocCreditData
    usedUnsolCredit :=
      if m.isScheduled then m.r2p2Hdr.usedUnsolCredit
      else decide (0 ≤ m.remainingSelfAllocCreditData - (m.nextPayload : ℤ))
    priorityFlow := cfg.priorityFlow && ps.priorityFlow
    bwRatio := ps.quantum
    isUnsolPkt := cfg.dataPrio &&
      decide ((m.totalBytes : ℤ) - (m.unsentBytes - m.nextPayload : ℕ) ≤ m.selfAllocCreditData) }

def grantReqHdr : Hdr :=
  { m.r2p2Hdr with
    msgType := .grantReq, seq := 0, credit := 0, creditReq := m.totalBytes
    msgCreationTime := m.msgCreationTime, unsolCredit := 0, unsolCreditData := 0 }

end OutboundMsgState

namespace Sender

/-- prep_msg_send: a request enters with the bytes known so far. -/
def prepMsgSend (hdr : Hdr) (payload : ℕ) (daddr : Addr) (s : Sender) : Sender :=
  let s := s.findOrCreate daddr
  let m : OutboundMsgState := {
    reqId := hdr.uniqReqId, remoteAddr := daddr, r2p2Hdr := hdr, unsentBytes := payload, totalBytes := payload
    isRequest := true, msgCreationTime := hdr.msgCreationTime }
  { s with
    outbound := s.outbound.insert hdr.uniqReqId m
    outboundInactive := s.outboundInactive.append hdr.uniqReqId }

/-- OutboundMsgs::find on the inactive messages. -/
def findInactive (id : UniqReqId) (s : Sender) : Option OutboundMsgState :=
  if id ∈ s.outboundInactive.msgs then some (s.msg id) else none

/-- sending_request: the rest of a multi-packet request joins its first bytes. -/
def sendingRequest (hdr : Hdr) (payload : ℕ) (s : Sender) : Checked Sender := do
  let id := hdr.uniqReqId
  match s.findInactive id, hdr.isSinglePacketMsg with
  | none, _ => throw (.assertion .sendingRequest "msg_state != nullptr")
  | some _, none => throw (.thrown .isSinglePacketMsg "Cannot determine whether the message is single-packet")
  | some m, some single =>
    -- 14 bytes are the REQ0, which the rest of the request joins
    let more := if m.unsentBytes = 14 ∧ (!single && hdr.msgType == .request) then payload else 0
    let total := m.totalBytes + more
    let pktCount := total / maxR2p2Payload + if 0 < total % maxR2p2Payload then 1 else 0
    assert .sendingRequest "pkt_count > 0" (0 < pktCount)
    if ¬(hdr.msgType == .request && single) then
      assert .sendingRequest "msg_state->unsent_bytes_ == payload + 14" (m.unsentBytes + more = payload + 14)
    -- pkt_id counts the packets behind the first
    return s.modifyMsg id fun m => { m with
      unsentBytes := m.unsentBytes + more
      totalBytes := total
      r2p2Hdr := { m.r2p2Hdr with pktId := ((pktCount - 1 : ℕ) : ℤ) } }

def sendingReply (hdr : Hdr) (payload : ℕ) (daddr : Addr) (s : Sender) : Checked Sender := do
  let id := hdr.uniqReqId
  if daddr ∉ s.remotes.keys then
    throw (.thrown .sendingReply "sending_reply() Cannot find state for receiver")
  assert .sendingReply "msg_state == nullptr" (id ∉ s.outboundInactive.msgs)
  let m : OutboundMsgState := {
    reqId := id, remoteAddr := daddr, r2p2Hdr := hdr, totalBytes := payload, unsentBytes := payload
    isRequest := false, msgCreationTime := hdr.msgCreationTime }
  return { s with outbound := s.outbound.insert id m, outboundInactive := s.outboundInactive.append id }

/-- A message becomes active and joins the queue of its receiver. -/
def enqueue (id : UniqReqId) (inactive : RoundRobin UniqReqId) (s : Sender) : Sender :=
  { (s.modifyMsg id fun m => { m with active := true }).modifyRcvr (s.msg id).remoteAddr fun rs =>
      { rs with outMsgs := rs.outMsgs.append id } with
    outboundInactive := inactive }

/-- Takes a message out of the inactive ones and queues it to its receiver. -/
def moveToReceiver (id : UniqReqId) (s : Sender) : Checked Sender :=
  match s.outboundInactive.remove id with
  | none => throw (.thrown .outboundRemove "Can't find_pos() of msg")
  | some inactive => return s.enqueue id inactive

/-- ReceiverState::find_outbound_msg. -/
def findQueued (addr : Addr) (id : UniqReqId) (s : Sender) : Option OutboundMsgState :=
  if id ∈ (s.rcvr addr).outMsgs.msgs then some (s.msg id) else none

/-- Receivers::find_outbound_msg. The message that a receiver finds is not kept;
an unknown receiver is logged. -/
def findOutboundMsg (receiver : Addr) (id : UniqReqId) (s : Sender) : Option OutboundMsgState :=
  let msg := none
  if receiver ∈ s.remotes.keys then
    let _found := s.findQueued receiver id
    msg
  else msg

/-- Where received_credit looks for the message of a GRANT. -/
def findCredited (receiver : Addr) (id : UniqReqId) (s : Sender) : Option OutboundMsgState :=
  match s.findOutboundMsg receiver id with
  | some m => some m
  | none => s.findInactive id

/-- The part of received_credit that looks for the message. -/
def activateCredited (receiver : Addr) (id : UniqReqId) (s : Sender) : Checked Sender :=
  match s.findOutboundMsg receiver id with
  | some m => do
    assert .receivedCredit "outbound_inactive_->find(req_id) == nullptr" (s.findInactive id = none)
    assert .receivedCredit "msg_state->active_" (m.active = true)
    return s
  | none =>
    match s.findInactive id with
    | none => return s
    | some m => do
      assert .receivedCredit "!msg_state->active_" (m.active = false)
      s.moveToReceiver id

theorem findOutboundMsg_eq (s : Sender) (receiver : Addr) (id : UniqReqId) : s.findOutboundMsg receiver id = none := by
  unfold findOutboundMsg
  split <;> rfl

/-- Receivers::find_outbound_msg discards what it finds, so that only the inactive messages are searched. -/
theorem activateCredited_eq (s : Sender) (receiver : Addr) (id : UniqReqId) : s.activateCredited receiver id =
    match s.findInactive id with
    | none => return s
    | some m => assert .receivedCredit "!msg_state->active_" (m.active = false) >>= fun _ => s.moveToReceiver id := by
  unfold activateCredited
  rw [findOutboundMsg_eq]

def addCredit (addr : Addr) (credit data : ℤ) (s : Sender) : Sender :=
  s.modifyRcvr addr fun rs => { rs with
    availCreditBytes := rs.availCreditBytes + credit
    availCreditDataBytes := rs.availCreditDataBytes + data }

def receivedCredit (p : Packet) (s : Sender) : Checked Sender := do
  let credit := p.hdr.credit
  let credits := credit - (r2p2AllHeadersSize + interPktGapSize + ethernetPreambleSize + p.hdr.creditPad)
  assert .receivedCredit "credit_amount_bytes <= MAX_ETHERNET_FRAME_ON_WIRE" (credit ≤ maxEthernetFrameOnWire)
  assert .receivedCredit
    "credit_amount_bytes >= 1 + R2P2_ALL_HEADERS_SIZE + INTER_PKT_GAP_SIZE + ETHERNET_PREAMBLE_SIZE"
    (1 + r2p2AllHeadersSize + interPktGapSize + ethernetPreambleSize ≤ credit)
  -- a GRANT for an inactive message activates it
  let s ← s.activateCredited p.src p.uniqReqId
  assert .receivedCredit "rcvr_state != nullptr" (p.src ∈ s.remotes.keys)
  assert .receivedCredit "rcvr_state->avail_credit_bytes_ >= 0" (0 ≤ (s.rcvr p.src).availCreditBytes)
  let s := s.addCredit p.src credit credits
  assert .receivedCredit "stats->credit_used_ <= stats->credit_received_" (s.creditUsed ≤ s.creditReceived + credit)
  assert .receivedCredit "r2p2_hdr->credit_pad() < MIN_R2P2_PAYLOAD" (p.hdr.creditPad < minR2p2Payload)
  assert .receivedCredit "r2p2_hdr->credit_pad() >= 0" (0 ≤ p.hdr.creditPad)
  assert .receivedCredit "stats->credit_data_requested_ >= stats->credit_data_received_"
    (s.creditDataReceived + credits ≤ s.creditDataRequested)
  return { s with creditReceived := s.creditReceived + credit, creditDataReceived := s.creditDataReceived + credits }

/-- How much a message credits itself: headers included, and data alone. -/
def selfAllocation (cfg : Config) (totalBytes : ℕ) (availCreditBytes : ℤ) : ℤ × ℤ :=
  let fits := addHeaderOverhead totalBytes ≤ cfg.maxSrpb
  let (bytes, dataBytes) : ℤ × ℤ :=
    if fits then (addHeaderOverhead totalBytes, (totalBytes : ℤ))
    else (addHeaderOverhead (removeHeaderOverhead cfg.maxSrpb) true, removeHeaderOverhead cfg.maxSrpb)
  -- one bandwidth-delay product of credit at most waits for each receiver
  let backlogSpace := max (cfg.maxSrpb - availCreditBytes) maxEthernetFrameOnWire
  if backlogSpace < bytes then
    (addHeaderOverhead (removeHeaderOverhead backlogSpace) true, removeHeaderOverhead backlogSpace)
  else (bytes, dataBytes)

def unsolicited (cfg : Config) (totalBytes : ℕ) : Prop :=
  cfg.unsolicitedThreshBytes = -1 ∨ addHeaderOverhead totalBytes ≤ cfg.unsolicitedThreshBytes

instance (cfg : Config) (totalBytes : ℕ) : Decidable (unsolicited cfg totalBytes) :=
  inferInstanceAs (Decidable (_ ∨ _))

def takeCredit (cfg : Config) (id : UniqReqId) (bytes dataBytes : ℤ) (s : Sender) : Sender :=
  { (s.addCredit (s.msg id).remoteAddr bytes dataBytes).modifyMsg id (·.credited cfg bytes dataBytes) with
    creditReceived := s.creditReceived + bytes }

/-- The body of the first loop of send_data: unsolicited data credits itself. -/
def selfCredit (cfg : Config) (id : UniqReqId) (s : Sender) : Checked Sender := do
  let m := s.msg id
  if unsolicited cfg m.totalBytes ∧ m.usnsolCheckDone = false then
    let avail := (s.rcvr m.remoteAddr).availCreditBytes
    let alloc := selfAllocation cfg m.totalBytes avail
    assert .sendData "to_grant_bytes > 0" (0 < alloc.1)
    assert .sendData "avail_credit_bytes_ >= 0" (0 ≤ avail)
    -- the smallest message still takes a whole frame
    return s.takeCredit cfg id (max alloc.1 minEthernetFrameOnWire) alloc.2
  else return s

def selfCreditLoop (cfg : Config) : ℕ → Sender → Checked Sender
  | 0, s => return s
  | turns + 1, s =>
    match s.outboundInactive.next with
    | none => throw (.thrown .outboundNext "there is no next() because the array is empty")
    | some (id, inactive) => do
      let s ← selfCredit cfg id { s with outboundInactive := inactive }
      selfCreditLoop cfg turns s

end Sender

namespace Host

def sendGrantReq (env : Env) (id : UniqReqId) (h : Host) : Checked Host := do
  let m := h.snd.msg id
  assert .sendData "unsolicited_thresh_bytes_ != -1" (env.cfg.unsolicitedThreshBytes ≠ -1)
  let h ← h.forwardToTransport env m.grantReqHdr grantReqMsgSize m.remoteAddr
  let requested := h.snd.creditDataRequested + m.totalBytes
  assert .sendData "stats->credit_data_requested_ >= stats->credit_data_received_"
    (h.snd.creditDataReceived ≤ requested)
  return { h with
    dataPacerBacklog := h.dataPacerBacklog +
      (grantReqMsgSize + r2p2AllHeadersSize + interPktGapSize + ethernetPreambleSize : ℕ)
    snd := { h.snd.modifyMsg id fun m => { m with sentAnouncement := true } with creditDataRequested := requested } }

/-- The body of the second loop of send_data. -/
def activate (env : Env) (id : UniqReqId) (h : Host) : Checked Host := do
  let m := h.snd.msg id
  if m.sentAnouncement then return h
  else
    assert .sendData "msg_state->total_bytes_ == msg_state->unsent_bytes_" (m.totalBytes = m.unsentBytes)
    let h ← if m.isScheduled then h.sendGrantReq env id else pure h
    let snd ← h.snd.moveToReceiver id
    return { h with snd }

def activateLoop (env : Env) : ℕ → Host → Checked Host
  | 0, h => return h
  | turns + 1, h =>
    match h.snd.outboundInactive.next with
    | none => throw (.thrown .outboundNext "there is no next() because the array is empty")
    | some (id, inactive) => do
      let h ← { h with snd := { h.snd with outboundInactive := inactive } }.activate env id
      activateLoop env turns h

/-- A first packet leaves a message that is all there, a later one a message that is announced. -/
def checkTurn (m : OutboundMsgState) : Checked PUnit :=
  if m.sentFirst then do
    assert .sendData "msg_state->total_bytes_ >= msg_state->unsent_bytes_" (m.unsentBytes ≤ m.totalBytes)
    assert .sendData "msg_state->sent_anouncement_" (m.sentAnouncement = true)
  else assert .sendData "msg_state->total_bytes_ == msg_state->unsent_bytes_" (m.totalBytes = m.unsentBytes)

/-- The data requested, with the message when this packet announces it. -/
def requestedWith (m : OutboundMsgState) (h : Host) : ℤ :=
  if m.isScheduled = false ∧ m.sentAnouncement = false then h.snd.creditDataRequested + m.totalBytes
  else h.snd.creditDataRequested

/-- What send_data asserts before a packet of a message goes. -/
def checkTransmit (env : Env) (ps : PolicyState) (m : OutboundMsgState) (h : Host) : Checked PUnit := do
  let toSend := nextPktBytes m.unsentBytes
  let avail := (h.snd.rcvr m.remoteAddr).availCreditBytes
  -- credit_avail is unsigned: a debt would pass for a great deal
  assert .sendData "credit_avail >= to_send" (toSend ≤ toUInt64 avail)
  assert .sendData "to_send >= ps->want_to_send_bytes_" (ps.wantToSendBytes ≤ toSend)
  assert .sendData "msg_state->unsent_bytes_ > 0" (0 < m.unsentBytes)
  assert .sendData "msg_state->total_bytes_ > 0" (0 < m.totalBytes)
  assert .sendData "msg_state->active_" (m.active = true)
  checkTurn m
  assert .sendData "stats->credit_data_requested_ >= stats->credit_data_received_"
    (m.isScheduled = false ∧ m.sentAnouncement = false → h.snd.creditDataReceived ≤ requestedWith m h)
  assert .sendData
    "avail_credit_bytes_ >= (int)(payload + R2P2_ALL_HEADERS_SIZE + INTER_PKT_GAP_SIZE + ETHERNET_PREAMBLE_SIZE)"
    ((m.nextPayload + r2p2AllHeadersSize + interPktGapSize + ethernetPreambleSize : ℕ) ≤ avail)
  assert .sendData "avail_credit_bytes_ >= 0" (0 ≤ avail - toSend)
  assert .sendData "pace_grants_" (env.cfg.paceGrants = true)

def spend (id : UniqReqId) (h : Host) : Host :=
  let m := h.snd.msg id
  let toSend := nextPktBytes m.unsentBytes
  let snd := (h.snd.modifyMsg id OutboundMsgState.afterPacket).modifyRcvr m.remoteAddr fun rs => { rs with
    availCreditBytes := rs.availCreditBytes - toSend
    availCreditDataBytes := rs.availCreditDataBytes - m.nextPayload }
  { h with
    dataPacerBacklog := h.dataPacerBacklog + toSend
    snd := { snd with creditDataRequested := requestedWith m h, creditUsed := snd.creditUsed + toSend } }

def dropSent (id : UniqReqId) (addr : Addr) (h : Host) : Checked Host :=
  match (h.snd.rcvr addr).outMsgs.remove id with
  | none => throw (.thrown .outboundRemove "Can't find_pos() of msg")
  | some outMsgs => return { h with snd := h.snd.modifyRcvr addr fun rs => { rs with outMsgs } }

/-- The counters of data packets by the order of their message are left out; the order is computed. -/
def traceData (env : Env) (id : UniqReqId) (h : Host) : Checked PUnit :=
  if env.cfg.doTrace then do
    let _ ← h.snd.getMsgSrptOrder env.plat id
    return ⟨⟩
  else return ⟨⟩

theorem traceData_eq {env : Env} {h : Host} {addr : Addr} (id : UniqReqId) (known : addr ∈ h.snd.remotes.keys)
    (some_msg : (h.snd.rcvr addr).outMsgs.msgs ≠ []) : h.traceData env id = .ok ⟨⟩ := by
  have counts : ((env.plat.walk h.snd.remotes.keys).flatMap fun addr => (h.snd.rcvr addr).outMsgs.msgs).length ≠ 0 := by
    intro none
    have all := List.flatMap_eq_nil_iff.mp (List.length_eq_zero_iff.mp none)
    exact some_msg (all addr ((env.plat.walk_perm _).mem_iff.mpr known))
  unfold traceData Sender.getMsgSrptOrder Sender.msgOrderSize
  rw [if_neg counts]
  split <;> rfl

/-- The end of send_data: one packet of the message that a receiver's policy state names. -/
def transmit (env : Env) (ps : PolicyState) (id : UniqReqId) (h : Host) : Checked Host := do
  let m := h.snd.msg id
  h.checkTransmit env ps m
  let h ← (h.spend id).forwardToTransport env (m.packetHdr env.cfg ps) m.nextPayload m.remoteAddr
  h.traceData env id
  -- the last packet takes the message out of the queue
  if m.unsentBytes - m.nextPayload = 0 then h.dropSent id m.remoteAddr else return h

def updateDataBacklog (env : Env) (now : Time) (h : Host) : Host :=
  -- what drains is bounded, however late the poll comes
  let interval := min (now - h.lastDataPacerUpdate) (1 / 100000)
  { h with
    dataPacerBacklog := max (h.dataPacerBacklog - truncInt (env.cfg.drained interval)) 0
    lastDataPacerUpdate := now }

/-- The two loops of send_data over the inactive messages. -/
def announce (env : Env) (h : Host) : Checked Host := do
  let snd ← Sender.selfCreditLoop env.cfg h.snd.outboundInactive.size h.snd
  { h with snd }.activateLoop env snd.outboundInactive.size

/-- The rest of send_data: at most one packet, of the message that the policy selects. -/
def sendSelected (env : Env) (h : Host) : Checked Host := do
  let snd ← h.snd.updatePolicyState env
  let (selected, snd) ← snd.selectMsgToSend env.plat
  let h := { h with snd }
  match selected with
  | none => return h
  | some addr =>
    let ps := h.snd.rcverPolicyStates addr
    match ps.msgState with
    | none => throw (.undefined .sendData "ps->msg_state_")
    | some id => h.transmit env ps id

def sendData (env : Env) (now : Time) (h : Host) : Checked Host := do
  let h := h.updateDataBacklog env now
  if h.snd.remotes.keys = [] then return h
  else
    let h ← h.announce env
    -- the pacer is more than one and a half polls behind
    if (3 / 2 : ℚ) * env.cfg.bytesDrainedPerLoop < h.dataPacerBacklog then return h
    else h.sendSelected env

end Host

end PhantomPass
