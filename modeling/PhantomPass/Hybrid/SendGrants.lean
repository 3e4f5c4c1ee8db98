import PhantomPass.Hybrid.SendData

/-! The receiver of the hybrid transport: every poll grants credit to inbound
messages, in an order that depends on the policy. -/

set_option autoImplicit false

namespace PhantomPass

/-- The results of send_credit_policy_common: 0, 1, 2 and 3. -/
inductive CreditResult
  | common | fullyGranted | removed | noBudget
  deriving DecidableEq

namespace InboundMsgState

variable (m : InboundMsgState)

def creditNeededData : ℤ := min (maxR2p2Payload : ℤ) ((m.dataBytesExpected : ℤ) - m.dataBytesGranted)

def creditNeeded : ℤ :=
  max (m.creditNeededData + r2p2AllHeadersSize + interPktGapSize + ethernetPreambleSize) minEthernetFrameOnWire

def creditPadding : ℤ :=
  max 0 (minEthernetFrameOnWire - (m.creditNeededData + r2p2AllHeadersSize + interPktGapSize + ethernetPreambleSize))

end InboundMsgState

namespace Receiver

variable (r : Receiver)

def msg (id : UniqReqId) : InboundMsgState := r.inboundObjs.get id

def sender (addr : Addr) : SenderState := r.senderState.get addr

def modifyMsg (id : UniqReqId) (change : InboundMsgState → InboundMsgState) : Receiver :=
  { r with inboundObjs := r.inboundObjs.modify id change }

def modifySender (addr : Addr) (change : SenderState → SenderState) : Receiver :=
  { r with senderState := r.senderState.modify addr change }

/-- InboundMsgs::find. -/
def findInbound (id : UniqReqId) : Option InboundMsgState :=
  if id ∈ r.inbound.msgs then some (r.msg id) else none

/-- InboundMsgs::msg_order_size: how many messages that need credit have fewer bytes left. -/
def msgOrderSize (id : UniqReqId) : Checked ℕ :=
  let left := fun other => ((r.msg other).dataBytesExpected : ℤ) - (r.msg other).dataBytesReceived
  if r.inbound.size = 0 then
    throw (.thrown .inboundMsgOrderSize "msg_order_size() called on empty inbound message list")
  -- the two differences are unsigned, and of different width
  else return r.inbound.msgs.countP fun other => toUInt64 (left other) < toUInt32 (left id) ∧
    (r.msg other).dataBytesExpected ≠ (r.msg other).dataBytesGranted

/-- InboundMsgs::remove. -/
def removeInbound (id : UniqReqId) : Checked Receiver :=
  match r.inbound.remove id with
  | none => throw (.thrown .inboundRemove "Can't find_pos() of msg")
  | some inbound => return { r with inbound }

def debit (addr : Addr) (credit : ℤ) : Receiver :=
  { r.modifySender addr fun st => { st with srpbBytes := st.srpbBytes - credit } with
    budgetBytes := r.budgetBytes - credit
    creditGranted := r.creditGranted + credit }

def replenish (addr : Addr) (credit : ℤ) : Receiver :=
  { r.modifySender addr fun st => { st with srpbBytes := st.srpbBytes + credit } with
    budgetBytes := r.budgetBytes + credit
    creditReplenished := r.creditReplenished + credit }

end Receiver

namespace Host

def grantHdr (m : InboundMsgState) (creditBytes padding : ℤ) (now : Time) : Hdr where
  msgType := .grant
  seq := m.seq
  credit := creditBytes
  creditPad := padding
  reqId := m.firstHeader.reqId
  pktId := m.firstHeader.pktId
  clAddr := m.firstHeader.clAddr
  clThreadId := m.firstHeader.clThreadId
  srAddr := m.firstHeader.srAddr
  srThreadId := m.firstHeader.srThreadId
  appLevelId := m.firstHeader.appLevelId
  msgCreationTime := now

/-- A message and the pacer once a GRANT for it is sent; seq counts the data bytes
granted, without headers and padding. -/
def countGrant (id : UniqReqId) (creditBytes padding : ℤ) (h : Host) : Host :=
  { h with
    rcv := h.rcv.modifyMsg id fun m => { m with
      seq := m.seq + (creditBytes - padding - r2p2AllHeadersSize - interPktGapSize - ethernetPreambleSize) }
    dataPacerBacklog := h.dataPacerBacklog +
      (grantMsgSize + r2p2AllHeadersSize + interPktGapSize + ethernetPreambleSize : ℕ) }

/-- The counters of GRANTs by the order of their message are left out; the order is computed. -/
def traceGrant (env : Env) (id : UniqReqId) (h : Host) : Checked PUnit :=
  if env.cfg.doTrace then do
    let _ ← h.rcv.msgOrderSize id
    return ⟨⟩
  else return ⟨⟩

theorem traceGrant_eq {env : Env} {h : Host} (id : UniqReqId) (some_msg : h.rcv.inbound.msgs ≠ []) :
    h.traceGrant env id = .ok ⟨⟩ := by
  have counts : h.rcv.inbound.size ≠ 0 := fun none => some_msg (List.length_eq_zero_iff.mp none)
  unfold traceGrant Receiver.msgOrderSize
  rw [if_neg counts]
  split <;> rfl

def forwardGrant (env : Env) (now : Time) (id : UniqReqId) (creditBytes padding : ℤ) (h : Host) : Checked Host := do
  assert .forwardGrant "padding < MIN_R2P2_PAYLOAD" (padding < minR2p2Payload)
  let h := h.countGrant id creditBytes padding
  h.traceGrant env id
  h.forwardToTransport env (grantHdr (h.rcv.msg id) creditBytes padding now) grantMsgSize (h.rcv.msg id).remoteAddr

/-- The budgets and the window of the message's sender have room for its next credit. -/
def Room (cfg : Config) (m : InboundMsgState) (h : Host) : Prop :=
  m.creditNeeded ≤ min h.rcv.budgetBytes (h.rcv.sender m.remoteAddr).srpbBytes ∧
    cfg.maxSrpb - (h.rcv.sender m.remoteAddr).srpbBytes ≤ (h.rcv.sender m.remoteAddr).maxSrpbBytes

instance (cfg : Config) (m : InboundMsgState) (h : Host) : Decidable (h.Room cfg m) :=
    inferInstanceAs (Decidable (_ ∧ _))

def chargeGrant (id : UniqReqId) (h : Host) : Host :=
  let m := h.rcv.msg id
  let rcv := h.rcv.debit m.remoteAddr m.creditNeeded
  { h with
    rcv := { rcv with creditDataGranted := rcv.creditDataGranted + m.creditNeededData }.modifyMsg id fun m =>
      { m with dataBytesGranted := m.dataBytesGranted + m.creditNeededData.toNat }
    grantPacerBacklog := h.grantPacerBacklog + m.creditNeeded }

def issueGrant (env : Env) (now : Time) (id : UniqReqId) (h : Host) : Checked Host :=
  let m := h.rcv.msg id
  if h.Room env.cfg m then do
    assert .sendCreditPolicyCommon "stats->credit_data_request_rcvd_ >= stats->credit_data_granted_"
      (h.rcv.creditDataGranted + m.creditNeededData ≤ h.rcv.creditDataRequestRcvd)
    (h.chargeGrant id).forwardGrant env now id m.creditNeeded m.creditPadding
  else return h

def checkGranted (id : UniqReqId) (h : Host) : Checked PUnit := do
  let m := h.rcv.msg id
  let st := h.rcv.sender m.remoteAddr
  assert .sendCreditPolicyCommon "msg_state->data_bytes_granted_ <= msg_state->data_bytes_expected_"
    (m.dataBytesGranted ≤ m.dataBytesExpected)
  assert .sendCreditPolicyCommon "nw_marked_ratio_ >= -0.000001 && nw_marked_ratio_ <= 1.000001"
    (-1 / 1000000 ≤ st.nw.markedRatio ∧ st.nw.markedRatio ≤ 1000001 / 1000000)
  assert .sendCreditPolicyCommon "host_marked_ratio_ >= -0.000001 && host_marked_ratio_ <= 1.000001"
    (-1 / 1000000 ≤ st.host.markedRatio ∧ st.host.markedRatio ≤ 1000001 / 1000000)

/-- The part of send_credit_policy_common for a message that still needs credit. -/
def grantCredit (env : Env) (now : Time) (id : UniqReqId) (h : Host) : Checked (Host × CreditResult) := do
  let m := h.rcv.msg id
  assert .sendCreditPolicyCommon "max_budget_bytes_ >= budget_bytes_" (h.rcv.budgetBytes ≤ env.cfg.budgetBytes)
  -- the budget of the host is missing, not just that of the sender
  if ¬ h.Room env.cfg m ∧ h.rcv.budgetBytes < m.creditNeeded then return (h, .noBudget)
  else
    let h ← h.issueGrant env now id
    h.checkGranted id
    return (h, .common)

def sendCreditPolicyCommon (env : Env) (now : Time) (id : UniqReqId) (h : Host) :
    Checked (Host × CreditResult) := do
  let m := h.rcv.msg id
  assert .sendCreditPolicyCommon "msg_state->data_bytes_received_ <= msg_state->data_bytes_expected_"
    (m.dataBytesReceived ≤ m.dataBytesExpected)
  assert .sendCreditPolicyCommon "msg_state->received_msg_info_" (m.receivedMsgInfo = true)
  -- a message that is all there needs nothing more
  if m.dataBytesReceived = m.dataBytesExpected ∧ m.dataBytesGranted = m.dataBytesExpected then
    let rcv ← h.rcv.removeInbound id
    return ({ h with rcv }, .removed)
  else
    assert .sendCreditPolicyCommon "msg_state->data_bytes_expected_ > 0" (0 < m.dataBytesExpected)
    assert .sendCreditPolicyCommon "uncreditd_data >= 0" (m.dataBytesGranted ≤ m.dataBytesExpected)
    if m.dataBytesExpected = m.dataBytesGranted then return (h, .fullyGranted)
    else h.grantCredit env now id

def grantPacerBusy (cfg : Config) (h : Host) : Bool :=
  cfg.paceGrants && decide ((3 / 2 : ℚ) * cfg.bytesDrainedPerLoop < h.grantPacerBacklog)

/-- The body shared by the granting loops: nothing before the size of the message is known. -/
def grantInformed (env : Env) (now : Time) (id : UniqReqId) (ret : Option CreditResult) (h : Host) :
    Checked (Host × Option CreditResult) := do
  let m := h.rcv.msg id
  if m.receivedMsgInfo then
    assert .sendGrantsMsg "msg_state->data_bytes_expected_ > 0" (0 < m.dataBytesExpected)
    let (h, ret) ← h.sendCreditPolicyCommon env now id
    return (h, some ret)
  else return (h, ret)

/-- The loop of send_grants_ts_msg at index i. The bound on the turns is the size
at the start: the loop only removes messages. -/
def tsMsgLoop (env : Env) (now : Time) : ℕ → ℕ → Option CreditResult → Host → Checked Host
  | 0, _, _, h => return h
  | turns + 1, i, ret, h =>
    if h.rcv.inbound.size ≤ i ∨ h.grantPacerBusy env.cfg then return h
    else
      match h.rcv.inbound.peekNext with
      | none => throw (.thrown .inboundPeekNext "there is no peek_next() because the array is empty")
      | some id => do
        let (h, ret) ← h.grantInformed env now id ret
        -- the cursor stays on the message, which is the first of the next pass
        if ret = some .noBudget then return h
        else
          match h.rcv.inbound.next with
          | none => throw (.thrown .inboundNext "there is no next() because the array is empty")
          | some (_, inbound) => tsMsgLoop env now turns (i + 1) ret { h with rcv := { h.rcv with inbound } }

def sendGrantsTsMsg (env : Env) (now : Time) (h : Host) : Checked Host :=
  h.tsMsgLoop env now h.rcv.inbound.size 0 none

def sortedMsgLoop (env : Env) (now : Time) : ℕ → ℕ → Option CreditResult → Host → Checked Host
  | 0, _, _, h => return h
  | turns + 1, i, ret, h =>
    if h.rcv.inbound.size ≤ i ∨ h.grantPacerBusy env.cfg then return h
    else
      -- the cursor moves before the message is served
      match h.rcv.inbound.next with
      | none => throw (.thrown .inboundNext "there is no next() because the array is empty")
      | some (id, inbound) => do
        let (h, ret) ← { h with rcv := { h.rcv with inbound } }.grantInformed env now id ret
        sortedMsgLoop env now turns (i + 1) ret h

/-- What send_grants_srpt_msg and send_grants_equal_bif_msg share: they differ in
the key by which they sort. -/
def sendGrantsSorted (env : Env) (now : Time) (key : UniqReqId → ℤ) (h : Host) : Checked Host :=
  if h.grantPacerBusy env.cfg then return h
  else
    let sorted := h.rcv.inbound.reorder (env.plat.sortBy key h.rcv.inbound.msgs) (env.plat.sortBy_perm ..)
    { h with rcv := { h.rcv with inbound := sorted.reset } }.sortedMsgLoop env now sorted.size 0 none

/-- Fewest bytes remaining first; the difference is of unsigned integers. -/
def sendGrantsSrptMsg (env : Env) (now : Time) (h : Host) : Checked Host :=
  h.sendGrantsSorted env now fun id =>
    toUInt64 ((h.rcv.msg id).dataBytesExpected - (h.rcv.msg id).dataBytesReceived : ℤ)

def sendGrantsEqualBifMsg (env : Env) (now : Time) (h : Host) : Checked Host :=
  h.sendGrantsSorted env now fun id => -(h.rcv.sender (h.rcv.msg id).remoteAddr).srpbBytes

def updateGrantBacklog (env : Env) (now : Time) (h : Host) : Host :=
  let interval := min (now - h.lastGrantPacerUpdate) (1 / 100000)
  { h with
    grantPacerBacklog := max (h.grantPacerBacklog - truncInt (env.cfg.drained interval)) 0
    lastGrantPacerUpdate := now }

def sendGrants (env : Env) (now : Time) (h : Host) : Checked Host :=
  -- one pass in 480 nanoseconds at most
  if now - h.lastGrantTime < 48 / 100000000 then return h
  else
    let h := { h with lastGrantTime := now }
    if env.cfg.paceGrants = false then throw (.thrown .sendGrants "pace_grants_ == 0 not supported")
    else
      let h := h.updateGrantBacklog env now
      if env.cfg.receiverPolicy = 0 then h.sendGrantsTsMsg env now
      else if env.cfg.receiverPolicy = 3 then h.sendGrantsSrptMsg env now
      else if env.cfg.receiverPolicy = 4 then h.sendGrantsEqualBifMsg env now
      else throw (.thrown .sendGrants "Unsuported receiver policy")

end Host

end PhantomPass
