import Mathlib
import PhantomPass.Config
import PhantomPass.Xpass.Headers

/-! XPassAgent, one end of an ExpressPass connection. Its receiving half asks for
credits and answers each with a data packet; its sending half sends credits at a
rate that it adapts to their loss. Both halves share the estimate of the RTT. -/

set_option autoImplicit false

namespace PhantomPass.Xpass

/-- XPASS_SEND_STATE. -/
inductive SendState
  | closed | closeWait | creditSending | creditStopReceived
  deriving DecidableEq

/-- XPASS_RECV_STATE. -/
inductive RecvState
  | closed | closeWait | creditRequestSent | creditReceiving | creditStopSent
  deriving DecidableEq

structure Params where
  minEthernetSize : ℕ
  maxEthernetSize : ℕ
  minCreditSize : ℕ
  maxCreditSize : ℕ
  xpassHdrSize : ℕ
  maxCreditRate : ℤ
  alpha : ℚ
  targetLossScaling : ℚ
  wInit : ℚ
  minW : ℚ
  retransmitTimeout : ℚ
  defaultCreditStopTimeout : ℚ
  minJitter : ℚ
  maxJitter : ℚ

/-- The two numbers that rand() draws for a credit. -/
structure Draw where
  size : ℕ := 0
  jitter : ℕ := 0
  jitter_le : jitter ≤ 2147483647 := by decide

/-- An agent as its constructor leaves it, with each timer by the time at which it is due. -/
structure XPassAgent where
  creditSendState : SendState := .closed
  creditRecvState : RecvState := .closed
  curCreditRate : ℤ := 0
  lastCreditRateUpdate : Time := 0
  creditTotal : ℤ := 0
  creditDropped : ℤ := 0
  w : ℚ := 0
  canIncreaseW : Bool := false
  curseq : ℤ := 1
  tSeqno : ℤ := 1
  recvNext : ℤ := 1
  cSeqno : ℤ := 1
  cRecvNext : ℤ := 1
  rtt : ℚ := 0
  fst : Time := 0
  fct : Time := 0
  creditRecved : ℤ := 0
  creditRecvedRtt : ℤ := 0
  lastCreditRecvUpdate : Time := 0
  waitRetransmission : Bool := false
  creditWasted : ℤ := 0
  curReqIdTup : Option RequestIdTuple := none
  sendCreditTimer : Option Time := none
  creditStopTimer : Option Time := none
  senderRetransmitTimer : Option Time := none
  receiverRetransmitTimer : Option Time := none
  fctTimer : Option Time := none
  deriving DecidableEq

/-- What a call leaves: the agent, what it sent, and what it gave to the application. -/
structure Outcome where
  agent : XPassAgent
  sent : Option Packet := none
  taken : Option (ℤ × RequestIdTuple) := none

/-- TimerHandler::sched. -/
def sched (timer : Option Time) (due : Time) : Checked (Option Time) :=
  match timer with
  | some _ => throw (.aborted "TimerHandler::sched" "Couldn't schedule timer - already scheduled")
  | none => return some due

namespace Params

variable (x : Params)

def maxSegment : ℤ := x.maxEthernetSize - x.xpassHdrSize

def avgCreditSize : ℚ := (x.minCreditSize + x.maxCreditSize) / 2

end Params

namespace XPassAgent

variable (x : Params) (now : Time) (a : XPassAgent)

def datalenRemaining : ℤ := a.curseq - a.tSeqno

def pktRemaining : ℤ := ⌈(a.datalenRemaining : ℚ) / x.maxSegment⌉

/-! ### Packets -/

def constructCreditRequest : XPassAgent × Packet :=
  ({ a with rtt := now },
    { ptype := .creditRequest
      size := x.minEthernetSize
      seqno := a.tSeqno
      ackno := a.recvNext
      hlen := x.xpassHdrSize
      creditSentTime := now
      sendbuffer := a.pktRemaining x })

def constructCreditStop : Packet where
  ptype := .creditStop
  size := x.minEthernetSize
  seqno := a.tSeqno
  ackno := a.recvNext
  hlen := x.xpassHdrSize

def constructCredit (draw : Draw) : Checked (XPassAgent × Packet) := do
  Lib.require (.exited "XPassAgent::construct_credit"
  "ERROR: min_credit_size_ should be less than or equal to max_credit_size_")
    (x.minCreditSize ≤ x.maxCreditSize)
  let size := x.minCreditSize + draw.size % (x.maxCreditSize - x.minCreditSize + 1)
  return ({ a with cSeqno := max 1 (a.cSeqno + 1) },
    { ptype := .credit
      size
      seqno := a.tSeqno
      ackno := a.recvNext
      hlen := size
      creditSeq := a.cSeqno
      creditSentTime := now })

/-- The size of a data packet of so many bytes: short ones are padded. -/
def dataSize (datalen : ℤ) : ℕ := (max (x.minEthernetSize : ℤ) (x.xpassHdrSize + datalen)).toNat

def constructData (credit : Packet) : Checked (XPassAgent × Packet) := do
  let datalen := min x.maxSegment a.datalenRemaining
  Lib.require (.exited "XPassAgent::construct_data" "ERROR: datapacket has length of less than zero") (0 < datalen)
  assert "XPassAgent::construct_data" "cur_req_id_tup_->ts_ > 0" (∀ tuple ∈ a.curReqIdTup, 0 < tuple.ts)
  return ({ a with tSeqno := a.tSeqno + datalen },
    { ptype := .data
      size := dataSize x datalen
      seqno := a.tSeqno
      ackno := a.recvNext
      hlen := x.xpassHdrSize
      creditSeq := credit.creditSeq
      creditSentTime := credit.creditSentTime
      reqId := a.curReqIdTup })

/-! ### The sending half: credits -/

def lossRate : ℚ := a.creditDropped / a.creditTotal

def targetLoss : ℚ := (1 - a.curCreditRate / x.maxCreditRate) * x.targetLossScaling

/-- Congestion has been detected: the rate does not rise, and the weight falls. -/
def congested : XPassAgent :=
  let rate :=
    if 1 ≤ a.lossRate then truncInt (x.avgCreditSize / a.rtt)
    else
      truncInt (x.avgCreditSize * (a.creditTotal - a.creditDropped : ℤ) / (now - a.lastCreditRateUpdate) *
        (1 + a.targetLoss x))
  { a with
    curCreditRate := if a.curCreditRate < rate then a.curCreditRate else rate
    w := max (a.w / 2) x.minW
    canIncreaseW := false }

def uncongested : XPassAgent :=
  let w := if a.canIncreaseW then min (a.w + 0.05) 0.5 else a.w
  { a with
    w
    canIncreaseW := true
    curCreditRate :=
      if a.curCreditRate < x.maxCreditRate then truncInt (w * x.maxCreditRate + (1 - w) * a.curCreditRate)
      else a.curCreditRate }

def clampRate (rate : ℤ) : ℤ :=
  let rate := if x.maxCreditRate < rate then x.maxCreditRate else rate
  let minRate := truncInt (x.avgCreditSize / a.rtt)
  if rate < minRate then minRate else rate

def creditFeedbackControl : XPassAgent :=
  if a.rtt ≤ 0 then a
  else if now - a.lastCreditRateUpdate < a.rtt then a
  else if a.creditTotal = 0 then a
  else
    let adapted := if a.targetLoss x < a.lossRate then a.congested x now else a.uncongested x
    { adapted with
      curCreditRate := a.clampRate x adapted.curCreditRate
      creditTotal := 0
      creditDropped := 0
      lastCreditRateUpdate := now }

def creditDelay (draw : Draw) : Checked ℚ := do
  let delay := x.avgCreditSize / a.curCreditRate
  if x.minJitter < x.maxJitter then
    return delay * (1 + (draw.jitter / 2147483647 * (x.maxJitter - x.minJitter) + x.minJitter))
  else do
    Lib.require (.exited "XPassAgent::send_credit" "ERROR: max_jitter_ should be larger than min_jitter_")
      (x.minJitter ≤ x.maxJitter)
    return delay

def sendCredit (draw : Draw) : Checked Outcome := do
  let (a, credit) ← (a.creditFeedbackControl x now).constructCredit x now draw
  assert "XPassAgent::send_credit" "cur_credit_rate_ > 0" (0 < a.curCreditRate)
  let delay ← a.creditDelay x draw
  return { agent := { a with sendCreditTimer := some (now + delay) }, sent := some credit }

def recvCreditRequest (draw : Draw) (pkt : Packet) : Checked Outcome :=
  let begins (a : XPassAgent) : Checked Outcome := do
    let share := if 40 ≤ pkt.sendbuffer then x.alpha else x.alpha * pkt.sendbuffer / 40
    let a :=
      { a with
        w := x.wInit
        lastCreditRateUpdate := now
        curCreditRate := truncInt (share * x.maxCreditRate)
        fst := pkt.creditSentTime }
    let out ← a.sendCredit x now draw
    return { out with agent := { out.agent with creditSendState := .creditSending } }
  match a.creditSendState with
  | .closeWait => begins { a with fctTimer := none }
  | .closed => begins a
  | .creditSending | .creditStopReceived => return { agent := a }

def recvCreditStop : Checked Outcome := do
  let timer ← sched a.fctTimer (now + x.defaultCreditStopTimeout)
  return { agent :=
    { a with
      fct := now - a.fst
      fctTimer := timer
      sendCreditTimer := none
      creditSendState := .closeWait } }

def handleFct : XPassAgent := { a with creditSendState := .closed }

/-- A gap stops the run: the code behind the exception never runs. -/
def processAck (pkt : Packet) : Checked XPassAgent := do
  let datalen := pkt.size - pkt.hlen
  Lib.require (.exited "XPassAgent::process_ack" "ERROR: negative length packet has been detected.") (0 ≤ datalen)
  if a.recvNext < pkt.seqno then
    throw (.thrown "XPassAgent::process_ack"
      "This should not happen in SIRD xpass port as buffers (for packets) are infinite")
  else if pkt.seqno = a.recvNext then
    if a.waitRetransmission then
      return { a with waitRetransmission := false, receiverRetransmitTimer := none, recvNext := a.recvNext + datalen }
    else return { a with recvNext := a.recvNext + datalen }
  else return a

def updateRtt (pkt : Packet) : XPassAgent :=
  let rtt := now - pkt.creditSentTime
  { a with rtt := if 0 < a.rtt then 0.8 * a.rtt + 0.2 * rtt else rtt }

def blank : RequestIdTuple := ⟨0, 0, true, 0, 0, 0, 0⟩

/-- The application's bytes: the padding of a message's last packet is taken off. -/
def appBytes (pkt : Packet) : ℤ :=
  let datalen := pkt.size - pkt.hlen
  let lastPktPayload := (pkt.reqId.getD blank).msgBytes.tmod x.maxSegment
  if lastPktPayload < x.minEthernetSize - x.xpassHdrSize ∧ datalen < x.maxSegment then lastPktPayload else datalen

def recvData (pkt : Packet) : Checked Outcome := do
  let distance := pkt.creditSeq - a.cRecvNext
  Lib.require (.exited "XPassAgent::recv_data" "ERROR: Credit Sequence number is reverted.") (0 ≤ distance)
  let a :=
    { a with
      creditTotal := a.creditTotal + (distance + 1)
      creditDropped := a.creditDropped + distance
      cRecvNext := pkt.creditSeq + 1 }
  let a ← a.processAck pkt
  return { agent := a.updateRtt now pkt, taken := some (appBytes x pkt, pkt.reqId.getD blank) }

def handleReceiverRetransmit : Checked Outcome :=
  throw (.assertion "XPassAgent::handle_receiver_retransmit" "0")

/-! ### The receiving half: data -/

def sendCreditStop : Outcome where
  agent :=
    { a with
      senderRetransmitTimer := some (now + if 0 < a.rtt then 2 * a.rtt else x.defaultCreditStopTimeout)
      creditRecvState := .creditStopSent }
  sent := some (a.constructCreditStop x)

def schedCreditStop : Checked XPassAgent :=
  match a.creditStopTimer with
  | some _ => throw (.exited "XPassAgent::recv_credit" "Error: CreditStopTimer seems to be scheduled more than once.")
  | none => return { a with creditStopTimer := some now }

def sendData (credit : Packet) : Checked (XPassAgent × Option Packet) :=
  if 0 < a.datalenRemaining then do
    let (a, pkt) ← a.constructData x credit
    return (a, some pkt)
  else return (a, none)

/-- While credits are asked for: data, and a stop behind the last of it, or early. -/
def receiving (credit : Packet) : Checked Outcome := do
  let (a, sent) ← a.sendData x credit
  if a.datalenRemaining = 0 then do
    let a ← a.schedCreditStop now
    return { agent := a, sent }
  else if a.rtt ≤ now - a.lastCreditRecvUpdate then do
    let a ← if a.pktRemaining x ≤ a.creditRecvedRtt then a.schedCreditStop now else pure a
    return { agent := { a with creditRecvedRtt := 0, lastCreditRecvUpdate := now }, sent }
  else return { agent := a, sent }

def recvCredit (credit : Packet) : Checked Outcome :=
  let a := { a with creditRecvedRtt := a.creditRecvedRtt + 1 }
  match a.creditRecvState with
  | .creditRequestSent =>
    { a with
      senderRetransmitTimer := none
      creditRecvState := .creditReceiving
      rtt := now - a.rtt
      lastCreditRecvUpdate := now }.receiving x now credit
  | .creditReceiving => a.receiving x now credit
  | .creditStopSent => do
    let (a, sent) ← a.sendData x credit
    let wasted := if sent.isSome then a.creditWasted else a.creditWasted + 1
    return { agent := { a with creditWasted := wasted, creditRecved := a.creditRecved + 1 }, sent }
  | .closeWait | .closed => return { agent := { a with creditWasted := a.creditWasted + 1 } }

def handleSenderRetransmit : Checked Outcome :=
  match a.creditRecvState with
  | .creditRequestSent => request
  | .creditStopSent =>
    if 0 < a.datalenRemaining then request
    else
      return { agent :=
        { a with
          creditRecvState := .closeWait
          creditRecved := 0
          senderRetransmitTimer := some (now + if 0 < a.rtt then a.rtt else x.defaultCreditStopTimeout) } }
  | .closeWait =>
    if a.creditRecved = 0 then return { agent := { a with creditRecvState := .closed, senderRetransmitTimer := none } }
    else return a.sendCreditStop x now
  | .closed =>
    throw (.exited "XPassAgent::handle_sender_retransmit" "Sender Retransmit triggered while connection is closed.")
  | .creditReceiving => return { agent := a }
where
  request : Checked Outcome :=
    let (a, pkt) := a.constructCreditRequest x now
    return {
      agent := { a with
        creditRecvState := .creditRequestSent
        senderRetransmitTimer := some (now + x.retransmitTimeout) }
      sent := some pkt }

/-- The first advance_bytes. -/
def advanceBytes (nb : ℤ) : Checked Outcome := do
  Lib.require (.thrown "XPassAgent::advance_bytes" "ERROR: tried to advance_bytes without XPASS_RECV_CLOSED")
    (a.creditRecvState = .closed)
  Lib.require (.thrown "XPassAgent::advance_bytes" "ERROR: advanced bytes are less than or equal to zero") (0 < nb)
  let (a, pkt) := { a with curseq := a.curseq + nb }.constructCreditRequest x now
  let timer ← sched a.senderRetransmitTimer (now + x.retransmitTimeout)
  return { agent := { a with senderRetransmitTimer := timer, creditRecvState := .creditRequestSent }, sent := some pkt }

def advanceMsg (nb : ℤ) (reqId : RequestIdTuple) : Checked Outcome := do
  assert "XPassAgent::advance_bytes" "cur_req_id_tup_->ts_ > 0" (0 < reqId.ts)
  { a with curReqIdTup := some reqId }.advanceBytes x now nb

def recvNack : Checked Outcome := throw (.assertion "XPassAgent::recv_nack" "0")

def recv (draw : Draw) (pkt : Packet) : Checked Outcome :=
  match pkt.ptype with
  | .creditRequest => a.recvCreditRequest x now draw pkt
  | .credit => a.recvCredit x now pkt
  | .data => a.recvData x now pkt
  | .creditStop => a.recvCreditStop x now
  | .nack => recvNack

end XPassAgent

end PhantomPass.Xpass
