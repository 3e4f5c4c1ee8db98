import PhantomPass.Hybrid.Support

/-! Receivers, ReceiverState and OutboundMsgs: how a sender chooses the message
of its next packet. -/

set_option autoImplicit false

namespace PhantomPass

namespace Sender

variable (s : Sender)

def rcvr (addr : Addr) : ReceiverState := s.remotes.get addr

def msg (id : UniqReqId) : OutboundMsgState := s.outbound.get id

/-- Receivers::find_or_create with on_create. -/
def findOrCreate (daddr : Addr) : Sender :=
  if daddr ∈ s.remotes.keys then s
  else { s with
    remotes := s.remotes.insert daddr { rcverAddr := daddr }
    rcverPolicyStates := Function.update s.rcverPolicyStates daddr {} }

def modifyRcvr (addr : Addr) (change : ReceiverState → ReceiverState) : Sender :=
  { s with remotes := s.remotes.modify addr change }

def modifyMsg (id : UniqReqId) (change : OutboundMsgState → OutboundMsgState) : Sender :=
  { s with outbound := s.outbound.modify id change }

def numOutbound : ℕ := (s.remotes.keys.map fun addr => (s.rcvr addr).outMsgs.size).sum

/-- OutboundMsgs::msg_order_size: how many of these messages have fewer bytes left. -/
def msgOrderSize (outbound : List UniqReqId) (id : UniqReqId) : Checked ℕ :=
  if outbound.length = 0 then throw (.thrown .outboundMsgOrderSize "msg_order_size() called on empty message list")
  else return outbound.countP fun other => (s.msg other).unsentBytes < (s.msg id).unsentBytes

/-- Receivers::get_msg_srpt_order: the messages to all receivers, in a list of their own. -/
def getMsgSrptOrder (plat : Platform) (id : UniqReqId) : Checked ℕ :=
  s.msgOrderSize ((plat.walk s.remotes.keys).flatMap fun addr => (s.rcvr addr).outMsgs.msgs) id

def totalAvailableCredit : ℤ := (s.remotes.keys.map fun addr => (s.rcvr addr).availCreditBytes).sum

/-- OutboundMsgs::unsent_bytes: what the queued messages still take on the wire. -/
def unsentBytes (addr : Addr) : ℤ :=
  ((s.rcvr addr).outMsgs.msgs.map fun id => addHeaderOverhead (s.msg id).unsentBytes).sum

def creditExpected (addr : Addr) : Checked ℕ := do
  let creditStillExpected := s.unsentBytes addr - (s.rcvr addr).availCreditBytes
  assert .creditExpected "credit_still_expected >= 0" (0 ≤ creditStillExpected)
  return toUInt32 creditStillExpected

def numReceiversOwingCredit : List Addr → Checked ℕ
  | [] => return 0
  | addr :: rest => do
    let crExpected ← s.creditExpected addr
    let num ← numReceiversOwingCredit rest
    return if 0 < crExpected then num + 1 else num

/-- One turn of the loop of want_to_send. -/
def wantToSendTurn (creditAvail : ℕ) (id : UniqReqId) (ps : PolicyState) : Checked PolicyState := do
  let toSend := nextPktBytes (s.msg id).unsentBytes
  assert .wantToSend "to_send >= MIN_ETHERNET_FRAME_ON_WIRE" (minEthernetFrameOnWire ≤ toSend)
  assert .wantToSend "to_send <= MAX_ETHERNET_FRAME_ON_WIRE" (toSend ≤ maxEthernetFrameOnWire)
  if toSend ≤ creditAvail then
    -- the first message that can be sent, or one behind it that is not announced
    if ps.canSend ∧ (s.msg id).sentAnouncement then return ps
    else return { ps with canSend := true, msgState := some id, wantToSendBytes := toSend }
  else return ps

def wantToSendLoop (creditAvail : ℕ) : List UniqReqId → PolicyState → Checked PolicyState
  | [], ps => return ps
  | id :: rest, ps => do
    let ps ← s.wantToSendTurn creditAvail id ps
    wantToSendLoop creditAvail rest ps

/-- ReceiverState::want_to_send, on the policy state of the receiver. The loop
calls next() once for each message, which brings the cursor back to the start. -/
def wantToSend (plat : Platform) (addr : Addr) : Checked Sender := do
  let ps := { s.rcverPolicyStates addr with canSend := false, msgState := none, wantToSendBytes := 0 }
  let queue := (s.rcvr addr).outMsgs
  -- nothing to send: the receiver loses what it had saved up
  if queue.size = 0 then
    return { s with
      rcverPolicyStates := Function.update s.rcverPolicyStates addr { ps with deficit := 0, quantum := 0 } }
  else
    let remaining := fun id => ((s.msg id).unsentBytes : ℤ)
    let sorted := queue.reorder (plat.sortBy remaining queue.msgs) (plat.sortBy_perm ..)
    let ps ← s.wantToSendLoop (toUInt64 (s.rcvr addr).availCreditBytes) sorted.msgs ps
    let ps := if ps.canSend then ps else { ps with deficit := 0, wantToSendBytes := 0, quantum := 0, msgState := none }
    return { s.modifyRcvr addr fun rs => { rs with outMsgs := sorted.reset } with
      rcverPolicyStates := Function.update s.rcverPolicyStates addr ps }

/-- The locals of update_policy_state. MAXINT and the address -1 are none. -/
structure PolicyPass where
  numCanSend : ℕ := 0
  strongestPrio : Option ℤ := none
  strongestPrioFlow : Option ℤ := none
  rcverWithHighestPrio : Option Addr := none
  rcverWithHighestPrioFlow : Option Addr := none

def below (value : ℤ) (bound : Option ℤ) : Bool := bound.elim true fun b => decide (value < b)

/-- How update_policy_state weighs a receiver that can send. -/
def weigh (senderPolicy : ℤ) (addr : Addr) (pass : PolicyPass) : Checked PolicyPass := do
  let pass := { pass with numCanSend := pass.numCanSend + 1 }
  match (s.rcverPolicyStates addr).msgState with
  | none => throw (.assertion .updatePolicyState "ps.msg_state_ != nullptr")
  | some id =>
    let unsent : ℤ := (s.msg id).unsentBytes
    let availData := (s.rcvr addr).availCreditDataBytes
    let pass ←
      -- most credit first
      if senderPolicy = 2 then
        if pass.strongestPrio.elim false fun prio => decide (prio < availData) then
          pure { pass with strongestPrio := some availData, rcverWithHighestPrio := some addr }
        else pure pass
      -- shortest message first; the first of several in the order of the walk
      else if senderPolicy = 0 ∨ senderPolicy = 1 then
        if below unsent pass.strongestPrio then
          pure { pass with strongestPrio := some unsent, rcverWithHighestPrio := some addr }
        else pure pass
      else throw (.thrown .updatePolicyState "Unknown sender policy")
    return if below unsent pass.strongestPrioFlow then
      { pass with strongestPrioFlow := some unsent, rcverWithHighestPrioFlow := some addr } else pass

def consider (env : Env) (addr : Addr) (pass : PolicyPass) : Checked PolicyPass :=
  if (s.rcverPolicyStates addr).canSend then s.weigh env.cfg.senderPolicy addr pass
  else do
    assert .updatePolicyState "ps.deficit_ < 0.000001" ((s.rcverPolicyStates addr).deficit < 1 / 1000000)
    return pass

/-- The first loop of update_policy_state. -/
def findCanSend (env : Env) : List Addr → Sender → PolicyPass → Checked (Sender × PolicyPass)
  | [], s, pass => return (s, pass)
  | addr :: rest, s, pass => do
    let s ← s.wantToSend env.plat addr
    let pass ← s.consider env addr pass
    assert .updatePolicyState "ps.deficit_ >= 0.0" (0 ≤ (s.rcverPolicyStates addr).deficit)
    findCanSend env rest s pass

/-- The last loop of update_policy_state. -/
def addDeficits (highPrio highPrioFlow : Addr) (highPrioQuantum lowPrioQuantum : ℚ) :
    List Addr → (Addr → PolicyState) → Checked (Addr → PolicyState)
  | [], states => return states
  | addr :: rest, states => do
    let ps := states addr
    if ps.canSend then
      assert .updatePolicyState "ps.want_to_send_bytes_ > 0" (0 < ps.wantToSendBytes)
      assert .updatePolicyState "ps.deficit_ >= 0" (0 ≤ ps.deficit)
      assert .updatePolicyState "ps.msg_state_ != nullptr" (ps.msgState ≠ none)
      let quantum := if addr = highPrio then highPrioQuantum else lowPrioQuantum
      let ps := { ps with
        deficit := ps.deficit + quantum
        quantum := quantum
        priorityFlow := decide (addr = highPrioFlow) }
      addDeficits highPrio highPrioFlow highPrioQuantum lowPrioQuantum rest (Function.update states addr ps)
    else
      assert .updatePolicyState "ps.deficit_ < 0.000001" (ps.deficit < 1 / 1000000)
      addDeficits highPrio highPrioFlow highPrioQuantum lowPrioQuantum rest states

def updatePolicyState (env : Env) : Checked Sender := do
  assert .updatePolicyState "remotes_.size() > 0" (s.remotes.keys ≠ [])
  let order := env.plat.walk s.remotes.keys
  let (s, pass) ← findCanSend env order s { strongestPrio := if env.cfg.senderPolicy = 2 then some 0 else none }
  if pass.numCanSend = 0 then return s
  else
    let states := fun addr =>
      if addr ∈ s.remotes.keys then { s.rcverPolicyStates addr with numCanSend := pass.numCanSend }
      else s.rcverPolicyStates addr
    match pass.rcverWithHighestPrio, pass.rcverWithHighestPrioFlow with
    | none, _ => throw (.assertion .updatePolicyState "rcver_with_highest_prio >= 0")
    | _, none => throw (.assertion .updatePolicyState "rcver_with_highest_prio_flow >= 0")
    | some highPrio, some highPrioFlow =>
      -- every receiver has its fair share, and the chosen one the rest
      let fsQuantum : ℚ := 1 / pass.numCanSend
      let srptQuantum : ℚ := 1
      let high := fsQuantum * env.cfg.fsWeight + srptQuantum * env.cfg.srptWeight
      let low := fsQuantum * env.cfg.fsWeight
      assert .updatePolicyState "(high_prio_quantum + (num_can_send - 1) * low_prio_quantum) - 1.0 < 0.00001"
        (high + (pass.numCanSend - 1) * low - 1 < 1 / 100000)
      assert .updatePolicyState "low_prio_quantum >= 0.0" (0 ≤ low)
      assert .updatePolicyState "low_prio_quantum <= 1.0" (low ≤ 1)
      assert .updatePolicyState "high_prio_quantum >= 0.0" (0 ≤ high)
      assert .updatePolicyState "high_prio_quantum <= 1.0" (high ≤ 1)
      let states ← addDeficits highPrio highPrioFlow high low order states
      return { s with rcverPolicyStates := states }

/-- The first loop of select_msg_to_send: the receiver with the highest deficit. -/
def highestDeficit (states : Addr → PolicyState) :
    List Addr → Option Addr → ℚ → Checked (Option Addr × ℚ)
  | [], ret, highest => return (ret, highest)
  | addr :: rest, ret, highest => do
    let ps := states addr
    if ps.canSend then
      if highest < ps.deficit then
        assert .selectMsgToSend "ps.deficit_ >= 0.000001" (1 / 1000000 ≤ ps.deficit)
        assert .selectMsgToSend "ps.quantum_ >= 0.000001" (1 / 1000000 ≤ ps.quantum)
        highestDeficit states rest (some addr) ps.deficit
      else highestDeficit states rest ret highest
    else
      assert .selectMsgToSend "ps.deficit_ < 0.000001" (ps.deficit < 1 / 1000000)
      highestDeficit states rest ret highest

/-- The second loop of select_msg_to_send. -/
def addQuanta : List Addr → (Addr → PolicyState) → Checked (Addr → PolicyState)
  | [], states => return states
  | addr :: rest, states => do
    let ps := states addr
    if ps.canSend then
      assert .selectMsgToSend "kv.second.quantum_ >= 0.000001" (1 / 1000000 ≤ ps.quantum)
      addQuanta rest (Function.update states addr { ps with deficit := ps.deficit + ps.quantum })
    else addQuanta rest states

/-- The recursion of select_msg_to_send. Every round adds a millionth to the
highest deficit at least, so the rounds are bounded. -/
def selectRounds (order : List Addr) : ℕ → (Addr → PolicyState) → Checked (Option Addr × (Addr → PolicyState))
  | 0, _ => throw (.undefined .selectMsgToSend "unbounded recursion")
  | rounds + 1, states => do
    match ← highestDeficit states order none (-1) with
    | (none, _) => return (none, states)
    | (some addr, highest) =>
      -- no one has saved up a packet yet
      if highest < 1 then
        let states ← addQuanta order states
        selectRounds order rounds states
      else
        let ps := { states addr with deficit := (states addr).deficit - 1 }
        assert .selectMsgToSend "ps_ret->deficit_ <= 10.0" (ps.deficit ≤ 10)
        return (some addr, Function.update states addr ps)

def selectMsgToSend (plat : Platform) : Checked (Option Addr × Sender) := do
  let (ret, states) ← selectRounds (plat.walk s.remotes.keys) 1000001 s.rcverPolicyStates
  return (ret, { s with rcverPolicyStates := states })

end Sender

end PhantomPass
