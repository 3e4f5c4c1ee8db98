import PhantomPass.Homa.Flow
import PhantomPass.Lib.Runs

/-! One message between two Homa hosts, from the application that hands it down to the
one that gets it, whatever its packets meet on the way. -/

set_option autoImplicit false

namespace PhantomPass.Homa

open Lib (place)

/-- The two records of a message, the packets between the hosts in no order, and what the applications got. -/
structure Exchange where
  now : Time
  outbound : OutboundMessage
  inbound : Option InboundMessage := none
  flight : List Hdr := []
  taken : List AppMessage := []

inductive Event
  | transmit
  | deliver (i : ℕ)
  | grant (schedPrio : ℕ)
  | wait (now : Time)

def Event.waits : Event → Bool
  | .wait _ => true
  | .transmit | .deliver _ | .grant _ => false

namespace Exchange

variable (x : Params) (e : Exchange)

def init (now : Time) (msg : AppMessage) (msgId : ℕ) : Checked Exchange := do
  let reqUnschedDataVec ← getReqUnschedDataPkts x msg.byteLength
  let outbound ← (OutboundMessage.ofAppMessage msg msgId reqUnschedDataVec).prepareRequestAndUnsched x now
  return { now, outbound }

/-- What the send controller does to the message when it sends its next packet. -/
def transmit : Checked Exchange := do
  let (sxPkt, outbound) ← e.outbound.getTransmitReadyPkt
  let frames ← sendmsg sxPkt
  assert "SendController::sendOrQueue" "!hasMoreReadyPkt" (outbound.bytesLeft = 0 → outbound.txPkts = [])
  return { e with outbound, flight := e.flight ++ frames }

/-- A grant, which finds the message only while it is not sent completely. -/
def answer (rxPkt : Hdr) : Checked Exchange := do
  let o := e.outbound
  Lib.require (.outOfRange "SendController" "outboundMsgMap") (0 < o.bytesLeft)
  assert "SendController::processReceivedGrant"
    "rxPkt->getPktType() == PktType::GRANT && rxPkt->destAddr_var() == outboundMsg->srcAddr && rxPkt->getSrcAddr() == outboundMsg->destAddr"
    (rxPkt.pktType = .grant ∧ rxPkt.destAddr = o.srcAddr ∧ rxPkt.srcAddr = o.destAddr)
  let outbound ← o.prepareSchedPkt e.now rxPkt.grantFields.offset rxPkt.grantFields.grantBytes
    rxPkt.grantFields.schedPrio
  assert "SendController::processReceivedGrant" "numBytesSent > 0 && bytesLeftToSend >= 0 && bytesNeedGrant >= 0"
    (0 < (o.bytesToSched - outbound.bytesToSched : ℤ))
  return { e with outbound }

def record (rxPkt : Hdr) : Checked InboundMessage :=
  match e.inbound with
  | some m => return m
  | none => do
    assert "SenderState::handleInboundPkt"
      "rxPkt->getPktType() == PktType::REQUEST || rxPkt->getPktType() == PktType::UNSCHED_DATA"
      (rxPkt.pktType = .request ∨ rxPkt.pktType = .unschedData)
    let m ← InboundMessage.ofPkt e.now rxPkt
    assert "SenderState::handleInboundPkt" "inboundMesg->msgCreationTime >= 0.0" (0 ≤ m.msgCreationTime)
    return m

/-- Data, as handleInboundPkt takes it; a complete message is handed up and forgotten. -/
def arrive (rxPkt : Hdr) : Checked Exchange := do
  let m ← e.record rxPkt
  assert "SenderState::handleInboundPkt"
    "rxPkt->getMsgId() == inboundMesg->msgIdAtSender && rxPkt->getSrcAddr() == senderAddr"
    (rxPkt.msgId = m.msgIdAtSender ∧ rxPkt.srcAddr = m.srcAddr)
  let m ← m.fillin rxPkt
  -- the last byte
  if m.bytesToReceive = 0 then do
    assert "SenderState::handleInboundPkt" "inboundMesg->bytesToGrant == 0" (m.bytesToGrant = 0)
    assert "SenderState::handleInboundPkt" "inboundMesg->inflightGrants.empty()" (m.inflightGrants = [])
    let rxMsg ← m.prepareRxMsgForApp
    assert "SenderState::handleInboundPkt" "rxPkt->msgType_var() != HomaMsgType::UNDEF_HOMA_MSG_TYPE"
      (rxPkt.msgType ≠ .undef)
    assert "SenderState::handleInboundPkt" "rxMsg->getMsgType() != HomaMsgType::UNDEF_HOMA_MSG_TYPE"
      (rxMsg.msgType ≠ .undef)
    Lib.require (.thrown "SenderState::handleInboundPkt" "Tried to forward invalid message type to application layer")
      (rxMsg.msgType = .request ∨ rxMsg.msgType = .reply)
    return { e with inbound := none, taken := e.taken ++ [rxMsg] }
  else return { e with inbound := some m }

def grantable : Option InboundMessage := e.inbound.filter fun m => 0 < m.bytesToGrant

def Enabled : Event → Prop
  | .transmit => e.outbound.txPkts ≠ []
  | .deliver i => i < e.flight.length
  | .grant _ => e.grantable ≠ none
  | .wait now => e.now ≤ now

def fire : Event → Checked Exchange
  | .transmit => e.transmit
  | .deliver i =>
    match e.flight[i]? with
    | none => return e
    | some rxPkt =>
      let e := { e with flight := e.flight.eraseIdx i }
      if rxPkt.IsData then e.arrive rxPkt else e.answer rxPkt
  | .grant schedPrio =>
    match e.grantable with
    | none => return e
    | some m => do
      let (m, grantPkt) ← m.prepareGrant e.now (min m.bytesToGrant x.grantMax) schedPrio
      let frames ← sendmsg grantPkt
      return { e with inbound := some m, flight := e.flight ++ frames }
  | .wait now => return { e with now }

def Step (e : Exchange) (event : Event) (e' : Exchange) : Prop := e.Enabled event ∧ e.fire x event = .ok e'

structure Sane (x : Params) : Prop where
  full : x.defaultReqBytes = maxReqPktDataBytes
  grants : 0 < x.grantMaxBytes

structure Valid (msg : AppMessage) : Prop where
  type : msg.msgType = .request ∨ msg.msgType = .reply
  some_ : 0 < msg.byteLength
  created : 0 < msg.msgCreationTime

variable {msg : AppMessage} {id total : ℕ} {e : Exchange} {m : InboundMessage}

structure Going (msg : AppMessage) (id total : ℕ) (e : Exchange) (m : InboundMessage) : Prop where
  sends : e.outbound.Sends msg id
  left : e.outbound.bytesLeft = e.outbound.bytesToSched + (e.outbound.txPkts.map Hdr.getDataBytes).sum
  ready : ∀ p ∈ e.outbound.txPkts, p.IsData
  known : (e.inbound = some m ∧ m.bytesToReceive ≠ 0 ∧ m.Times e.now) ∨ (e.inbound = none ∧ m = .fresh msg id total 0)
  le : total ≤ msg.byteLength
  balanced : Balanced msg id total m e.outbound.bytesToSched (e.outbound.txPkts ++ e.flight)
  taken : e.taken = []
  now : 0 < e.now

/-- The message has been handed up, and nothing of it is left. -/
structure Finished (msg : AppMessage) (e : Exchange) : Prop where
  inbound : e.inbound = none
  sent : e.outbound.bytesLeft = 0 ∧ e.outbound.bytesToSched = 0 ∧ e.outbound.txPkts = []
  flight : e.flight = []
  taken : e.taken = [msg]

def Ok (msg : AppMessage) (id total : ℕ) (e : Exchange) : Prop := (∃ m, Going msg id total e m) ∨ Finished msg e

def work (e : Exchange) : ℕ :=
  4 * (match e.inbound with
    | some m => m.bytesToGrant
    | none => e.outbound.bytesToSched) +
  2 * e.outbound.txPkts.length + (e.flight.map fun p => if p.pktType = .grant then 3 else 1).sum

theorem known_type (valid : Valid msg) : msg.msgType ≠ .undef ∧ msg.msgType ≠ .other := by
  rcases valid.type with type | type <;> simp [type]

theorem Going.transmit (going : Going msg id total e m) (valid : Valid msg) (ready : e.outbound.txPkts ≠ []) :
    ∃ e', e.transmit = .ok e' ∧ Going msg id total e' m ∧ e'.work < e.work := by
  obtain ⟨p, rest, packets⟩ := List.exists_cons_of_ne_nil ready
  have inside : p ∈ e.outbound.txPkts ++ e.flight := by simp [packets]
  have of := going.balanced.packets p inside
  have data := going.ready p (by simp [packets])
  have type : p.msgType = msg.msgType := (of.data data).2.2.1
  have left := going.left
  rw [packets, List.map_cons, List.sum_cons] at left
  have done : sub32 e.outbound.bytesLeft p.getDataBytes = 0 → rest = [] := by
    rw [sub32_of_le (by omega)]
    intro none
    cases rest with
    | nil => rfl
    | cons q rest =>
      have pos := (going.balanced.packets q (by simp [packets])).pos
      rw [Balanced.received_bytes (going.ready q (by simp [packets]))] at pos
      rw [List.map_cons, List.sum_cons] at left
      omega
  have known := known_type valid
  have created : 0 < p.msgCreationTime := (of.data data).2.2.2 ▸ valid.created
  have fits := of.fits
  rw [if_neg data, Balanced.received_bytes data] at fits
  refine ⟨{ e with
    outbound := { e.outbound with txPkts := rest, bytesLeft := sub32 e.outbound.bytesLeft p.getDataBytes }
    flight := e.flight ++ [p] }, ?_, ?_, ?_⟩
  · unfold Exchange.transmit OutboundMessage.getTransmitReadyPkt
    rw [packets]
    dsimp only
    rw [assert, Lib.require_true _ (by rw [type]; exact known.1), Lib.ok_bind, assert,
      Lib.require_true _ (by rw [type]; exact known.2), Lib.ok_bind]
    dsimp only [pure, Except.pure]
    rw [Lib.ok_bind]
    dsimp only
    rw [sendmsg_eq created fits, Lib.ok_bind, assert, Lib.require_true _ done]
    rfl
  · exact { going with
      sends := { going.sends with }
      left := by
        dsimp only
        rw [sub32_of_le (by omega)]
        omega
      ready := fun q inside => going.ready q (by simp [packets, inside])
      balanced := by
        refine going.balanced.perm ?_
        rw [packets, List.cons_append, ← List.append_assoc]
        exact (List.perm_append_singleton _ _).symm }
  · unfold work
    dsimp only
    rw [packets, List.length_cons, List.map_append, List.sum_append, List.map_singleton,
      List.sum_singleton, if_neg data]
    cases e.inbound <;> dsimp only <;> omega

theorem Going.grant {x : Params} (going : Going msg id total e m) (sane : Sane x) (prio : ℕ)
    (granted : e.grantable ≠ none) :
    ∃ e' m', e.fire x (.grant prio) = .ok e' ∧ Going msg id total e' m' ∧ e'.work < e.work := by
  obtain ⟨m', found⟩ := Option.ne_none_iff_exists'.mp granted
  obtain ⟨known, some_⟩ := Option.filter_eq_some_iff.mp found
  rcases going.known with ⟨here, more, times⟩ | ⟨none, -⟩
  · rw [here] at known
    cases known
    have some_ : 0 < m.bytesToGrant := by simpa using some_
    have max : 0 < x.grantMax ∧ x.grantMax ≤ PktType.schedData.maxData :=
      ⟨lt_min sane.grants (by decide), min_le_right _ _⟩
    have size : 0 < min m.bytesToGrant x.grantMax := lt_min some_ max.1
    have balanced := going.balanced.grant e.now prio size (min_le_left _ _) (le_trans (min_le_right _ _) max.2)
    have offset := balanced.offset
    have behind := going.balanced.behind
    have left := going.balanced.offset
    have unsched : m.totalUnschedBytes = total := congrArg InboundMessage.totalUnschedBytes going.balanced.fixed
    have after : (m.granted e.now (min m.bytesToGrant x.grantMax)).bytesToGrant =
      m.bytesToGrant - min m.bytesToGrant x.grantMax :=
      sub32_of_le (min_le_left _ _)
    refine ⟨{ e with
      inbound := some (m.granted e.now (min m.bytesToGrant x.grantMax))
      flight := e.flight ++ [m.grantPkt e.now (min m.bytesToGrant x.grantMax) prio] },
      m.granted e.now (min m.bytesToGrant x.grantMax), ?_, ?_, ?_⟩
    rotate_left
    · exact { going with
        known := .inl ⟨rfl, more, ⟨le_trans times.arrived times.past, le_refl _, fun whole => by
          have whole : m.msgSize ≤ m.totalUnschedBytes := whole
          omega⟩⟩
        balanced := balanced.perm (by
          dsimp only
          rw [← List.append_assoc]
          exact (List.perm_append_singleton _ _).symm) }
    · unfold work
      rw [here, List.map_append, List.sum_append, List.map_singleton, List.sum_singleton]
      dsimp only
      rw [after, if_pos (show (m.grantPkt e.now (min m.bytesToGrant x.grantMax) prio).pktType = .grant from rfl)]
      omega
    · unfold fire
      dsimp only
      rw [found]
      dsimp only
      unfold InboundMessage.prepareGrant
      dsimp only
      rw [assert, Lib.require_true _ (by rw [sub32_of_le (by omega)]; omega)]
      dsimp only [pure, Except.pure]
      rw [Lib.ok_bind, Lib.ok_bind]
      dsimp only
      rw [sendmsg_eq going.now (Nat.zero_le _)]
      rfl
  · rw [none] at known
    cases known

theorem Going.answer {p : Hdr} {flight : List Hdr} (going : Going msg id total e m) (here : e.flight.Perm (p :: flight))
    (grant : p.pktType = .grant) :
    ∃ e', { e with flight }.answer p = .ok e' ∧ Going msg id total e' m ∧ e'.work < e.work := by
  have bag : (e.outbound.txPkts ++ e.flight).Perm (p :: (e.outbound.txPkts ++ flight)) :=
    (here.append_left _).trans List.perm_middle
  have balanced := going.balanced.perm bag
  have of := balanced.packets p List.mem_cons_self
  obtain ⟨source, dest⟩ := of.grant grant
  have pos := of.pos
  have fits := of.fits
  have bytes : p.bytes = p.grantFields.grantBytes := if_pos grant
  rw [if_pos grant] at fits
  have small : PktType.schedData.maxData < 2 ^ 32 := by decide
  have len : (e.outbound.schedPkt e.now p.grantFields.offset p.bytes p.grantFields.schedPrio).bytes = p.bytes :=
    sub32_range _ pos (lt_of_le_of_lt fits small)
  have behind := of.behind (p.grantFields.offset, p.bytes) (by
    unfold Hdr.granted
    rw [grant]
    exact List.mem_singleton_self _)
  have of' : (e.outbound.schedPkt e.now p.grantFields.offset p.bytes p.grantFields.schedPrio).Of msg id total := {
    msgId := going.sends.msgId
    pos := by rwa [len]
    fits := by
      rw [len]
      exact fits
    data := fun _ => ⟨going.sends.srcAddr, going.sends.destAddr, going.sends.msgType, going.sends.msgCreationTime⟩
    grant := fun never => by cases never
    unsched := fun never => by rcases never with never | never <;> cases never
    behind := fun g same => by
      rw [List.mem_singleton.mp same]
      exact behind }
  -- the packet takes the place of the grant
  obtain ⟨le, answered⟩ := balanced.answer grant of' rfl len rfl
  have left := going.left
  have toSend : min p.grantFields.grantBytes e.outbound.bytesToSched = p.bytes := by omega
  have scheduled : sub32 e.outbound.bytesToSched p.bytes = e.outbound.bytesToSched - p.bytes := sub32_of_le le
  have perm := Lib.place_perm Hdr.txKey (e.outbound.schedPkt e.now p.grantFields.offset p.bytes p.grantFields.schedPrio)
    e.outbound.txPkts
  refine ⟨{ e with
    flight
    outbound := { e.outbound with
      txPkts := place Hdr.txKey (e.outbound.schedPkt e.now p.grantFields.offset p.bytes p.grantFields.schedPrio)
        e.outbound.txPkts
      bytesToSched := e.outbound.bytesToSched - p.bytes } }, ?_, ?_, ?_⟩
  · unfold Exchange.answer OutboundMessage.prepareSchedPkt
    dsimp only
    rw [Lib.require_true _ (by omega), Lib.ok_bind, assert,
      Lib.require_true _ ⟨grant, dest.trans going.sends.srcAddr.symm, source.trans going.sends.destAddr.symm⟩,
        Lib.ok_bind, assert,
      Lib.require_true _ (by omega), Lib.ok_bind, toSend, scheduled]
    dsimp only [pure, Except.pure]
    rw [Lib.ok_bind, assert, Lib.require_true _ (by dsimp only; omega)]
    rfl
  · exact { going with
      sends := { going.sends with }
      left := by
        have data : (e.outbound.schedPkt e.now p.grantFields.offset p.bytes p.grantFields.schedPrio).getDataBytes =
          p.bytes := len
        dsimp only
        rw [(perm.map Hdr.getDataBytes).sum_eq, List.map_cons, List.sum_cons, data]
        omega
      ready := fun q inside => by
        rcases Lib.mem_place.mp inside with rfl | old
        · exact fun never => by cases never
        · exact going.ready q old
      balanced := answered.perm (perm.symm.append_right _) }
  · have flights := (here.map fun p => if p.pktType = .grant then 3 else 1).sum_eq
    rw [List.map_cons, List.sum_cons, if_pos grant] at flights
    unfold work
    dsimp only
    rw [flights, Lib.length_place]
    cases e.inbound <;> dsimp only <;> omega

theorem Going.arrive {p : Hdr} {flight : List Hdr} (going : Going msg id total e m) (valid : Valid msg)
    (here : e.flight.Perm (p :: flight)) (data : p.IsData) :
    ∃ e', { e with flight }.arrive p = .ok e' ∧ Ok msg id total e' ∧ e'.work < e.work := by
  have bag : (e.outbound.txPkts ++ e.flight).Perm (p :: (e.outbound.txPkts ++ flight)) :=
    (here.append_left _).trans List.perm_middle
  have flights := (here.map fun p => if p.pktType = .grant then 3 else 1).sum_eq
  rw [List.map_cons, List.sum_cons, if_neg data] at flights
  -- a message without a record is one of which nothing has come in
  have known : ∃ m, { e with flight }.record p = .ok m ∧ m.Times e.now ∧
      Balanced msg id total m e.outbound.bytesToSched (p :: (e.outbound.txPkts ++ flight)) ∧ e.work =
        4 * m.bytesToGrant + 2 * e.outbound.txPkts.length + (e.flight.map fun p => if p.pktType = .grant then 3
          else 1).sum := by
    rcases going.known with ⟨inside, -, times⟩ | ⟨none, rfl⟩
    · refine ⟨m, ?_, times, going.balanced.perm bag, ?_⟩
      · unfold record
        rw [show ({ e with flight } : Exchange).inbound = some m from inside]
        rfl
      · unfold work
        rw [inside]
    · have balanced := going.balanced.perm bag
      have type := balanced.unsched p List.mem_cons_self
      refine ⟨.fresh msg id total e.now, ?_, ⟨le_refl _, le_refl _, fun _ => rfl⟩, balanced.rebase, ?_⟩
      · unfold record
        rw [show ({ e with flight } : Exchange).inbound = Option.none from none]
        dsimp only
        rw [assert, Lib.require_true _ type]
        dsimp only [pure, Except.pure]
        rw [Lib.ok_bind, InboundMessage.ofPkt_eq (balanced.packets p List.mem_cons_self) type going.le
          (known_type valid).1, Lib.ok_bind,
          assert, Lib.require_true _ (show (InboundMessage.fresh msg id total e.now).msgCreationTime ≥ 0 from
            valid.created.le)]
        rfl
      · unfold work
        rw [none, balanced.toSched_fresh]
        rfl
  obtain ⟨m, record, times, balanced, works⟩ := known
  obtain ⟨grants, fills, rest⟩ := balanced.arrive data
  have of := balanced.packets p List.mem_cons_self
  have ids : m.msgIdAtSender = id := congrArg InboundMessage.msgIdAtSender balanced.fixed
  have source : m.srcAddr = msg.srcAddr := congrArg InboundMessage.srcAddr balanced.fixed
  have begins : { e with flight }.arrive p = (do
      if (m.without p grants).bytesToReceive = 0 then do
        assert "SenderState::handleInboundPkt" "inboundMesg->bytesToGrant == 0" ((m.without p grants).bytesToGrant = 0)
        assert "SenderState::handleInboundPkt" "inboundMesg->inflightGrants.empty()"
          ((m.without p grants).inflightGrants = [])
        let rxMsg ← (m.without p grants).prepareRxMsgForApp
        assert "SenderState::handleInboundPkt" "rxPkt->msgType_var() != HomaMsgType::UNDEF_HOMA_MSG_TYPE"
          (p.msgType ≠ .undef)
        assert "SenderState::handleInboundPkt" "rxMsg->getMsgType() != HomaMsgType::UNDEF_HOMA_MSG_TYPE"
          (rxMsg.msgType ≠ .undef)
        Lib.require (.thrown "SenderState::handleInboundPkt"
          "Tried to forward invalid message type to application layer")
          (rxMsg.msgType = .request ∨ rxMsg.msgType = .reply)
        return { e with flight, inbound := none, taken := e.taken ++ [rxMsg] }
      else return { e with flight, inbound := some (m.without p grants) }) := by
    unfold Exchange.arrive
    rw [record, Lib.ok_bind, assert, Lib.require_true _ ⟨of.msgId.trans ids.symm, (of.data data).1.trans source.symm⟩,
      Lib.ok_bind,
      fills, Lib.ok_bind]
  rw [begins]
  -- with the last byte the message goes up, and nothing of it is on its way
  by_cases all : (m.without p grants).bytesToReceive = 0
  · obtain ⟨empty, granted, inflight, toSched⟩ := rest.complete all
    obtain ⟨tx, none⟩ := List.append_eq_nil_iff.mp empty
    have left := going.left
    rw [tx] at left
    have times' : (m.without p grants).Times e.now := { times with }
    have type : p.msgType ≠ .undef := (of.data data).2.2.1 ▸ (known_type valid).1
    refine ⟨{ e with flight, inbound := Option.none, taken := e.taken ++ [msg] }, ?_,
      .inr ⟨rfl, ⟨?_, toSched, tx⟩, none, ?_⟩, ?_⟩
    · rw [if_pos all, assert, Lib.require_true _ granted, Lib.ok_bind, assert, Lib.require_true _ inflight, Lib.ok_bind,
        InboundMessage.prepareRxMsgForApp_eq rest times' all, Lib.ok_bind, assert, Lib.require_true _ type,
          Lib.ok_bind, assert,
        Lib.require_true _ (known_type valid).1, Lib.ok_bind, Lib.require_true _ valid.type]
      rfl
    · simpa [toSched] using left
    · dsimp only
      rw [going.taken]
      rfl
    · rw [works, flights]
      unfold work
      dsimp only
      rw [toSched]
      omega
  · refine
      ⟨{ e with flight, inbound := some (m.without p grants) }, by rw [if_neg all]; rfl, .inl ⟨m.without p grants,
        { going with
          known := .inl ⟨rfl, all, { times with }⟩
          balanced := rest }⟩, ?_⟩
    rw [works, flights]
    unfold work InboundMessage.without
    dsimp only
    omega

theorem Ok.fire {x : Params} (ok : Ok msg id total e) (sane : Sane x) (valid : Valid msg) {event : Event}
    (enabled : e.Enabled event) :
    ∃ e', e.fire x event = .ok e' ∧ Ok msg id total e' ∧ (e'.work < e.work ∨ (∃ now, event = .wait now) ∧
    e'.work = e.work) := by
  rcases ok with ⟨m, going⟩ | done
  · cases event with
    | transmit =>
      obtain ⟨e', fires, going', less⟩ := going.transmit valid enabled
      exact ⟨e', fires, .inl ⟨m, going'⟩, .inl less⟩
    | deliver i =>
      have inside : i < e.flight.length := enabled
      have here := (List.getElem_cons_eraseIdx_perm inside).symm
      unfold Exchange.fire
      dsimp only
      rw [List.getElem?_eq_getElem inside]
      dsimp only
      by_cases data : e.flight[i].IsData
      · obtain ⟨e', fires, ok', less⟩ := going.arrive valid here data
        exact ⟨e', by rw [if_pos data]; exact fires, ok', .inl less⟩
      · obtain ⟨e', fires, going', less⟩ := going.answer here (not_not.mp data)
        exact ⟨e', by rw [if_neg data]; exact fires, .inl ⟨m, going'⟩, .inl less⟩
    | grant prio =>
      obtain ⟨e', m', fires, going', less⟩ := going.grant sane prio enabled
      exact ⟨e', fires, .inl ⟨m', going'⟩, .inl less⟩
    | wait now =>
      have past : e.now ≤ now := enabled
      refine ⟨{ e with now }, rfl, .inl ⟨m, { going with known := ?_, now := lt_of_lt_of_le going.now past }⟩,
        .inr ⟨⟨now, rfl⟩, rfl⟩⟩
      exact going.known.imp_left fun known =>
        ⟨known.1, known.2.1, { known.2.2 with past := le_trans known.2.2.past past }⟩
  · cases event with
    | transmit => exact absurd done.sent.2.2 enabled
    | deliver i =>
      have inside : i < e.flight.length := enabled
      rw [done.flight] at inside
      exact absurd inside (Nat.not_lt_zero i)
    | grant prio =>
      refine absurd ?_ enabled
      unfold grantable
      rw [done.inbound]
      rfl
    | wait now => exact ⟨{ e with now }, rfl, .inr { done with }, .inr ⟨⟨now, rfl⟩, rfl⟩⟩

theorem init_goes {x : Params} {now : Time} (sane : Sane x) (valid : Valid msg) (later : msg.msgCreationTime ≤ now)
    (id : ℕ) :
    ∃ e, init x now msg id = .ok e ∧ Ok msg id (unschedTotal x msg.byteLength) e := by
  have some_ := valid.some_
  have whole : 0 < maxReqPktDataBytes := by decide
  have total : 0 < unschedTotal x msg.byteLength ∧ unschedTotal x msg.byteLength ≤ msg.byteLength := by
    unfold unschedTotal
    omega
  have vec := getReqUnschedDataPkts_eq sane.full some_
  have sum : (PktType.unschedData.framing.lens (unschedTotal x msg.byteLength)).sum = unschedTotal x msg.byteLength :=
    PktType.unschedData.framing.sum_lens _
  obtain ⟨txPkts, prepares, packets, bytes, data, wire⟩ := OutboundMessage.prepareRequestAndUnsched_eq x now id
    (known_type valid) (fun len inside => PktType.unschedData.framing.mem_lens inside) (sum.le.trans total.2)
  rw [sum] at prepares packets bytes data
  have start := Balanced.start 0 total.1 total.2 (fun p inside => (packets p inside).1) (fun p inside =>
    (packets p inside).2) bytes
    (by rw [wire, getBytesOnWire_eq_sum _ total.1])
  refine ⟨_, by rw [init, vec, Lib.ok_bind, prepares, Lib.ok_bind]; rfl,
    .inl ⟨.fresh msg id (unschedTotal x msg.byteLength) 0, ?_⟩⟩
  exact {
    sends := ⟨rfl, rfl, rfl, rfl, rfl, rfl, rfl, rfl, rfl, rfl⟩
    left := by
      dsimp only
      rw [data]
      exact (Nat.sub_add_cancel total.2).symm
    ready := fun p inside => by
      unfold Hdr.IsData
      rcases (packets p inside).2 with type | type <;> simp [type]
    known := .inr ⟨rfl, rfl⟩
    le := total.2
    balanced := by
      rw [List.append_nil]
      exact start
    taken := rfl
    now := lt_of_lt_of_le valid.created later }

theorem ok_of_run {x : Params} {first last : Exchange} {trace : List (Exchange × Event)} (sane : Sane x)
    (valid : Valid msg)
    (ok : Ok msg id total first) (run : Lib.Run (Step x) first trace last) : Ok msg id total last := by
  refine run.keeps (Ok msg id total) ok fun s event t ok step => ?_
  obtain ⟨enabled, fired⟩ := step
  obtain ⟨t', fires, ok', -⟩ := ok.fire sane valid enabled
  rw [fires] at fired
  cases fired
  exact ok'

def busy (trace : List (Exchange × Event)) : ℕ := trace.countP fun step => !step.2.waits

theorem busy_add_work {x : Params} {first last : Exchange} {trace : List (Exchange × Event)} (sane : Sane x)
    (valid : Valid msg)
    (ok : Ok msg id total first) (run : Lib.Run (Step x) first trace last) : busy trace + last.work ≤ first.work := by
  -- every step but the passing of time takes from the measure
  induction run with
  | start => exact (Nat.zero_add _).le
  | next event before step ih =>
    obtain ⟨enabled, fired⟩ := step
    obtain ⟨t', fires, -, less⟩ := (ok_of_run sane valid ok before).fire sane valid enabled
    rw [fires] at fired
    cases fired
    unfold busy at ih ⊢
    rw [List.countP_append]
    rw [List.countP_singleton]
    rcases less with less | ⟨⟨now, rfl⟩, same⟩
    · split <;> omega
    · rw [same, if_neg (by simp [Event.waits])]
      exact ih

/-- Every run takes only so many steps, and where none is left but waiting, the message
has been handed up, and neither side has anything left of it. -/
theorem message_delivered {x : Params} {now : Time} (sane : Sane x) (valid : Valid msg)
    (later : msg.msgCreationTime ≤ now) (id : ℕ) :
    ∃ first, init x now msg id = .ok first ∧ ∀ trace e, Lib.Run (Step x) first trace e → busy trace ≤ first.work ∧
      ((∀ event, e.Enabled event → ∃ now, event = .wait now) →
        e.taken = [msg] ∧ e.inbound = none ∧ e.outbound.bytesLeft = 0 ∧ e.flight = []) := by
  obtain ⟨first, begins, ok⟩ := init_goes sane valid later id
  refine ⟨first, begins, fun trace e run => ⟨?_, fun still => ?_⟩⟩
  · exact le_trans (Nat.le_add_right _ _) (busy_add_work sane valid ok run)
  · rcases ok_of_run sane valid ok run with ⟨m, going⟩ | done
    · have tx : e.outbound.txPkts = [] := by
        by_contra ready
        obtain ⟨_, never⟩ := still .transmit ready
        cases never
      have flight : e.flight = [] := by
        by_contra some_
        obtain ⟨_, never⟩ := still (.deliver 0) (List.length_pos_of_ne_nil some_)
        cases never
      have receive := going.balanced.receive
      have total := going.balanced.some_
      rw [tx, flight] at receive
      rcases going.known with ⟨here, more, -⟩ | ⟨-, rfl⟩
      · have granted : m.bytesToGrant = 0 := by
          by_contra some_
          have enabled : e.grantable ≠ none := by
            unfold grantable
            rw [here, Option.filter_some_pos (by simpa using Nat.pos_of_ne_zero some_)]
            simp
          obtain ⟨_, never⟩ := still (.grant 0) enabled
          cases never
        exact absurd (by simpa [granted] using receive) more
      · have le := going.le
        simp only [InboundMessage.fresh, List.append_nil, List.map_nil, List.sum_nil, Nat.add_zero] at receive
        omega
    · exact ⟨done.taken, done.inbound, done.sent.1, done.flight⟩

/-- Unscheduled data for one round trip of a link of 100 Gbit/s. -/
def hundredGbps : Params where
  grantMaxBytes := 1456
  defaultReqBytes := 1442
  defaultUnschedBytes := 98558
  prioCutOffs := [2 ^ 32 - 1]

def aRequest : AppMessage where
  msgType := .request
  byteLength := 500000
  reqId := 1
  appLevelId := 1
  clientThreadId := 1
  serverThreadId := 0
  srcAddr := 0
  destAddr := 1
  msgCreationTime := 10

theorem message_delivered_hundredGbps : ∃ first, init hundredGbps 10 aRequest 7 = .ok first ∧
    ∀ trace e, Lib.Run (Step hundredGbps) first trace e → busy trace ≤ first.work ∧
      ((∀ event, e.Enabled event → ∃ now, event = .wait now) →
        e.taken = [aRequest] ∧ e.inbound = none ∧ e.outbound.bytesLeft = 0 ∧ e.flight = []) :=
  message_delivered ⟨by decide, by decide⟩ ⟨.inl rfl, by decide, by decide⟩ (le_refl _) 7

end Exchange

end PhantomPass.Homa
