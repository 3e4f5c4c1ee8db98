import PhantomPass.Congestion.MultiBit
import PhantomPass.Refinement.Host

/-! When a host accepts a packet of a message. Of all that recv checks, only the
accounts can fail a packet that was sent: they must have lent what its data
brings back, and a reply must not announce itself with its data. -/

set_option autoImplicit false

namespace PhantomPass

open Lib (Store)

namespace Fits

variable {cfg : Config} {addr : Addr} {log out : List Packet} {p q : Packet} {m : OutboundMsgState}

theorem announces_iff (fits : Fits cfg addr log p out m) (data : p.isData = true) :
    0 < p.hdr.creditReq ↔ m.isScheduled = false := by
  have total := fits.ok.total_pos
  have creditReq := fits.self.2.2.2
  cases scheduled : m.isScheduled with
  | true => simp [creditReq, scheduled, data]
  | false => simp [creditReq, scheduled, total]

/-- A message that credited itself has no other packets than data, all of which announce it. -/
theorem announced (fits : Fits cfg addr log p out m) (unscheduled : m.isScheduled = false) (inside : q ∈ log ++ [p])
    (of : q.uniqReqId = m.reqId) (kind : q.isData = true ∨ q.isCreditReq = true) : q.isData = true ∧
    0 < q.hdr.creditReq := by
  have told := (fits.packet inside of kind).2.2.2.2.2
  have total := fits.ok.total_pos
  rw [unscheduled, Bool.false_and, if_neg Bool.false_ne_true] at told
  refine ⟨kind.resolve_right fun req => ?_, by omega⟩
  have none := fits.ok.creditReqs_length
  rw [unscheduled, Bool.false_and, if_neg Bool.false_ne_true] at none
  have there := fits.creditReqs.subset (mem_creditReqsOf.mpr ⟨inside, req, of⟩)
  rw [List.eq_nil_of_length_eq_zero none] at there
  cases there

theorem active (fits : Fits cfg addr log p out m) : m.active = true := by
  by_contra idle
  rw [Bool.not_eq_true] at idle
  rcases fits.kind with data | req
  · have there := fits.data.subset (fits.self_mem data)
    rw [fits.ok.idle_data idle] at there
    cases there
  · have there := fits.creditReqs.subset
      (mem_creditReqsOf.mpr ⟨List.mem_append_right _ (List.mem_singleton_self p), req, fits.name⟩)
    rw [fits.ok.idle_creditReqs idle] at there
    cases there

theorem thresh_of_scheduled (fits : Fits cfg addr log p out m) :
    (m.isScheduled = false → cfg.unsolicitedThreshBytes ≠ 0) ∧ (m.isScheduled = true →
    cfg.unsolicitedThreshBytes ≠ -1) := by
  constructor
  · intro unscheduled zero
    have unsolicited := fits.ok.unsolicited unscheduled
    have large := ethernet.wire_pos fits.ok.total_pos
    unfold Sender.unsolicited at unsolicited
    rw [addHeaderOverhead_eq] at unsolicited
    omega
  · intro scheduled all
    exact (fits.ok.scheduled fits.active scheduled).1 (Or.inl all)

theorem announces_iff_unsolicited (fits : Fits cfg addr log p out m) (data : p.isData = true) :
    0 < p.hdr.creditReq ↔ Sender.unsolicited cfg m.totalBytes := by
  rw [fits.announces_iff data]
  constructor
  · exact fits.ok.unsolicited
  · intro unsolicited
    by_contra scheduled
    exact (fits.ok.scheduled fits.active (by simpa using scheduled)).1 unsolicited

theorem single_iff (fits : Fits cfg addr log p out m) (data : p.isData = true) (reply : m.isRequest = false) :
    p.isSingleReply = true ↔ m.totalBytes ≤ maxR2p2Payload := by
  rw [fits.ok.isSingleReply_iff (fits.data.subset (fits.self_mem data))]
  exact and_iff_right reply

theorem type_of_told (fits : Fits cfg addr log p out m) (plain : p.hdr.msgType = .reply → p.hdr.creditReq = 0)
    (told : 0 < p.hdr.creditReq) : p.hdr.msgType = .grantReq ∨ p.hdr.msgType = .request := by
  have kind := fits.kind
  unfold Packet.isData Packet.isCreditReq at kind
  simp only [Bool.or_eq_true, beq_iff_eq] at kind
  rcases kind with (request | reply) | req
  · exact Or.inr request
  · have := plain reply
    omega
  · exact Or.inl req

theorem framed (fits : Fits cfg addr log p out m) :
    (p.size ≤ maxEthernetFrameOnWire ∧ minEthernetFrameOnWire ≤ p.size ∧ p.padding < minR2p2Payload) ∧
      minEthernetFrame ≤ p.payload + r2p2AllHeadersSize + p.padding ∧
      p.payload + r2p2AllHeadersSize + p.padding ≤ maxEthernetFrame := by
  have sizes : p.size = ethernet.cost p.payload ∧ p.padding = p.size - (p.payload + wireOverhead) ∧
      0 < p.payload ∧ p.payload ≤ ethernet.mss := by
    cases data : p.isData with
    | true =>
      have hdr := fits.dataHdr (fits.self_mem data)
      exact ⟨hdr.size, hdr.padding, fits.payload_pos data⟩
    | false =>
      have hdr := fits.ok.creditReqs p (fits.creditReqs.subset (mem_creditReqsOf.mpr
        ⟨List.mem_append_right _ (List.mem_singleton_self p), fits.isCreditReq_of_not_data data, fits.name⟩))
      have payload : p.payload = 4 := by
        unfold Packet.payload
        rw [hdr.size, hdr.padding]
        rfl
      rw [hdr.size, hdr.padding, payload]
      decide
  obtain ⟨size, padding, pos, le⟩ := sizes
  unfold Lib.Framing.cost at size
  simp only [ethernet, wireOverhead, maxR2p2Payload, minEthernetFrameOnWire, r2p2AllHeadersSize, interPktGapSize,
    ethernetPreambleSize, maxEthernetFrameOnWire, minR2p2Payload, minEthernetFrame, maxEthernetFrame] at *
  omega

end Fits

theorem Receiver.removeInbound_succeeds {r : Receiver} {id : UniqReqId} (inside : id ∈ r.inbound.msgs) :
    ∃ r', r.removeInbound id = .ok r' := by
  obtain ⟨inbound, removed⟩ := Lib.RoundRobin.remove_isSome.mpr inside
  unfold removeInbound
  rw [removed]
  exact ⟨_, rfl⟩

namespace Host

variable {env : Env} {h h' : Host} {p : Packet} {st : SenderState} {now : Time} {stamp : Stamp}

/-- What data needs where it arrives: accounts for unscheduled bytes, no announcement with a reply, and that what it
brings back was lent, be it by the packet itself. -/
structure Pays (env : Env) (h : Host) (p : Packet) : Prop where
  accounts : env.cfg.accountUnsched = true
  plain : p.hdr.msgType = .reply → p.hdr.creditReq = 0
  lent : h.rcv.creditReplenished + p.wireCost ≤ h.rcv.creditGranted + (h.rcv.current p).debit p

theorem receivedData_succeeds_iff {arrived grants : List Packet} (met : p.src ∈ h.rcv.senderState.keys)
    (inside : p.uniqReqId ∈ h.rcv.inbound.msgs) (pos : 0 < p.payload)
    (balance : env.cfg.budgetBytes - (h.rcv.takeData p).budgetBytes =
      (h.rcv.takeData p).creditGranted - (h.rcv.takeData p).creditReplenished)
    (obj : ObjOk arrived grants p.uniqReqId ((h.rcv.takeData p).msg p.uniqReqId)) :
    (∃ h', h.receivedData env p p.uniqReqId = .ok h') ↔
      env.cfg.accountUnsched = true ∧ (h.rcv.takeData p).creditReplenished ≤ (h.rcv.takeData p).creditGranted := by
  have all : (h.rcv.modifyMsg p.uniqReqId fun m =>
      { m with dataBytesReceived := m.dataBytesReceived + p.payload }).replenish p.src
        (max (p.payload + r2p2AllHeadersSize + interPktGapSize + ethernetPreambleSize) minEthernetFrameOnWire : ℕ) =
      h.rcv.takeData p := rfl
  unfold receivedData assert
  dsimp only
  rw [all, Lib.require_true _ met, Lib.ok_bind]
  constructor
  · rintro ⟨h', run⟩
    split at run
    · cases run
    · next accounts =>
      simp only [Lib.bind_eq_ok, Lib.require_eq_ok, exists_and_left, exists_const] at run
      exact ⟨by simpa using accounts, run.1⟩
  · rintro ⟨accounts, lent⟩
    have budget : (h.rcv.takeData p).budgetBytes ≤ env.cfg.budgetBytes := by omega
    have got : 0 < ((h.rcv.takeData p).msg p.uniqReqId).dataBytesReceived := by
      change 0 < ((h.rcv.inboundObjs.modify p.uniqReqId (·.received p)).get p.uniqReqId).dataBytesReceived
      rw [Store.get_modify_self]
      exact Nat.add_pos_right _ pos
    rw [if_neg (by rw [accounts]; decide), Lib.require_true _ lent, Lib.ok_bind, Lib.require_true _ pos, Lib.ok_bind,
      Lib.require_true _ budget, Lib.ok_bind, Lib.require_true _ obj.bound, Lib.ok_bind]
    split
    · next complete =>
      have info : ((h.rcv.takeData p).msg p.uniqReqId).receivedMsgInfo = true := by
        by_contra ignorant
        have := (obj.idle (by simpa using ignorant)).2.1
        omega
      have there : p.uniqReqId ∈ (h.rcv.takeData p).inbound.msgs := inside
      obtain ⟨rcv, removed⟩ := Receiver.removeInbound_succeeds there
      rw [Lib.require_true _ info, Lib.ok_bind, removed]
      exact ⟨_, rfl⟩
    · exact ⟨_, rfl⟩

theorem r2p2Recv_succeeds (handled : ∃ rpc, h.rpc.recvPkt env.cfg h.thisAddr p = .ok rpc) :
    ∃ h', h.r2p2Recv env p = .ok h' := by
  obtain ⟨rpc, handled⟩ := handled
  unfold Rpc.recvPkt at handled
  unfold r2p2Recv
  cases type : p.hdr.msgType <;> simp only [type, Lib.pure_eq_ok] at handled ⊢
  case request =>
    rw [handled]
    exact ⟨_, rfl⟩
  case reply =>
    rw [handled]
    exact ⟨_, rfl⟩
  all_goals exact ⟨_, rfl⟩

theorem noteMsgInfo_succeeds (credit : p.hdr.credit = 0) (type : p.hdr.msgType = .grantReq ∨ p.hdr.msgType = .request)
    (requested : h.rcv.creditDataGranted ≤ h.rcv.creditDataRequestRcvd)
    (unsol : 0 < p.hdr.unsolCredit → (h.rcv.msg p.uniqReqId).dataBytesReceived = 0 ∧
    env.cfg.unsolicitedThreshBytes ≠ 0 ∧
      (h.rcv.msg p.uniqReqId).remoteAddr ∈ h.rcv.senderState.keys ∧ env.cfg.accountUnsched = true) :
    h.noteMsgInfo env p p.uniqReqId = .ok { h with rcv := h.rcv.note p } := by
  have succeeds : ∃ h', h.noteMsgInfo env p p.uniqReqId = .ok h' := by
    unfold noteMsgInfo assert
    dsimp only
    rw [Lib.require_true _ credit, Lib.ok_bind, Lib.require_true _ type, Lib.ok_bind, Lib.require_true _ requested,
      Lib.ok_bind]
    split
    · next pos =>
      obtain ⟨nothing, thresh, met, accounts⟩ := unsol pos
      have noted : ∀ change : InboundMsgState → InboundMsgState, ∀ requested,
          ({ h.rcv.modifyMsg p.uniqReqId change with creditDataRequestRcvd := requested } : Receiver).msg p.uniqReqId =
            change (h.rcv.msg p.uniqReqId) := fun change _ => Store.get_modify_self ..
      rw [noted, Lib.require_true _ nothing, Lib.ok_bind, Lib.require_true _ thresh, Lib.ok_bind]
      split
      · next stranger => exact absurd met stranger
      · split
        · next unaccounted => cases accounts.symm.trans unaccounted
        · exact ⟨_, rfl⟩
    · exact ⟨_, rfl⟩
  obtain ⟨h', run⟩ := succeeds
  rw [run, (noteMsgInfo_eq run).1]

section Part

variable {addr : Addr} {arrived grants out : List Packet} {m : OutboundMsgState}
  (inv : RecvInv (h.rcv.side env.cfg addr arrived grants)) (fits : Fits env.cfg addr arrived p out m)

include inv in
theorem tabled_of_inv : h.rcv.Tabled := fun id inside => inv.live id (List.mem_toFinset.mpr inside)

include inv fits

theorem informed_of_found (inside : p.uniqReqId ∈ h.rcv.inbound.msgs) (all : env.cfg.unsolicitedThreshBytes = -1) :
    (h.rcv.msg p.uniqReqId).receivedMsgInfo = true := by
  have table := tabled_of_inv inv _ inside
  by_contra ignorant
  rw [Bool.not_eq_true] at ignorant
  obtain ⟨-, silent⟩ := inv.quiet _ table ignorant
  obtain ⟨q, member, of, -⟩ := inv.first _ table
  have unscheduled : m.isScheduled = false := by
    by_contra scheduled
    exact fits.thresh_of_scheduled.2 (by simpa using scheduled) all
  have told := (fits.announced unscheduled (List.mem_append_left _ member) (of.trans fits.name) (inv.known q member)).2
  have untold := silent q member of
  omega

theorem findOrAddInbound_succeeds (plain : p.hdr.msgType = .reply → p.hdr.creditReq = 0) :
    h.findOrAddInbound env p = .ok { h with rcv := h.rcv.findOrAdd p } := by
  have succeeds : ∃ h', h.findOrAddInbound env p = .ok h' := by
    unfold findOrAddInbound Receiver.findInbound assert
    dsimp only
    by_cases inside : p.uniqReqId ∈ h.rcv.inbound.msgs
    · rw [if_pos inside]
      dsimp only
      rw [Lib.require_true _ (informed_of_found inv fits inside), Lib.ok_bind]
      exact ⟨_, rfl⟩
    · rw [if_neg inside]
      dsimp only
      split
      · next told =>
        rw [Lib.require_true _ (fits.type_of_told plain told), Lib.ok_bind]
        exact ⟨_, rfl⟩
      · next untold =>
        have type : p.hdr.msgType = .request ∨ p.hdr.msgType = .reply := by
          by_contra other
          have notData : p.isData = false := by
            unfold Packet.isData
            simpa using not_or.mp other
          have told := fits.self.2.2.2
          rw [notData, Bool.and_false, if_neg Bool.false_ne_true] at told
          have := fits.ok.total_pos
          omega
        rw [Lib.require_true _ type, Lib.ok_bind]
        exact ⟨_, rfl⟩
  obtain ⟨h', run⟩ := succeeds
  rw [run, findOrAddInbound_eq run]

theorem findOrAddInbound_fails (plain : ∀ q ∈ arrived, q.hdr.msgType = .reply → q.hdr.creditReq = 0)
    (reply : p.hdr.msgType = .reply) (told : 0 < p.hdr.creditReq) : h.findOrAddInbound env p ≠ .ok h' := by
  have data : p.isData = true := Packet.isData_of (Or.inr reply)
  have outside : p.uniqReqId ∉ h.rcv.inbound.msgs := by
    intro inside
    obtain ⟨q, member, of, -⟩ := inv.first _ (tabled_of_inv inv _ inside)
    have old : q ∈ arrived ++ [p] := List.mem_append_left _ member
    obtain ⟨dataQ, toldQ⟩ :=
      fits.announced ((fits.announces_iff data).mp told) old (of.trans fits.name) (inv.known q member)
    have alike := (fits.dataHdr (mem_dataOf.mpr ⟨old, dataQ, of.trans fits.name⟩)).msgType.trans
      (fits.dataHdr (fits.self_mem data)).msgType.symm
    have untold := plain q member (alike.trans reply)
    omega
  intro run
  unfold findOrAddInbound Receiver.findInbound assert at run
  dsimp only at run
  rw [if_neg outside] at run
  dsimp only at run
  rw [if_pos told] at run
  simp only [Lib.bind_eq_ok, Lib.require_eq_ok, reply, reduceCtorEq, or_self, false_and, exists_false] at run

omit fits in
theorem requested_of_inv : h.rcv.creditDataGranted ≤ h.rcv.creditDataRequestRcvd := by
  have requested : h.rcv.creditDataRequestRcvd = _ := inv.requested
  have granted : h.rcv.creditDataGranted = _ := inv.dataGranted
  rw [requested, granted]
  apply Store.total_le_total
  intro id inside
  have := (inv.obj id inside).granted_le
  omega

omit fits in
theorem side_takeIn_of_inv (met : p.src ∈ h.rcv.senderState.keys) :
    (h.rcv.takeIn p).side env.cfg addr (arrived ++ [p]) grants = (h.rcv.side env.cfg addr arrived grants).arrive p := by
  apply Receiver.side_takeIn env.cfg (tabled_of_inv inv) _ met
  unfold Receiver.current
  split
  · next inside => exact inv.remote_met (tabled_of_inv inv _ inside)
  · exact met

omit fits in
theorem accounts_takeIn (met : p.src ∈ h.rcv.senderState.keys) (data : p.isData = true) :
    (h.rcv.takeIn p).creditReplenished = h.rcv.creditReplenished + p.wireCost ∧
      (h.rcv.takeIn p).creditGranted = h.rcv.creditGranted + (h.rcv.current p).debit p := by
  have side := side_takeIn_of_inv inv met
  have refund : p.refund = p.wireCost := if_pos data
  have current : (h.rcv.side env.cfg addr arrived grants).current p = h.rcv.current p := Receiver.current_side ..
  rw [← refund, ← current]
  exact ⟨congrArg RecvSide.replenished side, congrArg RecvSide.granted side⟩

theorem takes_iff (met : p.src ∈ h.rcv.senderState.keys) (data : p.isData = true) :
    (∃ h', ({ h with rcv := (h.rcv.findOrAdd p).noteFirst p } : Host).receivedData env p p.uniqReqId = .ok h') ↔
      env.cfg.accountUnsched = true ∧
        h.rcv.creditReplenished + p.wireCost ≤ h.rcv.creditGranted + (h.rcv.current p).debit p := by
  have all : h.rcv.takeIn p = ((h.rcv.findOrAdd p).noteFirst p).takeData p := if_pos data
  have side := side_takeIn_of_inv inv met
  have after := inv.arrive fits met
  rw [← side] at after
  have table : p.uniqReqId ∈ (h.rcv.takeIn p).inboundObjs.keys :=
    after.live _ (List.mem_toFinset.mpr (mem_takeIn ..))
  have obj := after.obj _ table
  have balance := after.balance
  obtain ⟨replenished, granted⟩ := accounts_takeIn inv met data
  have known : p.src ∈ ((h.rcv.findOrAdd p).noteFirst p).senderState.keys := by
    rw [Receiver.senders_noteFirst, (Receiver.findOrAdd_rest _ p).1]
    exact met
  have inside : p.uniqReqId ∈ ((h.rcv.findOrAdd p).noteFirst p).inbound.msgs := by
    have there := mem_takeIn h.rcv p
    rw [all] at there
    exact there
  rw [← replenished, ← granted, all]
  rw [all] at obj balance
  exact receivedData_succeeds_iff known inside (fits.payload_pos data).1 balance obj

omit inv in
theorem dispatch_of_part (single : p.isSingleReply = false) : h.dispatch env p = (do
    let h ← h.findOrAddInbound env p
    if 0 < p.hdr.creditReq ∧ (h.rcv.msg p.uniqReqId).receivedMsgInfo = false then
      let h ← h.noteMsgInfo env p p.uniqReqId
      if p.hdr.msgType = .grantReq then
        assert .recv "msg_state->data_bytes_granted_ == 0" ((h.rcv.msg p.uniqReqId).dataBytesGranted = 0)
        return h
      else
        assert .recv "msg_state->data_bytes_granted_ > 0" (0 < (h.rcv.msg p.uniqReqId).dataBytesGranted)
        let h ← h.receivedData env p p.uniqReqId
        h.r2p2Recv env p
    else
      assert .recv "is_data_pkt" (p.hdr.msgType = .request ∨ p.hdr.msgType = .reply)
      assert .recv "r2p2_hdr->credit() == 0" (p.hdr.credit = 0)
      let h ← h.receivedData env p p.uniqReqId
      h.r2p2Recv env p) := by
  have credit := fits.self.1
  rw [dispatch_eq, single, if_neg Bool.false_ne_true, if_neg (by omega)]

theorem noted_of_learns (met : p.src ∈ h.rcv.senderState.keys) (plain : p.hdr.msgType = .reply → p.hdr.creditReq = 0)
    (accounts : 0 < p.hdr.unsolCredit → env.cfg.accountUnsched = true) (learns : (h.rcv.current p).learns p = true) :
    ({ h with rcv := h.rcv.findOrAdd p } : Host).noteMsgInfo env p p.uniqReqId =
      .ok { h with rcv := (h.rcv.findOrAdd p).note p } := by
  obtain ⟨states, -, -, -, requested, granted⟩ := Receiver.findOrAdd_rest h.rcv p
  obtain ⟨told, ignorant⟩ := (InboundMsgState.learns_iff _ p).mp learns
  have current : (h.rcv.side env.cfg addr arrived grants).current p = h.rcv.current p := Receiver.current_side ..
  have msg : (h.rcv.findOrAdd p).msg p.uniqReqId = h.rcv.current p := Receiver.msg_findOrAdd (tabled_of_inv inv)
  apply noteMsgInfo_succeeds fits.self.1 (fits.type_of_told plain told)
  · change (h.rcv.findOrAdd p).creditDataGranted ≤ (h.rcv.findOrAdd p).creditDataRequestRcvd
    rw [granted, requested]
    exact requested_of_inv inv
  · intro unsol
    obtain ⟨d, -, -, credit, zero⟩ := fits.unsol
    have unscheduled : m.isScheduled = false := by
      by_contra scheduled
      rw [zero.mp (by simpa using scheduled), Lib.Framing.wire_zero] at credit
      omega
    have remote := (inv.current_first fits).2.2
    have ok : ObjOk arrived grants p.uniqReqId _ := inv.current_ok fits
    -- a message that is known had announced itself with its first packet
    have unknown : dataOf p.uniqReqId arrived = [] := by
      refine List.filter_eq_nil_iff.mpr fun q member => ?_
      simp only [Bool.and_eq_true, beq_iff_eq, not_and]
      intro data of
      have known : p.uniqReqId ∈ (h.rcv.side env.cfg addr arrived grants).objs.keys := of ▸ (inv.arrived q member).2.1
      have learns' : ((h.rcv.side env.cfg addr arrived grants).current p).learns p = true := by
        rw [current]; exact learns
      have := (inv.learns_known fits known learns').2
      omega
    rw [current] at remote ok
    change ((h.rcv.findOrAdd p).msg p.uniqReqId).dataBytesReceived = 0 ∧ _ ∧
      ((h.rcv.findOrAdd p).msg p.uniqReqId).remoteAddr ∈ (h.rcv.findOrAdd p).senderState.keys ∧ _
    rw [msg, states, remote, ok.received, unknown]
    exact ⟨rfl, fits.thresh_of_scheduled.1 unscheduled, met, accounts unsol⟩

theorem books (met : p.src ∈ h.rcv.senderState.keys) (handled : ∃ rpc, h.rpc.recvPkt env.cfg h.thisAddr p = .ok rpc)
    (data : p.isData = true) (pays : h.Pays env p) :
    ∃ h', (({ h with rcv := (h.rcv.findOrAdd p).noteFirst p } : Host).receivedData env p p.uniqReqId >>= fun h =>
      h.r2p2Recv env p) = .ok h' := by
  apply Lib.bind_succeeds ((takes_iff inv fits met data).mpr ⟨pays.accounts, pays.lent⟩)
  intro h2 taken
  obtain ⟨rcv, rfl, -⟩ := receivedData_eq taken
  exact r2p2Recv_succeeds handled

/-- What an announcement finds granted: nothing if it asks for everything, or else what the message took for itself. -/
theorem granted_of_learns (learns : (h.rcv.current p).learns p = true) :
    (p.hdr.msgType = .grantReq → (((h.rcv.findOrAdd p).note p).msg p.uniqReqId).dataBytesGranted = 0) ∧
      (p.isData = true → 0 < (((h.rcv.findOrAdd p).note p).msg p.uniqReqId).dataBytesGranted) := by
  obtain ⟨told, ignorant⟩ := (InboundMsgState.learns_iff _ p).mp learns
  have current : (h.rcv.side env.cfg addr arrived grants).current p = h.rcv.current p := Receiver.current_side ..
  have ok : ObjOk arrived grants p.uniqReqId _ := inv.current_ok fits
  rw [current] at ok
  have nothing := (ok.idle ignorant).2.2
  have noted : ((h.rcv.findOrAdd p).note p).msg p.uniqReqId = (h.rcv.current p).noted p := by
    rw [← Receiver.msg_findOrAdd (tabled_of_inv inv)]
    unfold Receiver.note
    dsimp only
    split <;> exact Store.get_modify_self ..
  obtain ⟨d, -, unsolData, unsol, zero⟩ := fits.unsol
  rw [noted]
  constructor
  · intro req
    have notData : p.isData = false := by
      unfold Packet.isData
      rw [req]
      rfl
    have scheduled : m.isScheduled = true := by
      by_contra unscheduled
      have := (fits.announced (by simpa using unscheduled) (List.mem_append_right _ (List.mem_singleton_self p))
        fits.name fits.kind).1
      exact nomatch notData.symm.trans this
    have none : ¬ 0 < p.hdr.unsolCredit := by
      rw [unsol, zero.mp scheduled, Lib.Framing.wire_zero]
      omega
    exact (if_neg none).trans nothing
  · intro data
    have pos : 0 < d := by
      have unscheduled := (fits.announces_iff data).mp told
      refine Nat.pos_of_ne_zero fun none => ?_
      exact nomatch unscheduled.symm.trans (zero.mpr none)
    have wire := ethernet.wire_pos pos
    have some_credit : 0 < p.hdr.unsolCredit := by omega
    have granted : ((h.rcv.current p).noted p).dataBytesGranted = p.hdr.unsolCreditData.toNat := if_pos some_credit
    omega

theorem dispatch_succeeds_iff (met : p.src ∈ h.rcv.senderState.keys) (single : p.isSingleReply = false)
    (plain : ∀ q ∈ arrived, q.hdr.msgType = .reply → q.hdr.creditReq = 0)
    (handled : ∃ rpc, h.rpc.recvPkt env.cfg h.thisAddr p = .ok rpc) :
    (∃ h', h.dispatch env p = .ok h') ↔ (p.isData = true → h.Pays env p) := by
  have credit := fits.self.1
  have grantReq : p.isData = true → ¬ p.hdr.msgType = .grantReq := by
    intro data req
    unfold Packet.isData at data
    rw [req] at data
    cases data
  rw [dispatch_of_part fits single]
  constructor
  · rintro ⟨h', run⟩ data
    simp only [Lib.bind_eq_ok] at run
    obtain ⟨h1, found, run⟩ := run
    have quiet : p.hdr.msgType = .reply → p.hdr.creditReq = 0 := by
      intro reply
      by_contra told
      exact findOrAddInbound_fails inv fits plain reply (Nat.pos_of_ne_zero told) found
    obtain rfl := findOrAddInbound_eq found
    have taken : ∃ h2, ({ h with rcv := (h.rcv.findOrAdd p).noteFirst p } : Host).receivedData env p p.uniqReqId =
      .ok h2 := by
      split at run
      · next learns =>
        have first : (h.rcv.findOrAdd p).noteFirst p = (h.rcv.findOrAdd p).note p :=
          if_pos ((InboundMsgState.learns_iff ..).mpr learns)
        simp only [Lib.bind_eq_ok] at run
        obtain ⟨h2, informed, run⟩ := run
        obtain ⟨rfl, -⟩ := noteMsgInfo_eq informed
        rw [if_neg (grantReq data)] at run
        simp only [Lib.bind_eq_ok] at run
        obtain ⟨-, -, h3, taken, -⟩ := run
        rw [first]
        exact ⟨h3, taken⟩
      · next known =>
        have first : (h.rcv.findOrAdd p).noteFirst p = h.rcv.findOrAdd p :=
          if_neg fun learns => known ((InboundMsgState.learns_iff ..).mp learns)
        simp only [Lib.bind_eq_ok] at run
        obtain ⟨-, -, -, -, h2, taken, -⟩ := run
        rw [first]
        exact ⟨h2, taken⟩
    obtain ⟨accounts, lent⟩ := (takes_iff inv fits met data).mp taken
    exact ⟨accounts, quiet, lent⟩
  · intro pays
    have quiet : p.hdr.msgType = .reply → p.hdr.creditReq = 0 := fun reply =>
      (pays (Packet.isData_of (Or.inr reply))).plain reply
    have msg : (h.rcv.findOrAdd p).msg p.uniqReqId = h.rcv.current p := Receiver.msg_findOrAdd (tabled_of_inv inv)
    rw [findOrAddInbound_succeeds inv fits quiet, Lib.ok_bind]
    by_cases learns : (h.rcv.current p).learns p = true
    · have accounts : 0 < p.hdr.unsolCredit → env.cfg.accountUnsched = true := by
        intro unsol
        obtain ⟨d, -, -, paid, zero⟩ := fits.unsol
        have unscheduled : m.isScheduled = false := by
          by_contra scheduled
          rw [zero.mp (by simpa using scheduled), Lib.Framing.wire_zero] at paid
          omega
        have data := (fits.announced unscheduled (List.mem_append_right _ (List.mem_singleton_self p))
          fits.name fits.kind).1
        exact (pays data).accounts
      have told := (InboundMsgState.learns_iff _ p).mp learns
      obtain ⟨none, some_granted⟩ := granted_of_learns inv fits learns
      have first : (h.rcv.findOrAdd p).noteFirst p = (h.rcv.findOrAdd p).note p := if_pos (by rw [msg]; exact learns)
      rw [if_pos ⟨told.1, by rw [msg]; exact told.2⟩, noted_of_learns inv fits met quiet accounts learns, Lib.ok_bind]
      split
      · next req =>
        unfold assert
        rw [Lib.require_true _ (none req), Lib.ok_bind]
        exact ⟨_, rfl⟩
      · next data =>
        have isData : p.isData = true := Packet.isData_of (Or.inl ((fits.type_of_told quiet told.1).resolve_left data))
        unfold assert
        rw [Lib.require_true _ (some_granted isData), Lib.ok_bind, ← first]
        exact books inv fits met handled isData (pays isData)
    · have first : (h.rcv.findOrAdd p).noteFirst p = h.rcv.findOrAdd p := if_neg (by rw [msg]; exact learns)
      have isData : p.isData = true := by
        by_contra notData
        rw [Bool.not_eq_true] at notData
        have told := fits.self.2.2.2
        rw [notData, Bool.and_false, if_neg Bool.false_ne_true] at told
        have total := fits.ok.total_pos
        have current : (h.rcv.side env.cfg addr arrived grants).current p = h.rcv.current p := Receiver.current_side ..
        have ok : ObjOk arrived grants p.uniqReqId _ := inv.current_ok fits
        rw [current] at ok
        -- the message knows its size from a packet that was not this one
        have info : (h.rcv.current p).receivedMsgInfo = true := by
          by_contra ignorant
          exact learns ((InboundMsgState.learns_iff _ p).mpr ⟨by omega, by simpa using ignorant⟩)
        obtain ⟨q, member, of, pos, -⟩ := ok.informed info
        exact nomatch notData.symm.trans (fits.not_learned_twice member (of.trans fits.name) (inv.known q member) pos)
      have type : p.hdr.msgType = .request ∨ p.hdr.msgType = .reply := by
        unfold Packet.isData at isData
        simpa using isData
      rw [if_neg fun h => learns ((InboundMsgState.learns_iff _ p).mpr ⟨h.1, by rw [← msg]; exact h.2⟩)]
      unfold assert
      rw [Lib.require_true _ type, Lib.ok_bind, Lib.require_true _ credit, Lib.ok_bind, ← first]
      exact books inv fits met handled isData (pays isData)

end Part

end Host

end PhantomPass
