import PhantomPass.Hybrid.Host
import PhantomPass.Refinement.Granting

/-! A packet that arrives: what the transport does with it, said once. It passes
a reply up, takes credit, or accounts for a packet of a message. -/

set_option autoImplicit false

namespace PhantomPass

open Lib (RoundRobin Store)

theorem Packet.isData_of {p : Packet} (type : p.hdr.msgType = .request ∨ p.hdr.msgType = .reply) : p.isData = true := by
  unfold Packet.isData
  rcases type with type | type <;> rw [type] <;> rfl

namespace Rpc

def recvPkt (cfg : Config) (thisAddr : Addr) (p : Packet) (rpc : Rpc) : Checked Rpc :=
  match p.hdr.msgType with
  | .request => rpc.handleRequestPkt cfg thisAddr p.hdr p.payload
  | .reply => rpc.handleReplyPkt cfg thisAddr p.hdr p.payload
  | _ => pure rpc

end Rpc

namespace Receiver

variable (r : Receiver) (p : Packet)

def findOrAdd : Receiver :=
  if p.uniqReqId ∈ r.inbound.msgs then r
  else { r with inboundObjs := r.inboundObjs.insert p.uniqReqId (.fresh p), inbound := r.inbound.append p.uniqReqId }

/-- The packet names the size of its message and the credit its sender took. -/
def note : Receiver :=
  let r := { r.modifyMsg p.uniqReqId (·.noted p) with
    creditDataRequestRcvd := r.creditDataRequestRcvd + p.hdr.creditReq }
  if 0 < p.hdr.unsolCredit then r.debit (r.msg p.uniqReqId).remoteAddr p.hdr.unsolCredit else r

def takeData : Receiver := (r.modifyMsg p.uniqReqId (·.received p)).replenish p.src p.wireCost

def noteFirst : Receiver := if (r.msg p.uniqReqId).learns p then r.note p else r

/-- All that a packet of a message changes while the message is not complete. -/
def takeIn : Receiver :=
  if p.isData then ((r.findOrAdd p).noteFirst p).takeData p else (r.findOrAdd p).noteFirst p

end Receiver

namespace Host

variable {env : Env} {h h' : Host} {p : Packet}

/-- What dispatch does with a packet: three ways, in each of which one half of
the host, and the RPC layer with data, is all that changes. -/
inductive Dispatched (env : Env) (p : Packet) (h : Host) : Host → Prop
  | reply (rpc : Rpc) : p.isSingleReply = true → h.rpc.recvPkt env.cfg h.thisAddr p = .ok rpc →
      Dispatched env p h { h with rpc }
  | credit (snd : Sender) : p.isGrant = true → 0 < p.hdr.credit → h.snd.receivedCredit p = .ok snd →
      Dispatched env p h { h with snd }
  | part (rpc : Rpc) (rcv : Receiver) : p.isSingleReply = false → (p.isData = true ∨ p.isCreditReq = true) →
      p.hdr.credit ≤ 0 → h.rpc.recvPkt env.cfg h.thisAddr p = .ok rpc →
      (rcv = h.rcv.takeIn p ∨ ((h.rcv.takeIn p).msg p.uniqReqId).Complete ∧
        (h.rcv.takeIn p).removeInbound p.uniqReqId = .ok rcv) →
      Dispatched env p h { h with rcv, rpc }

theorem findOrAddInbound_eq (run : h.findOrAddInbound env p = .ok h') : h' = { h with rcv := h.rcv.findOrAdd p } := by
  unfold findOrAddInbound assert Receiver.findInbound at run
  dsimp only at run
  unfold Receiver.findOrAdd
  by_cases inside : p.uniqReqId ∈ h.rcv.inbound.msgs
  · simp only [inside, if_true, Lib.bind_eq_ok, Lib.pure_eq_ok] at run
    obtain ⟨-, -, rfl⟩ := run
    simp [inside]
  · rw [if_neg inside]
    simp only [inside, if_false] at run
    split at run <;> simp only [Lib.bind_eq_ok, Lib.pure_eq_ok] at run <;> obtain ⟨-, -, rfl⟩ := run <;> rfl

theorem noteMsgInfo_eq (run : h.noteMsgInfo env p p.uniqReqId = .ok h') :
    h' = { h with rcv := h.rcv.note p } ∧ (p.hdr.msgType = .grantReq ∨ p.hdr.msgType = .request) := by
  unfold noteMsgInfo assert at run
  simp only [Lib.bind_eq_ok, Lib.require_eq_ok, exists_and_left, exists_const] at run
  obtain ⟨-, type, -, run⟩ := run
  refine ⟨?_, type⟩
  unfold Receiver.note
  dsimp only
  split at run
  · next unsol =>
    simp only [Lib.bind_eq_ok, Lib.require_eq_ok, exists_and_left, exists_const] at run
    obtain ⟨-, -, run⟩ := run
    split at run
    · cases run
    · split at run
      · cases run
      · rw [Lib.pure_eq_ok] at run
        subst run
        have objs : (h.rcv.inboundObjs.modify p.uniqReqId fun m =>
            { m with dataBytesExpected := p.hdr.creditReq, receivedMsgInfo := true }).modify p.uniqReqId
              (fun m => { m with dataBytesGranted := p.hdr.unsolCreditData.toNat }) =
            h.rcv.inboundObjs.modify p.uniqReqId (·.noted p) := by
          rw [Store.modify_modify]
          refine Store.modify_congr _ ?_
          unfold InboundMsgState.noted
          rw [if_pos unsol]
        rw [if_pos unsol]
        unfold Receiver.debit Receiver.modifySender Receiver.modifyMsg Receiver.msg
        dsimp only
        simp only [Store.get_modify_self, objs]
        rfl
  · next none =>
    rw [Lib.pure_eq_ok] at run
    subst run
    rw [if_neg none]
    have objs : (h.rcv.inboundObjs.modify p.uniqReqId fun m =>
        { m with dataBytesExpected := p.hdr.creditReq, receivedMsgInfo := true }) =
        h.rcv.inboundObjs.modify p.uniqReqId (·.noted p) := by
      refine Store.modify_congr _ ?_
      unfold InboundMsgState.noted
      rw [if_neg none]
    unfold Receiver.modifyMsg
    dsimp only
    rw [objs]

theorem receivedData_eq (run : h.receivedData env p p.uniqReqId = .ok h') :
    ∃ rcv, h' = { h with rcv } ∧ (rcv = h.rcv.takeData p ∨ ((h.rcv.takeData p).msg p.uniqReqId).Complete ∧
      (h.rcv.takeData p).removeInbound p.uniqReqId = .ok rcv) := by
  unfold receivedData assert at run
  simp only [Lib.bind_eq_ok, Lib.require_eq_ok, exists_and_left, exists_const] at run
  obtain ⟨-, run⟩ := run
  split at run
  · cases run
  · simp only [Lib.bind_eq_ok, Lib.require_eq_ok, exists_and_left, exists_const] at run
    obtain ⟨-, -, -, -, run⟩ := run
    split at run
    · next all =>
      simp only [Lib.bind_eq_ok, Lib.require_eq_ok, Lib.pure_eq_ok, exists_and_left, exists_const] at run
      obtain ⟨info, rcv, removed, rfl⟩ := run
      exact ⟨rcv, rfl, Or.inr ⟨⟨info, all⟩, removed⟩⟩
    · rw [Lib.pure_eq_ok] at run
      exact ⟨_, run.symm, Or.inl rfl⟩

theorem r2p2Recv_eq (run : h.r2p2Recv env p = .ok h') :
    ∃ rpc, h.rpc.recvPkt env.cfg h.thisAddr p = .ok rpc ∧ h' = { h with rpc } := by
  unfold r2p2Recv at run
  unfold Rpc.recvPkt
  cases type : p.hdr.msgType <;>
    simp only [type, Lib.bind_eq_ok, Lib.pure_eq_ok] at run ⊢ <;>
    (obtain ⟨rpc, done, rfl⟩ := run; exact ⟨rpc, done, rfl⟩)

theorem dispatch_eq (env : Env) (p : Packet) (h : Host) : h.dispatch env p =
    (if p.isSingleReply then do
      assert .recv "r2p2_hdr->credit() == 0" (p.hdr.credit = 0)
      h.r2p2Recv env p
    else if 0 < p.hdr.credit then do
      assert .recv "r2p2_hdr->credit_req() == 0" (p.hdr.creditReq = 0)
      assert .recv "r2p2_hdr->msg_type() == GRANT" (p.hdr.msgType = .grant)
      let snd ← h.snd.receivedCredit p
      return { h with snd }
    else do
      let h ← h.findOrAddInbound env p
      if 0 < p.hdr.creditReq ∧ (h.rcv.msg p.uniqReqId).receivedMsgInfo = false then
        let h ← h.noteMsgInfo env p p.uniqReqId
        if p.hdr.msgType = .grantReq then
          assert .recv "msg_state->data_bytes_granted_ == 0" ((h.rcv.msg p.uniqReqId).dataBytesGranted = 0)
          return h
        else
          assert .recv "msg_state->data_bytes_granted_ > 0" (0 < (h.rcv.msg p.uniqReqId).dataBytesGranted)
          let h ← h.receivedData env p p.uniqReqId
          h.r2p2Recv env p
      else
        assert .recv "is_data_pkt" (p.hdr.msgType = .request ∨ p.hdr.msgType = .reply)
        assert .recv "r2p2_hdr->credit() == 0" (p.hdr.credit = 0)
        let h ← h.receivedData env p p.uniqReqId
        h.r2p2Recv env p) := by
  unfold dispatch Packet.isSingleReply Hdr.isSinglePacketMsg
  cases type : p.hdr.msgType <;> simp [type]

theorem dispatch_part {h1 h2 : Host} (single : p.isSingleReply = false) (low : p.hdr.credit ≤ 0)
    (data : p.isData = true) (noted : h1 = { h with rcv := (h.rcv.findOrAdd p).noteFirst p })
    (taken : h1.receivedData env p p.uniqReqId = .ok h2) (handled : h2.r2p2Recv env p = .ok h') :
    Dispatched env p h h' := by
  subst noted
  obtain ⟨rcv, rfl, retired⟩ := receivedData_eq taken
  obtain ⟨rpc, passed, rfl⟩ := r2p2Recv_eq handled
  have all : h.rcv.takeIn p = ((h.rcv.findOrAdd p).noteFirst p).takeData p := if_pos data
  rw [← all] at retired
  exact .part rpc rcv single (Or.inl data) low passed retired

theorem dispatch_cases (run : h.dispatch env p = .ok h') : Dispatched env p h h' := by
  rw [dispatch_eq] at run
  unfold assert at run
  cases single : p.isSingleReply with
  | true =>
    simp only [single, if_true, Lib.bind_eq_ok, Lib.require_eq_ok, exists_and_left, exists_const] at run
    obtain ⟨-, handled⟩ := run
    obtain ⟨rpc, passed, rfl⟩ := r2p2Recv_eq handled
    exact .reply rpc single passed
  | false =>
    simp only [single, Bool.false_eq_true, if_false] at run
    split at run
    · next pos =>
      simp only [Lib.bind_eq_ok, Lib.require_eq_ok, Lib.pure_eq_ok, exists_and_left, exists_const] at run
      obtain ⟨-, type, snd, credited, rfl⟩ := run
      have grant : p.isGrant = true := by unfold Packet.isGrant; rw [type]; rfl
      exact .credit snd grant pos credited
    · next low =>
      have low : p.hdr.credit ≤ 0 := not_lt.mp low
      simp only [Lib.bind_eq_ok] at run
      obtain ⟨h1, found, run⟩ := run
      have added := findOrAddInbound_eq found
      subst added
      split at run
      · next learns =>
        have learns : ((h.rcv.findOrAdd p).msg p.uniqReqId).learns p = true :=
          (InboundMsgState.learns_iff ..).mpr learns
        have first : (h.rcv.findOrAdd p).noteFirst p = (h.rcv.findOrAdd p).note p := if_pos learns
        simp only [Lib.bind_eq_ok] at run
        obtain ⟨h2, informed, run⟩ := run
        obtain ⟨rfl, type⟩ := noteMsgInfo_eq informed
        split at run
        · next req =>
          simp only [Lib.bind_eq_ok, Lib.require_eq_ok, Lib.pure_eq_ok, exists_and_left, exists_const] at run
          obtain ⟨-, rfl⟩ := run
          have notData : p.isData = false := by unfold Packet.isData; rw [req]; rfl
          have creditReq : p.isCreditReq = true := by unfold Packet.isCreditReq; rw [req]; rfl
          have all : h.rcv.takeIn p = (h.rcv.findOrAdd p).note p := by
            unfold Receiver.takeIn
            rw [notData, if_neg Bool.false_ne_true, first]
          have passed : h.rpc.recvPkt env.cfg h.thisAddr p = .ok h.rpc := by unfold Rpc.recvPkt; rw [req]; rfl
          exact .part h.rpc _ single (Or.inr creditReq) low passed (Or.inl all.symm)
        · next req =>
          simp only [Lib.bind_eq_ok, Lib.require_eq_ok, exists_and_left, exists_const] at run
          obtain ⟨-, h3, taken, handled⟩ := run
          have data : p.isData = true := Packet.isData_of (Or.inl (type.resolve_left req))
          exact dispatch_part single low data (by rw [first]) taken handled
      · next known =>
        have knows : ¬ ((h.rcv.findOrAdd p).msg p.uniqReqId).learns p = true := fun learns =>
          known ((InboundMsgState.learns_iff ..).mp learns)
        have first : (h.rcv.findOrAdd p).noteFirst p = h.rcv.findOrAdd p := if_neg knows
        simp only [Lib.bind_eq_ok, Lib.require_eq_ok, exists_and_left, exists_const] at run
        obtain ⟨type, -, h2, taken, handled⟩ := run
        exact dispatch_part single low (Packet.isData_of type) (by rw [first]) taken handled

/-- The host behind noting the packet and both sides' states of its sender. -/
def meets (p : Packet) (st : SenderState) (h : Host) : Host :=
  { h with
    rcvd := h.rcvd ++ [p]
    rcv := { h.rcv with senderState := h.rcv.senderState.insert p.src st }
    snd := h.snd.findOrCreate p.src }

def senderOf (env : Env) (h : Host) (addr : Addr) : SenderState :=
  (h.rcv.senderState.find addr).getD (.new addr env.cfg.maxSrpb)

theorem recv_cases {now : Time} {stamp : Stamp} (run : h.recv env now p stamp = .ok h') :
    ∃ h1 st, h.startPolling env now = .ok h1 ∧ (h1.senderOf env p.src).update env.cfg p stamp = .ok st ∧
      Dispatched env p (h1.meets p st) h' := by
  unfold recv at run
  simp only [Lib.bind_eq_ok] at run
  obtain ⟨-, -, h1, started, -, -, -, -, h2, updated, dispatched⟩ := run
  unfold updateSenderState at updated
  simp only [Lib.bind_eq_ok, Lib.pure_eq_ok] at updated
  obtain ⟨st, window, rfl⟩ := updated
  exact ⟨h1, st, started, window, dispatch_cases dispatched⟩

end Host

end PhantomPass
