import PhantomPass.Refinement.Select

/-! The rest of send_data: the packet that goes is one of the message chosen, and
all of send_data is a run of the sending half. -/

set_option autoImplicit false

namespace PhantomPass

open Lib (RoundRobin Store)

namespace Sender

variable {s s' : Sender} {addr : Addr} {id : UniqReqId}

theorem affords_iff (nonneg : 0 ≤ (s.rcvr addr).availCreditBytes) :
    s.Affords addr id ↔ (s.msg id).nextCost ≤ (s.rcvr addr).availCreditBytes := by
  unfold Affords toUInt64 OutboundMsgState.nextCost
  rw [if_pos nonneg, nextPktBytes_eq, ← Int.ofNat_le, Int.toNat_of_nonneg nonneg]

/-- A message whose next packet has left: its receiver's queue drops it with the last one. -/
structure Transmits (id : UniqReqId) (s s' : Sender) : Prop where
  outbound : s'.outbound = s.outbound.modify id OutboundMsgState.afterPacket
  inactive : s'.outboundInactive = s.outboundInactive
  remotes : s'.remotes.keys = s.remotes.keys
  credit : ∀ addr, (s'.rcvr addr).availCreditBytes = (s.rcvr addr).availCreditBytes -
    if addr = (s.msg id).remoteAddr then (s.msg id).nextCost else 0
  queue : ∀ addr ∈ s.remotes.keys, (s'.rcvr addr).outMsgs.msgs =
    if addr = (s.msg id).remoteAddr ∧ (s.msg id).unsentBytes - (s.msg id).nextPayload = 0 then
      (s.rcvr addr).outMsgs.msgs.erase id
    else (s.rcvr addr).outMsgs.msgs

namespace Transmits

theorem msg (transmits : Transmits id s s') (other : UniqReqId) :
    s'.msg other = if other = id then (s.msg id).afterPacket else s.msg other := by
  unfold Sender.msg
  rw [transmits.outbound]
  exact Store.get_modify s.outbound id other OutboundMsgState.afterPacket

theorem pool (transmits : Transmits id s s') (known : (s.msg id).remoteAddr ∈ s.remotes.keys) :
    s'.pool = Function.update s.pool (s.msg id).remoteAddr (s.pool (s.msg id).remoteAddr - (s.msg id).nextCost) := by
  funext addr
  unfold Sender.pool
  rw [transmits.remotes, transmits.credit]
  by_cases same : addr = (s.msg id).remoteAddr
  · subst same; rw [Function.update_self, if_pos known, if_pos known, if_pos rfl]
  · rw [Function.update_of_ne same, if_neg same, sub_zero]

theorem queues (transmits : Transmits id s s') (queues : s.Queues) (inside : id ∈ s.outbound.keys)
    (active : (s.msg id).active = true) (unsent : 0 < (s.msg id).unsentBytes) : s'.Queues := by
  have msg := transmits.msg
  have keys : s'.outbound.keys = s.outbound.keys := by rw [transmits.outbound]; rfl
  constructor
  case inactive_nodup => rw [transmits.inactive]; exact queues.inactive_nodup
  case inactive =>
    intro other
    rw [transmits.inactive, queues.inactive other, keys, msg]
    by_cases same : other = id
    · subst same
      rw [if_pos rfl]
      rfl
    · rw [if_neg same]
  case queue_nodup =>
    intro addr known
    rw [transmits.remotes] at known
    rw [transmits.queue addr known]
    split
    · exact (queues.queue_nodup addr known).erase id
    · exact queues.queue_nodup addr known
  case queue =>
    intro addr known other
    rw [transmits.remotes] at known
    have old := queues.queue addr known other
    rw [transmits.queue addr known, keys, msg]
    by_cases same : other = id
    · subst same
      rw [if_pos rfl]
      have after : (s.msg other).afterPacket.unsentBytes = (s.msg other).unsentBytes - (s.msg other).nextPayload := rfl
      have still : (s.msg other).afterPacket.active = true := active
      have there : (s.msg other).afterPacket.remoteAddr = (s.msg other).remoteAddr := rfl
      rw [after, still, there]
      by_cases done : (s.msg other).unsentBytes - (s.msg other).nextPayload = 0
      · by_cases towards : addr = (s.msg other).remoteAddr
        · rw [if_pos ⟨towards, done⟩, (queues.queue_nodup addr known).mem_erase_iff]
          simp [done]
        · rw [if_neg fun h => towards h.1, old]
          simp [done, Ne.symm towards]
      · rw [if_neg fun h => done h.2, old]
        simp [inside, active, unsent, Nat.pos_of_ne_zero done]
    · rw [if_neg same]
      split
      · rw [(queues.queue_nodup addr known).mem_erase_iff, old]
        simp [same]
      · exact old
  case remote =>
    intro other member
    rw [keys] at member
    rw [transmits.remotes, msg]
    split
    · exact queues.remote id inside
    · exact queues.remote other member

end Transmits

end Sender

namespace Host

variable {env : Env} {h h' : Host} {id : UniqReqId} {ps : PolicyState} {addr : Addr}

theorem rcvr_spend (h : Host) (id : UniqReqId) (addr : Addr) : (h.spend id).snd.rcvr addr =
    if addr = (h.snd.msg id).remoteAddr then { h.snd.rcvr addr with
      availCreditBytes := (h.snd.rcvr addr).availCreditBytes - nextPktBytes (h.snd.msg id).unsentBytes
      availCreditDataBytes := (h.snd.rcvr addr).availCreditDataBytes - (h.snd.msg id).nextPayload }
    else h.snd.rcvr addr := by
  refine (Store.get_modify h.snd.remotes (h.snd.msg id).remoteAddr addr fun rs => { rs with
    availCreditBytes := rs.availCreditBytes - nextPktBytes (h.snd.msg id).unsentBytes
    availCreditDataBytes := rs.availCreditDataBytes - (h.snd.msg id).nextPayload }).trans ?_
  split
  · next same => rw [same]; rfl
  · rfl

theorem transmits_spend (h : Host) (id : UniqReqId) {s' : Sender} (outbound : s'.outbound = (h.spend id).snd.outbound)
    (inactive : s'.outboundInactive = h.snd.outboundInactive) (remotes : s'.remotes.keys = h.snd.remotes.keys)
    (credit : ∀ addr, (s'.rcvr addr).availCreditBytes = ((h.spend id).snd.rcvr addr).availCreditBytes)
    (queue : ∀ addr ∈ h.snd.remotes.keys, (s'.rcvr addr).outMsgs.msgs =
      if addr = (h.snd.msg id).remoteAddr ∧ (h.snd.msg id).unsentBytes - (h.snd.msg id).nextPayload = 0 then
        (h.snd.rcvr addr).outMsgs.msgs.erase id
      else (h.snd.rcvr addr).outMsgs.msgs) : Sender.Transmits id h.snd s' where
  outbound := outbound
  inactive := inactive
  remotes := remotes
  credit addr := by
    rw [credit, rcvr_spend]
    split
    · rfl
    · rw [sub_zero]
  queue := queue

theorem outMsgs_spend (h : Host) (id : UniqReqId) (addr : Addr) :
    ((h.spend id).snd.rcvr addr).outMsgs = (h.snd.rcvr addr).outMsgs := by
  rw [rcvr_spend]
  split <;> rfl

/-- The packet of a message leaves, and the message with its last one. -/
structure TransmitsPkt (env : Env) (ps : PolicyState) (id : UniqReqId) (h h' : Host) (p : Packet) : Prop where
  emits : Emits ((h.snd.msg id).packetHdr env.cfg ps) (h.snd.msg id).nextPayload (h.snd.msg id).remoteAddr h p
  sender : Sender.Transmits id h.snd h'.snd
  rest : h' = { (h.spend id).emit p with snd := h'.snd }
  affordable : (h.snd.msg id).nextCost ≤ (h.snd.rcvr (h.snd.msg id).remoteAddr).availCreditBytes

theorem transmit_run (queues : h.snd.Queues) (known : (h.snd.msg id).remoteAddr ∈ h.snd.remotes.keys)
    (nonneg : 0 ≤ (h.snd.rcvr (h.snd.msg id).remoteAddr).availCreditBytes) (unsent : 0 < (h.snd.msg id).unsentBytes)
    (run : h.transmit env ps id = .ok h') : ∃ p, TransmitsPkt env ps id h h' p := by
  have len : (h.snd.msg id).nextPayload = min ethernet.mss (h.snd.msg id).unsentBytes :=
    OutboundMsgState.nextPayload_eq _
  have mss : ethernet.mss = maxR2p2Payload := rfl
  unfold transmit at run
  dsimp only at run
  simp only [Lib.bind_eq_ok] at run
  obtain ⟨_, check, h1, forward, -, -, finish⟩ := run
  have affordable : (h.snd.msg id).nextCost ≤ (h.snd.rcvr (h.snd.msg id).remoteAddr).availCreditBytes := by
    unfold checkTransmit assert at check
    simp only [Lib.bind_eq_ok, Lib.require_eq_ok] at check
    exact (Sender.affords_iff nonneg).mp check.choose_spec.1
  obtain ⟨p, emits, rfl⟩ := forwardToTransport_ok forward
    (by have := ethernet.mss_pos; omega) (by omega)
  refine ⟨p, ⟨emits.carries, emits.seqno⟩, ?_, ?_, affordable⟩
  -- the last packet takes the message out of its queue
  · by_cases done : (h.snd.msg id).unsentBytes - (h.snd.msg id).nextPayload = 0
    · rw [if_pos done] at finish
      unfold dropSent at finish
      cases removed : (((h.spend id).emit p).snd.rcvr (h.snd.msg id).remoteAddr).outMsgs.remove id with
      | none => rw [removed] at finish; cases finish
      | some outMsgs =>
        rw [removed] at finish
        simp only [Lib.pure_eq_ok] at finish
        subst finish
        refine transmits_spend h id rfl rfl rfl (fun addr => ?_) fun addr there => ?_
        · dsimp only
          rw [Sender.rcvr_modifyRcvr]
          split
          · next same => rw [same]; rfl
          · rfl
        · dsimp only
          rw [Sender.rcvr_modifyRcvr]
          by_cases same : addr = (h.snd.msg id).remoteAddr
          · have nodup : ((h.spend id).snd.rcvr (h.snd.msg id).remoteAddr).outMsgs.msgs.Nodup := by
              rw [outMsgs_spend]
              exact queues.queue_nodup _ known
            have left := (RoundRobin.remove_spec nodup removed).2
            change outMsgs.msgs = ((h.spend id).snd.rcvr _).outMsgs.msgs.erase id at left
            rw [outMsgs_spend] at left
            rw [if_pos same, if_pos ⟨same, done⟩, same]
            exact left
          · rw [if_neg same, if_neg fun h => same h.1]
            exact congrArg RoundRobin.msgs (outMsgs_spend h id addr)
    · rw [if_neg done, Lib.pure_eq_ok] at finish
      subst finish
      refine transmits_spend h id rfl rfl rfl (fun _ => rfl) fun addr _ => ?_
      rw [if_neg fun h => done h.2]
      exact congrArg RoundRobin.msgs (outMsgs_spend h id addr)
  · by_cases done : (h.snd.msg id).unsentBytes - (h.snd.msg id).nextPayload = 0
    · rw [if_pos done] at finish
      unfold dropSent at finish
      split at finish
      · cases finish
      · simp only [Lib.pure_eq_ok] at finish
        subst finish
        rfl
    · rw [if_neg done, Lib.pure_eq_ok] at finish
      subst finish
      rfl

def Considered (h : Host) : Prop := h.snd.outboundInactive.msgs = []

theorem Considered.chooses {snd : Sender} (considered : h.Considered) (chooses : Sender.Chooses h.snd snd) :
    ({ h with snd } : Host).Considered := (congrArg RoundRobin.msgs chooses.inactive).trans considered

theorem transmit_ok (ok : SendOk env.cfg h) (considered : h.Considered) (known : addr ∈ h.snd.remotes.keys)
    (can : (h.snd.rcverPolicyStates addr).canSend = true) (pick : h.snd.PickOk addr (h.snd.rcverPolicyStates addr))
    (chosen : (h.snd.rcverPolicyStates addr).msgState = some id) (run : h.transmit env ps id = .ok h') :
    Sends env.cfg h h' ∧ h'.Considered ∧ ∃ p, h'.sent = h.sent ++ [p] := by
  rcases pick with ⟨cannot, -⟩ | ⟨-, best, queued, state, -, -, prior⟩
  · rw [can] at cannot; cases cannot
  · rw [chosen, Option.some.injEq] at state
    subst state
    obtain ⟨inside, active, unsent, remote⟩ := (ok.queues.queue addr known id).mp queued
    subst remote
    have nonneg : 0 ≤ (h.snd.rcvr (h.snd.msg id).remoteAddr).availCreditBytes := by
      rw [← Sender.pool_eq known]; exact ok.inv.avail_nonneg _
    obtain ⟨p, emits, sender, rest, affordable⟩ := transmit_run ok.queues known nonneg unsent run
    have kind : p.isGrant = false := by
      have type : p.hdr.msgType = if (h.snd.msg id).isRequest then .request else .reply := emits.carries.msgType
      unfold Packet.isGrant
      rw [type]
      split <;> rfl
    have sent : h'.sent = h.sent ++ [p] := by rw [rest]; rfl
    have addr : h'.thisAddr = h.thisAddr := by rw [rest]; rfl
    have rcvd : h'.rcvd = h.rcvd := by rw [rest]; rfl
    have side : h'.sendSide = h.sendSide.transmit id p := by
      unfold sendSide Sender.side
      rw [sender.outbound, sender.pool known, sent, addr, rcvd, List.filter_append]
      simp only [SendSide.transmit, List.filter_cons, kind, Bool.not_false, if_true, List.filter_nil]
      rfl
    -- a message not announced would have been chosen, if its packet could be paid for
    have prior : h.sendSide.Prior id := by
      intro announced other member towards pos quiet
      have active : (h.snd.msg other).active = true := by
        by_contra idle
        have := (ok.queues.inactive other).mpr ⟨member, by simpa using idle⟩
        rw [considered] at this
        simp at this
      have queued : other ∈ (h.snd.rcvr (h.snd.msg id).remoteAddr).outMsgs.msgs :=
        (ok.queues.queue _ known other).mpr ⟨member, active, pos, towards⟩
      by_contra pays
      have afford : h.snd.Affords (h.snd.msg id).remoteAddr other := by
        refine (Sender.affords_iff nonneg).mpr (Int.not_lt.mp ?_)
        rw [← Sender.pool_eq known]
        exact pays
      exact Bool.eq_false_iff.mp quiet (prior announced other queued afford)
    have steps : SendSide.Steps env.cfg h.sendSide h'.sendSide := by
      rw [side]
      refine .single (.transmit id ps p inside active unsent ?_ prior emits.carries)
      change (h.snd.msg id).nextCost ≤ h.snd.pool (h.snd.msg id).remoteAddr
      rw [Sender.pool_eq known]
      exact affordable
    refine ⟨?_, by unfold Considered; rw [sender.inactive]; exact considered, p, sent⟩
    exact {
      thisAddr := addr
      rcv := by rw [rest]; rfl
      rpc := by rw [rest]; rfl
      rcvd := rcvd
      sent := ⟨[p], sent, by simpa using kind⟩
      remotes := sender.remotes
      keys := by rw [sender.outbound]; rfl
      ok := {
        queues := sender.queues ok.queues inside active unsent
        inv := ok.inv.steps steps
        covered := SendInv.covered_steps ok.inv ok.covered steps
        numbered := by
          rw [rest]
          exact ⟨(ok.numbered.emit emits).src, (ok.numbered.emit emits).seqno⟩ }
      steps := steps }

theorem chooses_ok {snd : Sender} (ok : SendOk env.cfg h) (chooses : Sender.Chooses h.snd snd) :
    Sends env.cfg h { h with snd } := by
  have side : ({ h with snd } : Host).sendSide = h.sendSide := chooses.side ..
  have steps : SendSide.Steps env.cfg h.sendSide ({ h with snd } : Host).sendSide := by rw [side]; exact .refl
  exact ⟨rfl, rfl, rfl, rfl, ⟨[], by simp⟩, chooses.remotes,
    by rw [show snd.outbound = h.snd.outbound from chooses.outbound],
    ok.quiet (chooses.queues ok.queues) steps rfl rfl rfl, steps⟩

theorem sendSelected_ok (ok : SendOk env.cfg h) (considered : h.Considered) (run : h.sendSelected env = .ok h') :
    Sends env.cfg h h' ∧ h'.Considered := by
  unfold sendSelected at run
  simp only [Lib.bind_eq_ok] at run
  obtain ⟨s1, update, ⟨selected, s2⟩, select, run⟩ := run
  obtain ⟨chooses1, picks⟩ := Sender.updatePolicyState_ok update
  obtain ⟨chooses2, known⟩ := Sender.selectMsgToSend_ok select picks
  have chooses := chooses1.trans chooses2
  have chosen := chooses_ok ok chooses
  have still : ({ h with snd := s2 } : Host).Considered := considered.chooses chooses
  dsimp only at run
  cases selected with
  | none =>
    simp only [Lib.pure_eq_ok] at run
    subst run
    exact ⟨chosen, still⟩
  | some addr =>
    dsimp only at run
    obtain ⟨here, can, pick⟩ := known addr rfl
    cases state : (s2.rcverPolicyStates addr).msgState with
    | none => rw [state] at run; cases run
    | some id =>
      rw [state] at run
      obtain ⟨sends, considered', -⟩ := transmit_ok chosen.ok still here can pick state run
      exact ⟨chosen.trans sends, considered'⟩

/-- send_data is a run of the sending half that leaves no message unconsidered,
once a receiver is known. -/
theorem sendData_ok {now : Time} (ok : SendOk env.cfg h) (run : h.sendData env now = .ok h') :
    Sends env.cfg h h' ∧ (h.snd.remotes.keys ≠ [] → h'.Considered) := by
  have updated : Sends env.cfg h (h.updateDataBacklog env now) :=
    ⟨rfl, rfl, rfl, rfl, ⟨[], by simp [updateDataBacklog]⟩, rfl, rfl, ⟨ok.queues, ok.inv, ok.covered, ok.numbered.src,
      ok.numbered.seqno⟩, .refl⟩
  unfold sendData at run
  dsimp only at run
  by_cases alone : (h.updateDataBacklog env now).snd.remotes.keys = []
  · rw [if_pos alone, Lib.pure_eq_ok] at run
    subst run
    exact ⟨updated, fun known => absurd alone known⟩
  · rw [if_neg alone] at run
    simp only [Lib.bind_eq_ok] at run
    obtain ⟨h1, announce, run⟩ := run
    obtain ⟨announced, considered⟩ := announce_ok updated.ok announce
    split at run
    · rw [Lib.pure_eq_ok] at run
      subst run
      exact ⟨updated.trans announced, fun _ => considered⟩
    · obtain ⟨sends, considered⟩ := sendSelected_ok announced.ok considered run
      exact ⟨updated.trans (announced.trans sends), fun _ => considered⟩

end Host

end PhantomPass
