import PhantomPass.Granting.TimeSharing
import PhantomPass.Network.Policies
import PhantomPass.Network.Pools

/-! What a sender needs for its messages to leave: with room for a frame in the
pair's budget its announcements go through, and so does the packet that it selects. -/

set_option autoImplicit false

namespace PhantomPass

open Lib (RoundRobin Store)

structure Config.Marks (cfg : Config) : Prop where
  implemented : cfg.Implemented
  data : cfg.ecnCapable = 1 → cfg.senderAlgo ≠ 1

namespace Sender

variable {cfg : Config} {s : Sender} {addr : Addr} {out grants : List Packet} {id : UniqReqId}

theorem selfAllocation_pos {total : ℕ} (some_data : 0 < total) (frame : 1538 ≤ cfg.maxSrpb) (avail : ℤ) :
    0 < (selfAllocation cfg total avail).1 := by
  have full : ∀ space : ℤ, 1538 ≤ space → 0 < addHeaderOverhead (removeHeaderOverhead space) true := by
    intro space large
    have one : 1 ≤ space.tdiv 1538 := Int.le_tdiv_of_mul_le (by decide) (by omega)
    rw [(alloc_full space).1]
    omega
  have needs : 0 < addHeaderOverhead total := by
    rw [addHeaderOverhead_eq]
    exact_mod_cast ethernet.wire_pos some_data
  have space : 1538 ≤ max (cfg.maxSrpb - avail) maxEthernetFrameOnWire := le_max_right _ _
  unfold selfAllocation
  dsimp only
  split_ifs
  · exact full _ space
  · exact needs
  · exact full _ space
  · exact full _ frame

theorem selfCredit_succeeds (frame : 1538 ≤ cfg.maxSrpb) (queues : s.Queues)
    (inv : SendInv cfg (s.side addr out grants))
    (inside : id ∈ s.outboundInactive.msgs) : ∃ s', selfCredit cfg id s = .ok s' := by
  obtain ⟨member, -⟩ := (queues.inactive id).mp inside
  have some_data : 0 < (s.msg id).totalBytes := (inv.msg id member).total_pos
  have nonneg : 0 ≤ (s.rcvr (s.msg id).remoteAddr).availCreditBytes := by
    rw [← pool_eq (queues.remote id member)]
    exact inv.avail_nonneg _
  unfold selfCredit
  dsimp only
  split
  · refine Lib.bind_succeeds ⟨_, Lib.require_true _ (selfAllocation_pos some_data frame _)⟩ fun _ _ => ?_
    exact Lib.bind_succeeds ⟨_, Lib.require_true _ nonneg⟩ fun _ _ => ⟨_, rfl⟩
  · exact ⟨_, rfl⟩

theorem selfCreditLoop_succeeds {turns : ℕ} (frame : 1538 ≤ cfg.maxSrpb) (queues : s.Queues)
    (inv : SendInv cfg (s.side addr out grants)) (within : turns ≤ s.outboundInactive.size) :
    ∃ s', selfCreditLoop cfg turns s = .ok s' := by
  -- the cursor moves on, and a turn leaves all it needs to the later ones
  induction turns generalizing s with
  | zero => exact ⟨s, rfl⟩
  | succ turns ih =>
    unfold selfCreditLoop
    cases step : s.outboundInactive.next with
    | none =>
      have size : s.outboundInactive.size = 0 := List.length_eq_zero_iff.mpr (RoundRobin.next_eq_none.mp step)
      omega
    | some turn =>
      obtain ⟨id, inactive⟩ := turn
      obtain ⟨msgs, behind, front, -⟩ := RoundRobin.next_spec step
      have inside : id ∈ inactive.msgs := by
        rw [msgs, ← RoundRobin.mem_upcoming, front]
        exact List.mem_cons_self
      have moved : SendInv cfg (Sender.side { s with outboundInactive := inactive } addr out grants) := inv
      refine Lib.bind_succeeds (selfCredit_succeeds frame (queues.advance msgs) moved inside) fun s1 credited => ?_
      obtain ⟨credits, -⟩ := selfCredit_ok (queues.advance msgs) moved inside credited
      have size : s1.outboundInactive.size = s.outboundInactive.size :=
        congrArg List.length (credits.inactive.trans msgs)
      exact ih credits.queues (inv.steps credits.steps) (by omega)

end Sender

namespace Host

open Sender (Works)

variable {env : Env} {h h' : Host} {id : UniqReqId} {addr : Addr}

structure Sendable (cfg : Config) (h : Host) : Prop where
  ok : SendOk cfg h
  requested : h.snd.Requested

theorem Sendable.sends {cfg : Config} (sendable : Sendable cfg h) (sends : Sends cfg h h')
    (works : Works h.snd h'.snd) : Sendable cfg h' := ⟨sends.ok, works.keeps_requested sendable.requested⟩

section Announce

variable (marks : env.cfg.Marks)

include marks

theorem sendGrantReq_succeeds (sendable : Sendable env.cfg h) (inside : id ∈ h.snd.outbound.keys)
    (asks : ¬ Sender.unsolicited env.cfg (h.snd.msg id).totalBytes) : ∃ h', h.sendGrantReq env id = .ok h' := by
  have created : (99 / 10 : ℚ) < (h.snd.msg id).msgCreationTime := (sendable.ok.inv.msg id inside).created
  unfold sendGrantReq
  dsimp only
  refine Lib.bind_succeeds ⟨_, Lib.require_true _ fun all => asks (Or.inl all)⟩ fun _ _ => ?_
  have can : CanSend env (h.snd.msg id).grantReqHdr (h.snd.msg id).remoteAddr h.snd := by
    refine ⟨lt_trans (by norm_num) created, fun _ _ => ?_, _, getOutboundVqLen_implemented marks.implemented _ _⟩
    simp [OutboundMsgState.grantReqHdr]
  refine Lib.bind_succeeds (forwardToTransport_succeeds can (by decide) (by decide)) fun h1 forward => ?_
  have requested : h1.snd.creditDataReceived ≤ h1.snd.creditDataRequested + (h.snd.msg id).totalBytes := by
    rw [forwardToTransport_snd forward]
    have := sendable.requested
    unfold Sender.Requested at this
    omega
  exact Lib.bind_succeeds ⟨_, Lib.require_true _ requested⟩ fun _ _ => ⟨_, rfl⟩

theorem activate_succeeds (sendable : Sendable env.cfg h) (inside : id ∈ h.snd.outboundInactive.msgs)
    (settled : Sender.Settled env.cfg h.snd id) : ∃ h', h.activate env id = .ok h' := by
  obtain ⟨member, idle⟩ := (sendable.ok.queues.inactive id).mp inside
  have whole : (h.snd.msg id).totalBytes = (h.snd.msg id).unsentBytes :=
    ((sendable.ok.inv.msg id member).idle idle).2.symm
  unfold activate
  dsimp only
  split
  · exact ⟨h, rfl⟩
  · refine Lib.bind_succeeds ⟨_, Lib.require_true _ whole⟩ fun _ _ => ?_
    split
    · next scheduled =>
      have asks : ¬ Sender.unsolicited env.cfg (h.snd.msg id).totalBytes :=
        fun all => by cases scheduled.symm.trans (settled all)
      refine Lib.bind_succeeds (sendGrantReq_succeeds marks sendable member asks) fun h1 request => ?_
      obtain ⟨p, -, sent⟩ := sendGrantReq_ok request
      have still : id ∈ h1.snd.outboundInactive.msgs := by
        rw [sent]
        exact inside
      exact Lib.bind_succeeds (Sender.moveToReceiver_succeeds still) fun _ _ => ⟨_, rfl⟩
    · rw [pure_bind]
      exact Lib.bind_succeeds (Sender.moveToReceiver_succeeds inside) fun _ _ => ⟨_, rfl⟩

theorem activateLoop_succeeds {turns : ℕ} (sendable : Sendable env.cfg h) (ready : h.Ready env.cfg)
    (within : turns ≤ h.snd.outboundInactive.size) : ∃ h', h.activateLoop env turns = .ok h' := by
  -- a turn takes its message out, so that one less waits for one turn less
  induction turns generalizing h with
  | zero => exact ⟨h, rfl⟩
  | succ turns ih =>
    unfold activateLoop
    cases step : h.snd.outboundInactive.next with
    | none =>
      have size : h.snd.outboundInactive.size = 0 := List.length_eq_zero_iff.mpr (RoundRobin.next_eq_none.mp step)
      omega
    | some turn =>
      obtain ⟨id, inactive⟩ := turn
      obtain ⟨msgs, behind, front, -⟩ := RoundRobin.next_spec step
      have inside : id ∈ inactive.msgs := by
        rw [msgs, ← RoundRobin.mem_upcoming, front]
        exact List.mem_cons_self
      have moved : Sendable env.cfg { h with snd := { h.snd with outboundInactive := inactive } } :=
        ⟨sendable.ok.quiet (sendable.ok.queues.advance msgs) .refl rfl rfl rfl, sendable.requested⟩
      refine Lib.bind_succeeds (activate_succeeds marks moved inside (ready id (msgs ▸ inside))) fun h1 activated => ?_
      obtain ⟨sends, ready1, upcoming⟩ := activate_turn sendable.ok ready step activated
      have works : Works { h.snd with outboundInactive := inactive } h1.snd := activate_works activated
      have size := congrArg List.length upcoming
      rw [List.length_cons, RoundRobin.length_upcoming, RoundRobin.length_upcoming] at size
      exact ih (sendable.sends sends works.turn) ready1 (by omega)

theorem announce_succeeds (frame : 1538 ≤ env.cfg.maxSrpb) (sendable : Sendable env.cfg h) :
    ∃ h', h.announce env = .ok h' := by
  unfold announce
  obtain ⟨ok, requested⟩ := sendable
  refine Lib.bind_succeeds (Sender.selfCreditLoop_succeeds frame ok.queues ok.inv (le_refl _)) fun snd credits => ?_
  have works : Works h.snd snd := Sender.selfCreditLoop_works credits
  obtain ⟨sends, ready⟩ := selfCreditLoop_ready ok credits
  exact activateLoop_succeeds marks ⟨sends.ok, works.keeps_requested requested⟩ ready (le_refl _)

end Announce

theorem checkTurn_succeeds {cfg : Config} {out : List Packet} {m : OutboundMsgState} (ok : MsgOk cfg addr out m)
    (active : m.active = true) : checkTurn m = .ok ⟨⟩ := by
  unfold checkTurn assert
  split
  · next first =>
    have part := ok.payloadSum_add
    have announced : m.sentAnouncement = true := by
      cases scheduled : m.isScheduled with
      | true => exact (ok.scheduled active scheduled).2
      | false => exact (ok.announced scheduled).trans first
    rw [Lib.require_true _ (by omega), Lib.ok_bind, Lib.require_true _ announced]
  · next fresh =>
    rw [Lib.require_true _ (ok.unsent_of_sentFirst ((Bool.not_eq_true _).mp fresh)).symm]

section Transmit

variable (marks : env.cfg.Marks) (sendable : Sendable env.cfg h) (known : addr ∈ h.snd.remotes.keys)
  (can : (h.snd.rcverPolicyStates addr).canSend = true) (pick : h.snd.PickOk addr (h.snd.rcverPolicyStates addr))
  (chosen : (h.snd.rcverPolicyStates addr).msgState = some id)

include sendable known can pick chosen

theorem checkTransmit_succeeds (pace : env.cfg.paceGrants = true) :
    h.checkTransmit env (h.snd.rcverPolicyStates addr) (h.snd.msg id) = .ok ⟨⟩ := by
  rcases pick with ⟨cannot, -⟩ | ⟨-, best, queued, state, affords, wants, -⟩
  · exact nomatch can.symm.trans cannot
  · obtain rfl := Option.some.inj (chosen.symm.trans state)
    obtain ⟨inside, active, unsent, rfl⟩ := (sendable.ok.queues.queue addr known id).mp queued
    have ok : MsgOk env.cfg h.thisAddr h.sendSide.out (h.snd.msg id) := sendable.ok.inv.msg id inside
    have nonneg : 0 ≤ (h.snd.rcvr (h.snd.msg id).remoteAddr).availCreditBytes := by
      rw [← Sender.pool_eq known]
      exact sendable.ok.inv.avail_nonneg _
    have fits : nextPktBytes (h.snd.msg id).unsentBytes ≤
      toUInt64 (h.snd.rcvr (h.snd.msg id).remoteAddr).availCreditBytes :=
      affords
    have pays : (nextPktBytes (h.snd.msg id).unsentBytes : ℤ) ≤
      (h.snd.rcvr (h.snd.msg id).remoteAddr).availCreditBytes :=
      (Sender.affords_iff nonneg).mp affords
    have requested : h.snd.creditDataReceived ≤ requestedWith (h.snd.msg id) h := by
      have := sendable.requested
      unfold Sender.Requested at this
      unfold requestedWith
      split <;> omega
    have frame : (h.snd.msg id).nextPayload + r2p2AllHeadersSize + interPktGapSize + ethernetPreambleSize ≤
        nextPktBytes (h.snd.msg id).unsentBytes := by
      rw [(h.snd.msg id).nextPayload_eq]
      exact le_max_left _ _
    unfold checkTransmit assert
    dsimp only
    rw [Lib.require_true _ fits, Lib.ok_bind, Lib.require_true _ (le_of_eq wants), Lib.ok_bind,
      Lib.require_true _ unsent, Lib.ok_bind, Lib.require_true _ ok.total_pos, Lib.ok_bind, Lib.require_true _ active,
      Lib.ok_bind, checkTurn_succeeds ok active, Lib.ok_bind, Lib.require_true _ fun _ => requested, Lib.ok_bind,
      Lib.require_true _ (by omega), Lib.ok_bind, Lib.require_true _ (by omega), Lib.ok_bind, Lib.require_true _ pace]

include marks in
theorem transmit_succeeds (pace : env.cfg.paceGrants = true) :
    ∃ h', h.transmit env (h.snd.rcverPolicyStates addr) id = .ok h' := by
  have check := checkTransmit_succeeds sendable known can pick chosen pace
  rcases pick with ⟨cannot, -⟩ | ⟨-, best, queued, state, -⟩
  · exact nomatch can.symm.trans cannot
  · obtain rfl := Option.some.inj (chosen.symm.trans state)
    obtain ⟨inside, active, unsent, rfl⟩ := (sendable.ok.queues.queue addr known id).mp queued
    have created : (99 / 10 : ℚ) < (h.snd.msg id).msgCreationTime := (sendable.ok.inv.msg id inside).created
    have len : (h.snd.msg id).nextPayload = min ethernet.mss (h.snd.msg id).unsentBytes :=
      OutboundMsgState.nextPayload_eq _
    have mss : ethernet.mss = maxR2p2Payload := rfl
    unfold transmit
    dsimp only
    refine Lib.bind_succeeds ⟨_, check⟩ fun _ _ => ?_
    have sends : CanSend env ((h.snd.msg id).packetHdr env.cfg (h.snd.rcverPolicyStates (h.snd.msg id).remoteAddr))
        (h.snd.msg id).remoteAddr (h.spend id).snd := by
      refine ⟨lt_trans (by norm_num) created, fun ecn one => absurd one (marks.data ecn), _,
        getOutboundVqLen_implemented marks.implemented _ _⟩
    refine Lib.bind_succeeds (forwardToTransport_succeeds sends (by have := ethernet.mss_pos; omega)
      (by omega)) fun h1 forward => ?_
    have snd := forwardToTransport_snd forward
    have queue : (h1.snd.rcvr (h.snd.msg id).remoteAddr).outMsgs = (h.snd.rcvr (h.snd.msg id).remoteAddr).outMsgs := by
      rw [snd]
      exact outMsgs_spend h id _
    have still : id ∈ (h1.snd.rcvr (h.snd.msg id).remoteAddr).outMsgs.msgs := by
      rw [queue]
      exact queued
    have here : (h.snd.msg id).remoteAddr ∈ h1.snd.remotes.keys := by
      rw [snd]
      exact known
    refine Lib.bind_succeeds ⟨_, traceData_eq id here (List.ne_nil_of_mem still)⟩ fun _ _ => ?_
    split
    · obtain ⟨outMsgs, removed⟩ := RoundRobin.remove_isSome.mpr still
      unfold dropSent
      rw [removed]
      exact ⟨_, rfl⟩
    · exact ⟨_, rfl⟩

end Transmit

/-- What a policy takes for granted that serves one receiver at most. -/
structure Attends (env : Env) (s : Sender) : Prop where
  known : Sender.PolicyKnown env.cfg
  ratio : 0 ≤ env.cfg.senderPolicyRatio ∧ env.cfg.senderPolicyRatio ≤ 1
  run : Sender.PolicyRun env s
  alone : s.remotes.keys.length ≤ 1

theorem Attends.works {s s' : Sender} (attends : Attends env s) (works : Works s s') : Attends env s' where
  known := attends.known
  ratio := attends.ratio
  run := attends.run.same works.same
  alone := works.same.1 ▸ attends.alone

section Select

variable (attends : Attends env h.snd)

include attends

theorem sendSelected_sends (marks : env.cfg.Marks) (pace : env.cfg.paceGrants = true) (sendable : Sendable env.cfg h)
    (considered : h.Considered) (ready : h.snd.ready.Nonempty)
    (credit : env.cfg.senderPolicy = 2 → ∀ addr ∈ h.snd.ready, 0 < (h.snd.rcvr addr).availCreditDataBytes) :
    ∃ h' p, h.sendSelected env = .ok h' ∧ h'.sent = h.sent ++ [p] := by
  obtain ⟨known, ratio, run, alone⟩ := attends
  have one : h.snd.ready.card = 1 := by
    have few : h.snd.ready.card ≤ h.snd.remotes.keys.toFinset.card := Finset.card_filter_le _ _
    have less := List.toFinset_card_le h.snd.remotes.keys
    have some_ready := Finset.card_pos.mpr ready
    omega
  have preferred : env.cfg.senderPolicy = 2 → ∃ addr ∈ h.snd.ready, 0 < (h.snd.rcvr addr).availCreditDataBytes := by
    intro two
    obtain ⟨addr, inside⟩ := ready
    exact ⟨addr, inside, credit two addr inside⟩
  obtain ⟨-, -, -, s1, chosen, s2, -, -, update, select, -⟩ :=
    run.selects known ratio ready preferred (Or.inl one) (Or.inl (by omega))
  obtain ⟨chooses1, picks⟩ := Sender.updatePolicyState_ok update
  obtain ⟨chooses2, picked⟩ := Sender.selectMsgToSend_ok select picks
  obtain ⟨here, can, pick⟩ := picked chosen rfl
  have chooses := chooses1.trans chooses2
  have requested := (Sender.requested_keeps env).round _ _ _ _ update select sendable.requested
  have sendable2 : Sendable env.cfg { h with snd := s2 } := ⟨(chooses_ok sendable.ok chooses).ok, requested⟩
  obtain ⟨id, state⟩ : ∃ id, (s2.rcverPolicyStates chosen).msgState = some id := by
    rcases pick with ⟨cannot, -⟩ | ⟨-, id, -, state, -⟩
    · exact nomatch can.symm.trans cannot
    · exact ⟨id, state⟩
  obtain ⟨h', sent⟩ := transmit_succeeds (h := { h with snd := s2 }) marks sendable2 here can pick state pace
  obtain ⟨-, -, p, more⟩ :=
    transmit_ok (h := { h with snd := s2 }) sendable2.ok (considered.chooses chooses) here can pick state sent
  refine ⟨h', p, ?_, more⟩
  unfold sendSelected
  rw [update, Lib.ok_bind, select, Lib.ok_bind]
  dsimp only
  rw [state]
  exact sent

theorem sendSelected_rests (some_rcvr : h.snd.remotes.keys ≠ []) (none_ready : h.snd.ready = ∅) :
    ∃ snd, h.sendSelected env = .ok { h with snd } ∧ Sender.Chooses h.snd snd := by
  obtain ⟨s1, s2, update, select⟩ := attends.run.selects_none attends.known attends.ratio some_rcvr none_ready
  obtain ⟨chooses1, picks⟩ := Sender.updatePolicyState_ok update
  refine ⟨s2, ?_, chooses1.trans (Sender.selectMsgToSend_ok select picks).1⟩
  unfold sendSelected
  rw [update, Lib.ok_bind, select]
  rfl

end Select

/-- What announces without a credit request changes messages and pools at most. -/
structure Announces (h h' : Host) : Prop where
  grows : h.sent <+: h'.sent
  silent : h'.sent = h.sent → h' = { h with snd := h'.snd }

theorem Announces.refl (h : Host) : Announces h h := ⟨List.prefix_rfl, fun _ => rfl⟩

theorem Announces.trans {h1 : Host} (first : Announces h h1) (second : Announces h1 h') : Announces h h' where
  grows := first.grows.trans second.grows
  silent silent := by
    have before : h1.sent = h.sent := (first.grows.eq_of_length_le (silent ▸ second.grows.length_le)).symm
    have rest := second.silent (silent.trans before.symm)
    rw [first.silent before] at rest
    exact rest

theorem activate_announces (run : h.activate env id = .ok h') : Announces h h' := by
  unfold activate assert at run
  dsimp only at run
  split at run
  · rw [Lib.pure_eq_ok] at run
    subst run
    exact .refl h
  · simp only [Lib.bind_eq_ok] at run
    obtain ⟨-, -, run⟩ := run
    split at run
    · simp only [Lib.bind_eq_ok, Lib.pure_eq_ok] at run
      obtain ⟨h1, request, snd, moved, rfl⟩ := run
      obtain ⟨p, -, sent⟩ := sendGrantReq_ok request
      have more : h1.sent = h.sent ++ [p] := by
        rw [sent]
        rfl
      refine ⟨⟨[p], more.symm⟩, fun silent => ?_⟩
      rw [more, List.append_right_eq_self] at silent
      cases silent
    · simp only [pure_bind, Lib.bind_eq_ok, Lib.pure_eq_ok] at run
      obtain ⟨snd, moved, rfl⟩ := run
      exact ⟨List.prefix_rfl, fun _ => rfl⟩

theorem activateLoop_announces {turns : ℕ} (run : h.activateLoop env turns = .ok h') : Announces h h' := by
  induction turns generalizing h with
  | zero =>
    cases run
    exact .refl _
  | succ turns ih =>
    unfold activateLoop at run
    split at run
    · cases run
    · next id inactive step =>
      simp only [Lib.bind_eq_ok] at run
      obtain ⟨h1, activated, rest⟩ := run
      have moved : Announces h { h with snd := { h.snd with outboundInactive := inactive } } :=
        ⟨List.prefix_rfl, fun _ => rfl⟩
      exact (moved.trans (activate_announces activated)).trans (ih rest)

theorem announce_announces (run : h.announce env = .ok h') : Announces h h' := by
  unfold announce at run
  simp only [Lib.bind_eq_ok] at run
  obtain ⟨snd, -, activates⟩ := run
  have credited : Announces h { h with snd } := ⟨List.prefix_rfl, fun _ => rfl⟩
  exact credited.trans (activateLoop_announces activates)

end Host

namespace Sender

def Able (s : Sender) : Prop := s.outboundInactive.msgs ≠ [] ∨ s.ready.Nonempty

/-- Behind the announcements the policy for the receiver with most data credit finds some where it can send. -/
def Preferable (env : Env) (s : Sender) : Prop :=
  env.cfg.senderPolicy = 2 → ∀ h h1 : Host, h.snd = s → h.announce env = .ok h1 →
    ∀ addr ∈ h1.snd.ready, 0 < (h1.snd.rcvr addr).availCreditDataBytes

end Sender

namespace Host

open Sender (Works)

variable {env : Env} {h h1 h' : Host} {now : Time}

theorem able_of_announce (ok : SendOk env.cfg h) (run : h.announce env = .ok h1) (silent : h1.sent = h.sent) :
    h1.snd.ready.Nonempty ↔ h.snd.Able := by
  obtain ⟨sends, considered⟩ := announce_ok ok run
  cases waiting : h.snd.outboundInactive.msgs with
  | nil =>
    obtain rfl := Except.ok.inj ((announce_nothing waiting).symm.trans run)
    exact ⟨Or.inr, fun able => able.resolve_left (absurd waiting)⟩
  | cons id rest =>
    refine iff_of_true ?_ (Or.inl (by rw [waiting]; exact List.cons_ne_nil id rest))
    obtain ⟨member, idle⟩ := (ok.queues.inactive id).mp (by rw [waiting]; exact List.mem_cons_self)
    have before : MsgOk env.cfg h.thisAddr h.sendSide.out (h.snd.msg id) := ok.inv.msg id member
    have here : id ∈ h1.snd.outbound.keys := by
      rw [sends.keys]
      exact member
    have known := sends.ok.queues.remote id here
    have after : MsgOk env.cfg h1.thisAddr h1.sendSide.out (h1.snd.msg id) := sends.ok.inv.msg id here
    have out : h1.sendSide.out = h.sendSide.out := by
      unfold sendSide Sender.side
      rw [silent]
    have name : (h1.snd.msg id).reqId = (h.snd.msg id).reqId :=
      (sends.ok.inv.names id here).trans (ok.inv.names id member).symm
    -- nothing was sent for the message, not even its credit request
    have quiet : (h1.snd.msg id).sentAnouncement = false := by
      cases scheduled : (h1.snd.msg id).isScheduled with
      | true =>
        have reqs := after.creditReqs_length
        rw [out, name, before.idle_creditReqs idle, scheduled, Bool.true_and] at reqs
        by_contra announced
        rw [if_pos ((Bool.not_eq_false _).mp announced)] at reqs
        cases reqs
      | false =>
        rw [after.announced scheduled, after.sentFirst, out, name]
        exact before.idle_data idle
    obtain ⟨queued, affords⟩ := affords_silent sends.ok considered known ⟨here, rfl, quiet⟩
    exact ⟨_, Sender.mem_ready.mpr ⟨known, id, queued, affords⟩⟩

theorem preferable_of_considered (considered : h.snd.outboundInactive.msgs = [])
    (credit : env.cfg.senderPolicy = 2 → ∀ addr ∈ h.snd.ready, 0 < (h.snd.rcvr addr).availCreditDataBytes) :
    h.snd.Preferable env := by
  intro two other h1 same announced
  obtain rfl := Except.ok.inj ((announce_nothing (by rw [same]; exact considered)).symm.trans announced)
  rw [same]
  exact credit two

theorem preferable_of_not_able (not_able : ¬ h.snd.Able) : h.snd.Preferable env := by
  have considered : h.snd.outboundInactive.msgs = [] := by
    by_contra waiting
    exact not_able (Or.inl waiting)
  apply preferable_of_considered considered
  intro _ addr ready
  exact absurd (Or.inr ⟨addr, ready⟩) not_able

/-- A call of send_data whose pacer lets a packet through. -/
def DataDue (env : Env) (now : Time) (h : Host) : Prop :=
  ¬ (3 / 2 : ℚ) * env.cfg.bytesDrainedPerLoop < (h.updateDataBacklog env now).dataPacerBacklog

instance (env : Env) (now : Time) (h : Host) : Decidable (h.DataDue env now) := inferInstanceAs (Decidable (¬ _))

/-- Nothing was sent by a call of send_data. -/
structure Withholds (env : Env) (now : Time) (h h' : Host) : Prop where
  same : h' = { h.updateDataBacklog env now with snd := h'.snd }
  able : h'.snd.Able ↔ h.snd.Able
  preferable : h'.snd.Preferable env
  busy : h.snd.Able → ¬ h.DataDue env now

theorem not_able_of_alone {s : Sender} (queues : s.Queues) (alone : s.remotes.keys = []) : ¬ s.Able := by
  rintro (waiting | ⟨addr, ready⟩)
  · obtain ⟨id, inside⟩ := List.exists_mem_of_ne_nil _ waiting
    have known := queues.remote id ((queues.inactive id).mp inside).1
    rw [alone] at known
    cases known
  · have known := (Sender.mem_ready.mp ready).1
    rw [alone] at known
    cases known

/-- The call goes through. When a message waits to be announced or can be paid for, and the pacer allows it,
something is sent. -/
theorem sendData_sends (now : Time) (marks : env.cfg.Marks) (pace : env.cfg.paceGrants = true)
    (frame : 1538 ≤ env.cfg.maxSrpb)
    (sendable : Sendable env.cfg h) (attends : Attends env h.snd) (preferable : h.snd.Preferable env) :
    ∃ h', h.sendData env now = .ok h' ∧ (h'.sent = h.sent → Withholds env now h h') := by
  let h0 := h.updateDataBacklog env now
  have sendable0 : Sendable env.cfg h0 := ⟨(sendable.ok.quiet sendable.ok.queues .refl rfl rfl rfl), sendable.requested⟩
  unfold sendData
  dsimp only
  by_cases alone : h.snd.remotes.keys = []
  · have none_able := not_able_of_alone sendable.ok.queues alone
    rw [if_pos (show h0.snd.remotes.keys = [] from alone)]
    exact ⟨h0, rfl, fun _ => ⟨rfl, Iff.rfl, preferable, fun able => absurd able none_able⟩⟩
  · rw [if_neg (show ¬ h0.snd.remotes.keys = [] from alone)]
    obtain ⟨h1, announced⟩ := announce_succeeds marks frame sendable0
    obtain ⟨sends, considered⟩ := announce_ok sendable0.ok announced
    have works : Works h0.snd h1.snd := announce_works announced
    have announces := announce_announces announced
    have credit : env.cfg.senderPolicy = 2 → ∀ addr ∈ h1.snd.ready, 0 < (h1.snd.rcvr addr).availCreditDataBytes :=
      fun two => preferable two h0 h1 rfl announced
    rw [announced, Lib.ok_bind]
    split
    -- the pacer holds data back
    · next busy =>
      refine ⟨h1, rfl, fun silent => ?_⟩
      have same := announces.silent silent
      have able := able_of_announce sendable0.ok announced silent
      refine ⟨same, ⟨fun able1 => able.mp ?_, fun able0 => Or.inr (able.mpr able0)⟩,
        preferable_of_considered considered credit,
        fun _ due => due ?_⟩
      · exact able1.resolve_left fun waiting => waiting considered
      · rw [same] at busy
        exact busy
    · next due =>
      -- there is no one to send to, or a packet goes to someone
      rcases h1.snd.ready.eq_empty_or_nonempty with none_ready | ready
      · have some_rcvr : h1.snd.remotes.keys ≠ [] := by
          rw [works.same.1]
          exact alone
        obtain ⟨snd, rests, chooses⟩ := sendSelected_rests (attends.works works) some_rcvr none_ready
        refine ⟨_, rests, fun silent => ?_⟩
        have none_able : ¬ h.snd.Able := by
          intro able
          have ready := (able_of_announce sendable0.ok announced silent).mpr able
          rw [none_ready] at ready
          exact Finset.not_nonempty_empty ready
        have still : ¬ snd.Able := by
          rintro (waiting | ready)
          · exact waiting ((congrArg RoundRobin.msgs chooses.inactive).trans considered)
          · rw [chooses.ready, none_ready] at ready
            exact Finset.not_nonempty_empty ready
        refine ⟨?_, iff_of_false still none_able, ?_, fun able => absurd able none_able⟩
        · rw [announces.silent silent]
        · exact preferable_of_not_able (h := { h1 with snd }) still
      · obtain ⟨h', p, sent, more⟩ :=
          sendSelected_sends (attends.works works) marks pace (sendable0.sends sends works) considered
          ready credit
        refine ⟨h', sent, fun silent => ?_⟩
        have grows := announces.grows.length_le
        rw [silent] at more
        have length := congrArg List.length more
        rw [List.length_append, List.length_singleton] at length
        change h.sent.length ≤ h1.sent.length at grows
        omega

end Host

end PhantomPass
