import PhantomPass.Refinement.SendData

/-! What a poll does does not depend on whether it is traced: the statistics walk
the inbound messages once around, and count over lists that are not empty. -/

set_option autoImplicit false

namespace PhantomPass

open Lib (RoundRobin bind_map_congr bind_map_congr_of bind_map_same bind_map_same_of ite_map)

def Config.tracing (cfg : Config) (doTrace : Bool) (ival : ℚ) (pos : 0 < ival) : Config :=
  { cfg with doTrace, statePollingIvalS := ival, statePollingIvalS_pos := pos }

def Env.tracing (env : Env) (doTrace : Bool) (ival : ℚ) (pos : 0 < ival) : Env :=
  { env with cfg := env.cfg.tracing doTrace ival pos }

section Choice

variable {env : Env} {doTrace : Bool} {ival : ℚ} {pos : 0 < ival} {s : Sender}

theorem Sender.findCanSend_tracing (order : List Addr) (pass : Sender.PolicyPass) :
    Sender.findCanSend (env.tracing doTrace ival pos) order s pass = Sender.findCanSend env order s pass := by
  induction order generalizing s pass with
  | nil => rfl
  | cons addr rest ih =>
    unfold Sender.findCanSend
    simp only [ih]
    rfl

theorem Sender.updatePolicyState_tracing : s.updatePolicyState (env.tracing doTrace ival pos) =
    s.updatePolicyState env := by
  unfold Sender.updatePolicyState
  simp only [Sender.findCanSend_tracing]
  rfl

theorem Sender.selfCreditLoop_tracing (turns : ℕ) :
    Sender.selfCreditLoop (env.cfg.tracing doTrace ival pos) turns s = Sender.selfCreditLoop env.cfg turns s := by
  induction turns generalizing s with
  | zero => rfl
  | succ turns ih =>
    unfold Sender.selfCreditLoop
    simp only [ih]
    rfl

end Choice

namespace Host

/-- The statistics were written at this time, and polling has started or not. -/
def stamped (started : Bool) (time : Time) (h : Host) : Host := { h with pollStarted := started, lastPollTrace := time }

variable {env : Env} {doTrace started : Bool} {ival : ℚ} {pos : 0 < ival} {now time : Time} {h : Host} {id : UniqReqId}

@[simp] theorem stamped_snd : (h.stamped started time).snd = h.snd := rfl

@[simp] theorem stamped_rcv : (h.stamped started time).rcv = h.rcv := rfl

section Transport

variable {hdr : Hdr} {daddr : Addr} {flowid prio grantedBytes : ℤ} {last : Bool} {len : ℕ}

theorem sendFrame_tracing :
    (h.stamped started time).sendFrame (env.tracing doTrace ival pos) last daddr len flowid prio hdr grantedBytes =
      (fun out => (out.1.stamped started time, out.2)) <$> h.sendFrame env last daddr len flowid prio hdr
      grantedBytes := by
  unfold sendFrame
  simp only [map_bind, map_pure]
  rfl

theorem sendFullFrames_tracing (n : ℕ) : (h.stamped started time).sendFullFrames
    (env.tracing doTrace ival pos) daddr flowid prio n hdr
    grantedBytes = (fun out => (out.1, out.2.1, out.2.2.stamped started time)) <$>
      h.sendFullFrames env daddr flowid prio n hdr grantedBytes := by
  induction n generalizing h hdr grantedBytes with
  | zero => rfl
  | succ n ih =>
    unfold sendFullFrames
    simp only [sendFrame_tracing, map_bind, bind_map_left, ih]

theorem sendmsg_tracing (nbytes : ℕ) : (h.stamped started time).sendmsg
    (env.tracing doTrace ival pos) nbytes hdr daddr flowid prio =
    stamped started time <$> h.sendmsg env nbytes hdr daddr flowid prio := by
  unfold sendmsg
  simp only [sendFullFrames_tracing, map_bind, bind_map_left]
  apply bind_congr
  intro _
  refine bind_congr fun out => ?_
  split
  · rfl
  · simp only [sendFrame_tracing, map_bind, bind_map_left]
    rfl

theorem forwardToTransport_tracing (nbytes : ℕ) :
    (h.stamped started time).forwardToTransport (env.tracing doTrace ival pos) hdr nbytes daddr =
      stamped started time <$> h.forwardToTransport env hdr nbytes daddr := by
  unfold forwardToTransport
  exact sendmsg_tracing nbytes

end Transport

section SendData

theorem sendGrantReq_tracing : (h.stamped started time).sendGrantReq (env.tracing doTrace ival pos) id =
    stamped started time <$> h.sendGrantReq env id := by
  unfold sendGrantReq
  refine bind_map_same fun _ => ?_
  refine bind_map_congr (forwardToTransport_tracing _) fun _ => ?_
  exact bind_map_same fun _ => rfl

theorem activate_tracing : (h.stamped started time).activate (env.tracing doTrace ival pos) id =
    stamped started time <$> h.activate env id := by
  refine ite_map (fun _ => rfl) fun _ => bind_map_same fun _ => ?_
  refine ite_map (fun _ => ?_) fun _ => ?_
  · refine bind_map_congr sendGrantReq_tracing fun _ => ?_
    exact bind_map_same fun _ => rfl
  · refine bind_map_congr (f := stamped started time) (x := pure h) rfl fun _ => ?_
    exact bind_map_same fun _ => rfl

theorem activateLoop_tracing (turns : ℕ) : (h.stamped started time).activateLoop (env.tracing doTrace ival pos) turns =
    stamped started time <$> h.activateLoop env turns := by
  induction turns generalizing h with
  | zero => rfl
  | succ turns ih =>
    unfold activateLoop
    simp only [stamped_snd]
    cases h.snd.outboundInactive.next with
    | none => rfl
    | some out =>
      exact bind_map_congr (activate_tracing (h := { h with snd := { h.snd with outboundInactive := out.2 } })) fun _ =>
        ih

theorem dropSent_tracing (addr : Addr) : (h.stamped started time).dropSent id addr =
    stamped started time <$> h.dropSent id addr := by
  unfold dropSent
  simp only [stamped_snd]
  cases (h.snd.rcvr addr).outMsgs.remove id <;> rfl

theorem transmit_tracing {ps : PolicyState} {addr : Addr} (known : addr ∈ h.snd.remotes.keys)
    (queued : (h.snd.rcvr addr).outMsgs.msgs ≠ []) :
    (h.stamped started time).transmit (env.tracing doTrace ival pos) ps id =
    stamped started time <$> h.transmit env ps id := by
  refine bind_map_same fun _ => ?_
  refine bind_map_congr_of (forwardToTransport_tracing (h := h.spend id) _) fun sent forward => ?_
  have same : sent.snd = (h.spend id).snd := forwardToTransport_snd forward
  have known : addr ∈ sent.snd.remotes.keys := by rw [same]; exact known
  have queued : (sent.snd.rcvr addr).outMsgs.msgs ≠ [] := by rw [same, outMsgs_spend]; exact queued
  have traced : (sent.stamped started time).traceData (env.tracing doTrace ival pos) id =
    (fun u => u) <$> sent.traceData env id := by
    rw [traceData_eq id known queued, traceData_eq (h := sent.stamped started time) id known queued]
    rfl
  refine bind_map_congr traced fun _ => ?_
  exact ite_map (fun _ => dropSent_tracing _) fun _ => rfl

theorem announce_tracing : (h.stamped started time).announce (env.tracing doTrace ival pos) =
    stamped started time <$> h.announce env := by
  unfold announce
  refine bind_map_same_of (Sender.selfCreditLoop_tracing _) fun snd _ => ?_
  exact activateLoop_tracing (h := { h with snd }) _

theorem sendSelected_tracing : (h.stamped started time).sendSelected (env.tracing doTrace ival pos) =
    stamped started time <$> h.sendSelected env := by
  unfold sendSelected
  refine bind_map_same_of Sender.updatePolicyState_tracing fun s1 update => ?_
  refine bind_map_same_of rfl fun (selected, s2) select => ?_
  obtain ⟨-, picks⟩ := Sender.updatePolicyState_ok update
  obtain ⟨-, known⟩ := Sender.selectMsgToSend_ok select picks
  cases selected with
  | none => rfl
  | some addr =>
    obtain ⟨here, can, pick⟩ := known addr rfl
    dsimp only
    cases state : (s2.rcverPolicyStates addr).msgState with
    | none => rfl
    | some id =>
      have queued : (s2.rcvr addr).outMsgs.msgs ≠ [] := by
        rcases pick with ⟨cannot, -⟩ | ⟨-, best, queued, -⟩
        · cases can.symm.trans cannot
        · exact List.ne_nil_of_mem queued
      exact transmit_tracing (h := { h with snd := s2 }) here queued

theorem sendData_tracing : (h.stamped started time).sendData (env.tracing doTrace ival pos) now =
    stamped started time <$> h.sendData env now := by
  refine ite_map (fun _ => rfl) fun _ => ?_
  refine bind_map_congr (announce_tracing (h := h.updateDataBacklog env now)) fun _ => ?_
  exact ite_map (fun _ => rfl) fun _ => sendSelected_tracing

end SendData

section SendGrants

variable {creditBytes padding : ℤ} {ret : Option CreditResult}

theorem forwardGrant_tracing (listed : h.rcv.inbound.msgs ≠ []) :
    (h.stamped started time).forwardGrant (env.tracing doTrace ival pos) now id creditBytes padding =
      stamped started time <$> h.forwardGrant env now id creditBytes padding := by
  refine bind_map_same fun _ => ?_
  have listed : (h.countGrant id creditBytes padding).rcv.inbound.msgs ≠ [] := listed
  have traced : ((h.stamped started time).countGrant id creditBytes padding).traceGrant
    (env.tracing doTrace ival pos) id =
      (h.countGrant id creditBytes padding).traceGrant env id := by
    rw [traceGrant_eq id listed]
    exact traceGrant_eq (h := (h.countGrant id creditBytes padding).stamped started time) id listed
  refine bind_map_same_of traced fun _ _ => ?_
  exact forwardToTransport_tracing (h := h.countGrant id creditBytes padding) _

theorem issueGrant_tracing (listed : h.rcv.inbound.msgs ≠ []) :
    (h.stamped started time).issueGrant (env.tracing doTrace ival pos) now id =
    stamped started time <$> h.issueGrant env now id := by
  refine ite_map (fun _ => ?_) fun _ => rfl
  refine bind_map_same fun _ => ?_
  exact forwardGrant_tracing (h := h.chargeGrant id) listed

theorem grantCredit_tracing (listed : h.rcv.inbound.msgs ≠ []) :
    (h.stamped started time).grantCredit (env.tracing doTrace ival pos) now id =
      (fun out => (out.1.stamped started time, out.2)) <$> h.grantCredit env now id := by
  refine bind_map_same fun _ => ?_
  refine ite_map (fun _ => rfl) fun _ => ?_
  refine bind_map_congr (issueGrant_tracing listed) fun _ => ?_
  exact bind_map_same fun _ => rfl

theorem sendCreditPolicyCommon_tracing (listed : h.rcv.inbound.msgs ≠ []) :
    (h.stamped started time).sendCreditPolicyCommon (env.tracing doTrace ival pos) now id =
      (fun out => (out.1.stamped started time, out.2)) <$> h.sendCreditPolicyCommon env now id := by
  refine bind_map_same fun _ => ?_
  refine bind_map_same fun _ => ?_
  refine ite_map (fun _ => ?_) fun _ => ?_
  · exact bind_map_same fun _ => rfl
  · refine bind_map_same fun _ => ?_
    refine bind_map_same fun _ => ?_
    exact ite_map (fun _ => rfl) fun _ => grantCredit_tracing listed

theorem grantInformed_tracing (listed : h.rcv.inbound.msgs ≠ []) :
    (h.stamped started time).grantInformed (env.tracing doTrace ival pos) now id ret =
      (fun out => (out.1.stamped started time, out.2)) <$> h.grantInformed env now id ret := by
  refine ite_map (fun _ => ?_) fun _ => rfl
  refine bind_map_same fun _ => ?_
  exact bind_map_congr (sendCreditPolicyCommon_tracing listed) fun _ => rfl

theorem tsMsgLoop_tracing (turns i : ℕ) : (h.stamped started time).tsMsgLoop
    (env.tracing doTrace ival pos) now turns i ret =
    stamped started time <$> h.tsMsgLoop env now turns i ret := by
  induction turns generalizing h i ret with
  | zero => rfl
  | succ turns ih =>
    refine ite_map (fun _ => rfl) fun _ => ?_
    simp only [stamped_rcv]
    cases peek : h.rcv.inbound.peekNext with
    | none => rfl
    | some id =>
      have listed : h.rcv.inbound.msgs ≠ [] := List.ne_nil_of_mem (List.mem_of_getElem? peek)
      refine bind_map_congr (grantInformed_tracing listed) fun (h1, ret1) => ?_
      refine ite_map (fun _ => rfl) fun _ => ?_
      simp only [stamped_rcv]
      cases h1.rcv.inbound.next with
      | none => rfl
      | some out => exact ih (h := { h1 with rcv := { h1.rcv with inbound := out.2 } }) (i + 1)

theorem sortedMsgLoop_tracing (turns i : ℕ) : (h.stamped started time).sortedMsgLoop
    (env.tracing doTrace ival pos) now turns i ret =
    stamped started time <$> h.sortedMsgLoop env now turns i ret := by
  induction turns generalizing h i ret with
  | zero => rfl
  | succ turns ih =>
    refine ite_map (fun _ => rfl) fun _ => ?_
    simp only [stamped_rcv]
    cases step : h.rcv.inbound.next with
    | none => rfl
    | some out =>
      have listed : out.2.msgs ≠ [] := by
        rw [(RoundRobin.next_spec step).1]
        exact fun none => nomatch (RoundRobin.next_eq_none.mpr none).symm.trans step
      refine bind_map_congr (grantInformed_tracing (h := { h with rcv := { h.rcv with inbound := out.2 } }) listed)
        fun _ => ih (i + 1)

theorem sendGrantsSorted_tracing (key : UniqReqId → ℤ) :
    (h.stamped started time).sendGrantsSorted (env.tracing doTrace ival pos) now key =
      stamped started time <$> h.sendGrantsSorted env now key :=
  ite_map (fun _ => rfl) fun _ => sortedMsgLoop_tracing
    (h := { h with rcv := { h.rcv with inbound := (h.rcv.inbound.reorder _ (env.plat.sortBy_perm ..)).reset } }) _ 0

theorem sendGrants_tracing : (h.stamped started time).sendGrants (env.tracing doTrace ival pos) now =
    stamped started time <$> h.sendGrants env now := by
  refine ite_map (fun _ => rfl) fun _ => ?_
  refine ite_map (fun _ => rfl) fun _ => ?_
  have drained : ({ h.stamped started time with lastGrantTime := now }.updateGrantBacklog
    (env.tracing doTrace ival pos) now) =
      ({ h with lastGrantTime := now }.updateGrantBacklog env now).stamped started time := rfl
  rw [drained]
  generalize { h with lastGrantTime := now }.updateGrantBacklog env now = h1
  refine ite_map (fun _ => tsMsgLoop_tracing _ 0) fun _ => ?_
  refine ite_map (fun _ => sendGrantsSorted_tracing _) fun _ => ?_
  exact ite_map (fun _ => sendGrantsSorted_tracing _) fun _ => rfl

end SendGrants

section Both

def polled (time : Time) (h : Host) : Host := h.stamped h.pollStarted time

@[simp] theorem polled_rcv : (h.polled time).rcv = h.rcv := rfl

theorem pollStarted_of_stamped {act : Host → Checked Host} {h' : Host}
    (blind : act (h.stamped h.pollStarted h.lastPollTrace) = stamped h.pollStarted h.lastPollTrace <$> act h)
    (run : act h = .ok h') : h'.pollStarted = h.pollStarted := by
  change act h = _ at blind
  rw [run] at blind
  injection blind with same
  rw [same]
  rfl

theorem polled_of_stamped {act' act : Host → Checked Host}
    (keeps : ∀ h', act h = .ok h' → h'.pollStarted = h.pollStarted)
    (blind : act' (h.stamped h.pollStarted time) = stamped h.pollStarted time <$> act h) :
    act' (h.polled time) = polled time <$> act h := by
  change act' (h.stamped h.pollStarted time) = _
  rw [blind]
  cases run : act h with
  | error stop => rfl
  | ok h' =>
    change Except.ok (h'.stamped h.pollStarted time) = Except.ok (h'.stamped h'.pollStarted time)
    rw [keeps h' run]

theorem sendGrants_started {h' : Host} (run : h.sendGrants env now = .ok h') : h'.pollStarted = h.pollStarted := by
  have blind : (h.stamped h.pollStarted h.lastPollTrace).sendGrants env now =
      stamped h.pollStarted h.lastPollTrace <$> h.sendGrants env now := sendGrants_tracing
  exact pollStarted_of_stamped blind run

theorem sendData_started {h' : Host} (run : h.sendData env now = .ok h') : h'.pollStarted = h.pollStarted := by
  have blind : (h.stamped h.pollStarted h.lastPollTrace).sendData env now =
      stamped h.pollStarted h.lastPollTrace <$> h.sendData env now := sendData_tracing
  exact pollStarted_of_stamped blind run

theorem sendGrants_polled :
    (h.polled time).sendGrants (env.tracing doTrace ival pos) now = polled time <$> h.sendGrants env now :=
  polled_of_stamped (fun _ => sendGrants_started) sendGrants_tracing

theorem sendData_polled : (h.polled time).sendData (env.tracing doTrace ival pos) now =
    polled time <$> h.sendData env now :=
  polled_of_stamped (fun _ => sendData_started) sendData_tracing

end Both

end Host

end PhantomPass
