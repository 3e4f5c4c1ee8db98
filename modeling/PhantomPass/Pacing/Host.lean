import Mathlib
import PhantomPass.Lib.Pacer
import PhantomPass.Hybrid.Host
import PhantomPass.Refinement.Transport
import PhantomPass.Truncation

/-! The two pacers of a host: every call of a host is a run of both, in which
GRANTs and data packets are what is sent. -/

set_option autoImplicit false

namespace PhantomPass

open Lib (RoundRobin Pacer)

namespace Config

variable (cfg : Config)

def pacerRate : ℚ := cfg.linkSpeedGbps * 1000 * 1000 * 1000 / 8

/-- A pass goes on until the backlog is more than what drains in one loop and a half. -/
def pacerRules : Pacer.Rules ℚ where
  rate := cfg.pacerRate
  limit := 3 / 2 * cfg.bytesDrainedPerLoop
  largest := maxEthernetFrameOnWire

theorem drained_eq (seconds : ℚ) : cfg.drained seconds = cfg.pacerRate * seconds := by
  unfold drained secondsToBytes pacerRate
  ring

end Config

def frameBytes (log : List Packet) : ℕ := (log.map Packet.size).sum

def creditSent (log : List Packet) : ℤ := creditSum (log.filter Packet.isGrant)

def dataSent (log : List Packet) : ℕ := frameBytes (dataPkts log)

theorem creditSent_append (log more : List Packet) : creditSent (log ++ more) = creditSent log + creditSent more := by
  unfold creditSent
  rw [List.filter_append, creditSum_append]

theorem dataSent_append (log more : List Packet) : dataSent (log ++ more) = dataSent log + dataSent more := by
  unfold dataSent frameBytes
  rw [dataPkts_append, List.map_append, List.sum_append]

theorem creditSent_singleton (p : Packet) : creditSent [p] = if p.isGrant then p.hdr.credit else 0 := by
  unfold creditSent
  cases kind : p.isGrant <;> simp [kind]

theorem dataSent_singleton (p : Packet) : dataSent [p] = if p.isData then p.size else 0 := by
  unfold dataSent frameBytes
  rw [dataPkts_singleton]
  split <;> simp

namespace Host

variable {env : Env} {h h' h1 h2 : Host} {now start : Time}

def grantPacer (h : Host) : Pacer ℚ := ⟨h.grantPacerBacklog, h.lastGrantPacerUpdate, creditSent h.sent⟩

def dataPacer (h : Host) : Pacer ℚ := ⟨h.dataPacerBacklog, h.lastDataPacerUpdate, dataSent h.sent⟩

structure Quiet (h h' : Host) : Prop where
  thisAddr : h'.thisAddr = h.thisAddr
  agentSeqno : h'.agentSeqno = h.agentSeqno
  sent : h'.sent = h.sent
  grantBacklog : h'.grantPacerBacklog = h.grantPacerBacklog
  grantUpdate : h'.lastGrantPacerUpdate = h.lastGrantPacerUpdate
  dataBacklog : h'.dataPacerBacklog = h.dataPacerBacklog
  dataUpdate : h'.lastDataPacerUpdate = h.lastDataPacerUpdate

theorem Quiet.refl (h : Host) : Quiet h h := ⟨rfl, rfl, rfl, rfl, rfl, rfl, rfl⟩

theorem Quiet.trans (first : Quiet h h1) (second : Quiet h1 h2) : Quiet h h2 where
  thisAddr := second.thisAddr.trans first.thisAddr
  agentSeqno := second.agentSeqno.trans first.agentSeqno
  sent := second.sent.trans first.sent
  grantBacklog := second.grantBacklog.trans first.grantBacklog
  grantUpdate := second.grantUpdate.trans first.grantUpdate
  dataBacklog := second.dataBacklog.trans first.dataBacklog
  dataUpdate := second.dataUpdate.trans first.dataUpdate

/-- A call at a time runs both pacers, which were not drained later. -/
structure Paces (cfg : Config) (now : Time) (h h' : Host) : Prop where
  grant : Pacer.Steps cfg.pacerRules now h.grantPacer h'.grantPacer
  data : Pacer.Steps cfg.pacerRules now h.dataPacer h'.dataPacer
  grantUpdate : h.lastGrantPacerUpdate ≤ now → h'.lastGrantPacerUpdate ≤ now
  dataUpdate : h.lastDataPacerUpdate ≤ now → h'.lastDataPacerUpdate ≤ now

namespace Paces

variable {cfg : Config}

theorem refl (h : Host) : Paces cfg now h h := ⟨.refl, .refl, id, id⟩

theorem trans (first : Paces cfg now h h1) (second : Paces cfg now h1 h2) : Paces cfg now h h2 where
  grant := first.grant.trans second.grant
  data := first.data.trans second.data
  grantUpdate early := second.grantUpdate (first.grantUpdate early)
  dataUpdate early := second.dataUpdate (first.dataUpdate early)

end Paces

theorem Quiet.paces {cfg : Config} (quiet : Quiet h h') : Paces cfg now h h' := by
  have grant : h'.grantPacer = h.grantPacer := by
    unfold grantPacer
    rw [quiet.grantBacklog, quiet.grantUpdate, quiet.sent]
  have data : h'.dataPacer = h.dataPacer := by
    unfold dataPacer
    rw [quiet.dataBacklog, quiet.dataUpdate, quiet.sent]
  refine ⟨by rw [grant]; exact .refl, by rw [data]; exact .refl, ?_, ?_⟩
  · rw [quiet.grantUpdate]; exact id
  · rw [quiet.dataUpdate]; exact id

section Drain

variable (rate : 0 ≤ env.cfg.pacerRate)

include rate in
/-- What a pacer drains is at most what its rate allows, whatever the bound on the interval and the rounding do. -/
theorem drain_le {last : Time} (order : last ≤ now) :
    (truncInt (env.cfg.drained (min (now - last) (1 / 100000))) : ℚ) ≤ env.cfg.pacerRate * (now - last) := by
  have interval : 0 ≤ min (now - last) (1 / 100000) := le_min (sub_nonneg.mpr order) (by norm_num)
  rw [Config.drained_eq]
  have nonneg : 0 ≤ env.cfg.pacerRate * min (now - last) (1 / 100000) := mul_nonneg rate interval
  calc (truncInt (env.cfg.pacerRate * min (now - last) (1 / 100000)) : ℚ)
      ≤ env.cfg.pacerRate * min (now - last) (1 / 100000) := truncInt_le nonneg
    _ ≤ env.cfg.pacerRate * (now - last) := mul_le_mul_of_nonneg_left (min_le_left _ _) rate

include rate in
theorem updateGrantBacklog_paces (order : h.lastGrantPacerUpdate ≤ now) :
    Paces env.cfg now h (h.updateGrantBacklog env now) := by
  refine ⟨.single ?_, .refl, fun _ => le_refl now, id⟩
  have step : Pacer.Step env.cfg.pacerRules now h.grantPacer _ := .drain now _ le_rfl order (drain_le rate order)
  unfold grantPacer at step ⊢
  unfold updateGrantBacklog
  dsimp only at step ⊢
  push_cast
  exact step

include rate in
theorem updateDataBacklog_paces (order : h.lastDataPacerUpdate ≤ now) :
    Paces env.cfg now h (h.updateDataBacklog env now) := by
  refine ⟨.refl, .single ?_, id, fun _ => le_refl now⟩
  have step : Pacer.Step env.cfg.pacerRules now h.dataPacer _ := .drain now _ le_rfl order (drain_le rate order)
  unfold dataPacer at step ⊢
  unfold updateDataBacklog
  dsimp only at step ⊢
  push_cast
  exact step

end Drain

section Grants

variable {id : UniqReqId} {result : CreditResult} {ret ret' : Option CreditResult}

theorem creditNeeded_bounds (m : InboundMsgState) : 0 ≤ m.creditNeeded ∧ m.creditNeeded ≤ maxEthernetFrameOnWire := by
  unfold InboundMsgState.creditNeeded InboundMsgState.creditNeededData
  simp only [maxR2p2Payload, r2p2AllHeadersSize, interPktGapSize, ethernetPreambleSize, minEthernetFrameOnWire,
    maxEthernetFrameOnWire]
  omega

structure Passing (cfg : Config) (now : Time) (h h' : Host) : Prop where
  paces : Paces cfg now h h'
  update : h'.lastGrantPacerUpdate = h.lastGrantPacerUpdate
  dataUpdate : h'.lastDataPacerUpdate = h.lastDataPacerUpdate

namespace Passing

variable {cfg : Config}

theorem refl (h : Host) : Passing cfg now h h := ⟨.refl h, rfl, rfl⟩

theorem trans (first : Passing cfg now h h1) (second : Passing cfg now h1 h2) : Passing cfg now h h2 :=
  ⟨first.paces.trans second.paces, second.update.trans first.update, second.dataUpdate.trans first.dataUpdate⟩

theorem quiet (quiet : Quiet h h') : Passing cfg now h h' := ⟨quiet.paces, quiet.grantUpdate, quiet.dataUpdate⟩

end Passing

variable (pacing : env.cfg.paceGrants = true)

include pacing in
theorem issueGrant_passing (drained : h.lastGrantPacerUpdate = now) (free : h.grantPacerBusy env.cfg = false)
    (run : h.issueGrant env now id = .ok h') : Passing env.cfg now h h' := by
  unfold issueGrant at run
  dsimp only at run
  split at run
  · unfold forwardGrant assert at run
    simp only [Lib.bind_eq_ok] at run
    obtain ⟨-, -, -, -, -, -, forward⟩ := run
    obtain ⟨p, emits, rfl⟩ := forwardToTransport_ok forward (by decide) (by decide)
    have credit : p.hdr.credit = (h.rcv.msg id).creditNeeded := by rw [emits.carries.hdr]; rfl
    have type : p.hdr.msgType = .grant := emits.carries.msgType
    have isGrant : p.isGrant = true := by unfold Packet.isGrant; rw [type]; rfl
    have notData : p.isData = false := by unfold Packet.isData; rw [type]; rfl
    have low : (h.grantPacerBacklog : ℚ) ≤ 3 / 2 * env.cfg.bytesDrainedPerLoop := by
      unfold grantPacerBusy at free
      rw [pacing, Bool.true_and, decide_eq_false_iff_not] at free
      exact not_lt.mp free
    obtain ⟨nonneg, most⟩ := creditNeeded_bounds (h.rcv.msg id)
    refine ⟨⟨.single ?_, .single ?_, fun early => early, fun early => early⟩, rfl, rfl⟩
    · have step : Pacer.Step env.cfg.pacerRules now h.grantPacer _ := .send
        ((h.rcv.msg id).creditNeeded : ℚ) drained.ge low (by exact_mod_cast nonneg) (show _ ≤
          (maxEthernetFrameOnWire : ℚ) by exact_mod_cast most)
      have sent : creditSent (h.sent ++ [p]) = creditSent h.sent + (h.rcv.msg id).creditNeeded := by
        rw [creditSent_append, creditSent_singleton, if_pos isGrant, credit]
      unfold grantPacer at step ⊢
      dsimp only [emit, countGrant, chargeGrant] at step ⊢
      rw [sent]
      push_cast
      exact step
    · have step : Pacer.Step env.cfg.pacerRules now h.dataPacer _ := .load
        ((grantMsgSize + r2p2AllHeadersSize + interPktGapSize + ethernetPreambleSize : ℕ) : ℚ) (Nat.cast_nonneg _)
      have sent : dataSent (h.sent ++ [p]) = dataSent h.sent := by
        rw [dataSent_append, dataSent_singleton, notData]
        rfl
      unfold dataPacer at step ⊢
      dsimp only [emit, countGrant, chargeGrant] at step ⊢
      rw [sent]
      push_cast at step ⊢
      exact step
  · rw [Lib.pure_eq_ok] at run
    subst run
    exact .refl h

theorem rcv_quiet (h : Host) (rcv : Receiver) : Quiet h { h with rcv } := ⟨rfl, rfl, rfl, rfl, rfl, rfl, rfl⟩

include pacing in
theorem grantCredit_passing (drained : h.lastGrantPacerUpdate = now) (free : h.grantPacerBusy env.cfg = false)
    (run : h.grantCredit env now id = .ok (h', result)) : Passing env.cfg now h h' := by
  unfold grantCredit assert at run
  simp only [Lib.bind_eq_ok] at run
  obtain ⟨-, -, run⟩ := run
  split at run
  · simp only [Lib.pure_eq_ok, Prod.mk.injEq] at run
    obtain ⟨rfl, -⟩ := run
    exact .refl h
  · simp only [Lib.bind_eq_ok, Lib.pure_eq_ok, Prod.mk.injEq] at run
    obtain ⟨h1, issue, -, -, rfl, -⟩ := run
    exact issueGrant_passing pacing drained free issue

include pacing in
theorem sendCreditPolicyCommon_passing (drained : h.lastGrantPacerUpdate = now)
    (free : h.grantPacerBusy env.cfg = false)
    (run : h.sendCreditPolicyCommon env now id = .ok (h', result)) : Passing env.cfg now h h' := by
  unfold sendCreditPolicyCommon assert at run
  simp only [Lib.bind_eq_ok] at run
  obtain ⟨-, -, -, -, run⟩ := run
  split at run
  · simp only [Lib.bind_eq_ok, Lib.pure_eq_ok, Prod.mk.injEq] at run
    obtain ⟨rcv, -, rfl, -⟩ := run
    exact .quiet (rcv_quiet h rcv)
  · simp only [Lib.bind_eq_ok] at run
    obtain ⟨-, -, -, -, run⟩ := run
    split at run
    · simp only [Lib.pure_eq_ok, Prod.mk.injEq] at run
      obtain ⟨rfl, -⟩ := run
      exact .refl h
    · exact grantCredit_passing pacing drained free run

include pacing in
theorem grantInformed_passing (drained : h.lastGrantPacerUpdate = now) (free : h.grantPacerBusy env.cfg = false)
    (run : h.grantInformed env now id ret = .ok (h', ret')) : Passing env.cfg now h h' := by
  unfold grantInformed assert at run
  dsimp only at run
  split at run
  · simp only [Lib.bind_eq_ok, Lib.pure_eq_ok, Prod.mk.injEq] at run
    obtain ⟨-, -, ⟨h1, result⟩, common, rfl, -⟩ := run
    exact sendCreditPolicyCommon_passing pacing drained free common
  · simp only [Lib.pure_eq_ok, Prod.mk.injEq] at run
    obtain ⟨rfl, -⟩ := run
    exact .refl h

include pacing in
theorem tsMsgLoop_passing {turns i : ℕ} (drained : h.lastGrantPacerUpdate = now)
    (run : h.tsMsgLoop env now turns i ret = .ok h') : Passing env.cfg now h h' := by
  -- the pacer is looked at before each turn, so that one GRANT at most goes beyond it
  induction turns generalizing h i ret with
  | zero =>
    simp only [tsMsgLoop, Lib.pure_eq_ok] at run
    subst run
    exact .refl h
  | succ turns ih =>
    unfold tsMsgLoop at run
    split at run
    · rw [Lib.pure_eq_ok] at run
      subst run
      exact .refl h
    · next free =>
      split at run
      · cases run
      · simp only [Lib.bind_eq_ok] at run
        obtain ⟨⟨h1, ret1⟩, informed, run⟩ := run
        have first := grantInformed_passing pacing drained
          (by simpa only [Bool.not_eq_true] using (not_or.mp free).2) informed
        dsimp only at run
        split at run
        · rw [Lib.pure_eq_ok] at run
          subst run
          exact first
        · split at run
          · cases run
          · next inbound _ =>
            have moved : Passing env.cfg now h1 { h1 with rcv := { h1.rcv with inbound } } := .quiet (rcv_quiet h1 _)
            exact first.trans (moved.trans (ih (moved.update.trans (first.update.trans drained)) run))

include pacing in
theorem sortedMsgLoop_passing {turns i : ℕ} (drained : h.lastGrantPacerUpdate = now)
    (run : h.sortedMsgLoop env now turns i ret = .ok h') : Passing env.cfg now h h' := by
  induction turns generalizing h i ret with
  | zero =>
    simp only [sortedMsgLoop, Lib.pure_eq_ok] at run
    subst run
    exact .refl h
  | succ turns ih =>
    unfold sortedMsgLoop at run
    split at run
    · rw [Lib.pure_eq_ok] at run
      subst run
      exact .refl h
    · next free =>
      split at run
      · cases run
      · next id inbound _ =>
        simp only [Lib.bind_eq_ok] at run
        obtain ⟨⟨h1, ret1⟩, informed, run⟩ := run
        have moved : Passing env.cfg now h { h with rcv := { h.rcv with inbound } } := .quiet (rcv_quiet h _)
        have still : ({ h with rcv := { h.rcv with inbound } } : Host).grantPacerBusy env.cfg = false := by
          have busy := (not_or.mp free).2
          rwa [Bool.not_eq_true] at busy
        have first := moved.trans (grantInformed_passing pacing (moved.update.trans drained) still informed)
        exact first.trans (ih (first.update.trans drained) run)

include pacing in
theorem sendGrantsSorted_passing {key : UniqReqId → ℤ} (drained : h.lastGrantPacerUpdate = now)
    (run : h.sendGrantsSorted env now key = .ok h') : Passing env.cfg now h h' := by
  unfold sendGrantsSorted at run
  split at run
  · rw [Lib.pure_eq_ok] at run
    subst run
    exact .refl h
  · dsimp only at run
    have moved : Passing env.cfg now h _ := .quiet (rcv_quiet h { h.rcv with
      inbound := (h.rcv.inbound.reorder (env.plat.sortBy key h.rcv.inbound.msgs) (env.plat.sortBy_perm ..)).reset })
    exact moved.trans (sortedMsgLoop_passing pacing (moved.update.trans drained) run)

end Grants

theorem sendGrants_paces (rate : 0 ≤ env.cfg.pacerRate) (order : h.lastGrantPacerUpdate ≤ now)
    (run : h.sendGrants env now = .ok h') : Paces env.cfg now h h' := by
  unfold sendGrants at run
  split at run
  · rw [Lib.pure_eq_ok] at run
    subst run
    exact .refl h
  · dsimp only at run
    have noted : Quiet h { h with lastGrantTime := now } := ⟨rfl, rfl, rfl, rfl, rfl, rfl, rfl⟩
    have drains : Paces env.cfg now h ({ h with lastGrantTime := now }.updateGrantBacklog env now) :=
      noted.paces.trans (updateGrantBacklog_paces rate order)
    have drained : ({ h with lastGrantTime := now }.updateGrantBacklog env now).lastGrantPacerUpdate = now := rfl
    split at run
    · cases run
    · next pacing =>
      have pacing : env.cfg.paceGrants = true := by simpa using pacing
      split at run
      · unfold sendGrantsTsMsg at run
        exact drains.trans (tsMsgLoop_passing pacing drained run).paces
      · split at run
        · exact drains.trans (sendGrantsSorted_passing pacing drained run).paces
        · split at run
          · exact drains.trans (sendGrantsSorted_passing pacing drained run).paces
          · cases run

section Data

variable {id : UniqReqId} {ps : PolicyState}

theorem snd_quiet (h : Host) (snd : Sender) : Quiet h { h with snd } := ⟨rfl, rfl, rfl, rfl, rfl, rfl, rfl⟩

theorem emit_passing {p : Packet} {amount : ℕ} (grant : p.isGrant = false) (data : p.isData = false)
    (thisSent : h'.sent = h.sent ++ [p]) (grantBacklog : h'.grantPacerBacklog = h.grantPacerBacklog)
    (grantUpdate : h'.lastGrantPacerUpdate = h.lastGrantPacerUpdate)
    (dataBacklog : h'.dataPacerBacklog = h.dataPacerBacklog + amount)
    (dataUpdate : h'.lastDataPacerUpdate = h.lastDataPacerUpdate) : Passing env.cfg now h h' := by
  have credit : creditSent h'.sent = creditSent h.sent := by
    rw [thisSent, creditSent_append, creditSent_singleton, grant]
    simp
  have bytes : dataSent h'.sent = dataSent h.sent := by
    rw [thisSent, dataSent_append, dataSent_singleton, data]
    rfl
  have same : h'.grantPacer = h.grantPacer := by
    unfold grantPacer
    rw [grantBacklog, grantUpdate, credit]
  have step : Pacer.Step env.cfg.pacerRules now h.dataPacer _ := .load (amount : ℚ) (Nat.cast_nonneg _)
  refine ⟨⟨by rw [same]; exact .refl, .single ?_, by rw [grantUpdate]; exact id, by rw [dataUpdate]; exact id⟩,
    grantUpdate, dataUpdate⟩
  unfold dataPacer at step ⊢
  rw [dataBacklog, dataUpdate, bytes]
  push_cast
  exact step

theorem sendGrantReq_passing (run : h.sendGrantReq env id = .ok h') : Passing env.cfg now h h' := by
  unfold sendGrantReq assert at run
  simp only [Lib.bind_eq_ok, Lib.pure_eq_ok] at run
  obtain ⟨-, -, h1, forward, -, -, rfl⟩ := run
  obtain ⟨p, emits, rfl⟩ := forwardToTransport_ok forward (by decide) (by decide)
  have type : p.hdr.msgType = .grantReq := emits.carries.msgType
  have grant : p.isGrant = false := by unfold Packet.isGrant; rw [type]; rfl
  have data : p.isData = false := by unfold Packet.isData; rw [type]; rfl
  exact emit_passing grant data rfl rfl rfl rfl rfl

theorem activate_passing (run : h.activate env id = .ok h') : Passing env.cfg now h h' := by
  unfold activate assert at run
  dsimp only at run
  split at run
  · rw [Lib.pure_eq_ok] at run
    subst run
    exact .refl h
  · simp only [Lib.bind_eq_ok] at run
    obtain ⟨-, -, run⟩ := run
    split at run
    · simp only [Lib.bind_eq_ok, Lib.pure_eq_ok] at run
      obtain ⟨h1, req, snd, -, rfl⟩ := run
      exact (sendGrantReq_passing req).trans (.quiet (snd_quiet h1 snd))
    · simp only [Lib.bind_eq_ok, Lib.pure_eq_ok] at run
      obtain ⟨h1, rfl, snd, -, rfl⟩ := run
      exact .quiet (snd_quiet _ snd)

theorem activateLoop_passing {turns : ℕ} (run : h.activateLoop env turns = .ok h') : Passing env.cfg now h h' := by
  induction turns generalizing h with
  | zero =>
    simp only [activateLoop, Lib.pure_eq_ok] at run
    subst run
    exact .refl h
  | succ turns ih =>
    unfold activateLoop at run
    split at run
    · cases run
    · next id inactive _ =>
      simp only [Lib.bind_eq_ok] at run
      obtain ⟨h1, one, rest⟩ := run
      have moved : Passing env.cfg now h { h with snd := { h.snd with outboundInactive := inactive } } :=
        .quiet (snd_quiet h _)
      exact moved.trans ((activate_passing one).trans (ih rest))

theorem announce_passing (run : h.announce env = .ok h') : Passing env.cfg now h h' := by
  unfold announce at run
  simp only [Lib.bind_eq_ok] at run
  obtain ⟨snd, -, loop⟩ := run
  exact (Passing.quiet (snd_quiet h snd)).trans (activateLoop_passing loop)

theorem dropSent_quiet {addr : Addr} (run : h.dropSent id addr = .ok h') : Quiet h h' := by
  unfold dropSent at run
  split at run
  · cases run
  · rw [Lib.pure_eq_ok] at run
    subst run
    exact snd_quiet h _

theorem transmit_paces (drained : h.lastDataPacerUpdate = now)
    (low : (h.dataPacerBacklog : ℚ) ≤ 3 / 2 * env.cfg.bytesDrainedPerLoop) (run : h.transmit env ps id = .ok h') :
    Paces env.cfg now h h' := by
  unfold transmit at run
  dsimp only at run
  simp only [Lib.bind_eq_ok] at run
  obtain ⟨_, check, h1, forward, -, -, finish⟩ := run
  have unsent : 0 < (h.snd.msg id).unsentBytes := by
    unfold checkTransmit assert at check
    simp only [Lib.bind_eq_ok, Lib.require_eq_ok, exists_and_left, exists_const] at check
    exact check.2.2.1
  have len : (h.snd.msg id).nextPayload = min ethernet.mss (h.snd.msg id).unsentBytes :=
    OutboundMsgState.nextPayload_eq _
  have mss : ethernet.mss = maxR2p2Payload := rfl
  obtain ⟨p, emits, rfl⟩ := forwardToTransport_ok forward (by have := ethernet.mss_pos; omega) (by omega)
  have size : p.size = nextPktBytes (h.snd.msg id).unsentBytes := by
    rw [emits.carries.size, len, nextPktBytes_eq]
    rfl
  have type : p.hdr.msgType = if (h.snd.msg id).isRequest then .request else .reply := emits.carries.msgType
  have data : p.isData = true := by unfold Packet.isData; rw [type]; split <;> rfl
  have grant : p.isGrant = false := Packet.isGrant_of_isData data
  have most : (nextPktBytes (h.snd.msg id).unsentBytes : ℚ) ≤ (maxEthernetFrameOnWire : ℕ) := by
    have cost : nextPktBytes (h.snd.msg id).unsentBytes ≤ maxEthernetFrameOnWire := by
      unfold nextPktBytes
      simp only [maxR2p2Payload, r2p2AllHeadersSize, interPktGapSize, ethernetPreambleSize, minEthernetFrameOnWire,
        maxEthernetFrameOnWire]
      omega
    exact_mod_cast cost
  have sends : Paces env.cfg now h ((h.spend id).emit p) := by
    have credit : creditSent (h.sent ++ [p]) = creditSent h.sent := by
      rw [creditSent_append, creditSent_singleton, grant]
      simp
    have bytes : dataSent (h.sent ++ [p]) = dataSent h.sent + nextPktBytes (h.snd.msg id).unsentBytes := by
      rw [dataSent_append, dataSent_singleton, if_pos data, size]
    have step : Pacer.Step env.cfg.pacerRules now h.dataPacer _ :=
      .send (nextPktBytes (h.snd.msg id).unsentBytes : ℚ) drained.ge low (Nat.cast_nonneg _) most
    refine ⟨?_, .single ?_, fun early => early, fun early => early⟩
    · have same : ((h.spend id).emit p).grantPacer = h.grantPacer := by
        unfold grantPacer
        dsimp only [emit, spend]
        rw [credit]
      rw [same]
      exact .refl
    · unfold dataPacer at step ⊢
      dsimp only [emit, spend] at step ⊢
      rw [bytes]
      push_cast at step ⊢
      exact step
  split at finish
  · exact sends.trans (dropSent_quiet finish).paces
  · rw [Lib.pure_eq_ok] at finish
    subst finish
    exact sends

theorem sendSelected_paces (drained : h.lastDataPacerUpdate = now)
    (low : (h.dataPacerBacklog : ℚ) ≤ 3 / 2 * env.cfg.bytesDrainedPerLoop) (run : h.sendSelected env = .ok h') :
    Paces env.cfg now h h' := by
  unfold sendSelected at run
  simp only [Lib.bind_eq_ok] at run
  obtain ⟨s1, -, ⟨selected, s2⟩, -, run⟩ := run
  have chosen : Paces env.cfg now h { h with snd := s2 } := (snd_quiet h s2).paces
  dsimp only at run
  split at run
  · rw [Lib.pure_eq_ok] at run
    subst run
    exact chosen
  · split at run
    · cases run
    · exact chosen.trans (transmit_paces drained low run)

theorem sendData_paces (rate : 0 ≤ env.cfg.pacerRate) (order : h.lastDataPacerUpdate ≤ now)
    (run : h.sendData env now = .ok h') : Paces env.cfg now h h' := by
  unfold sendData at run
  dsimp only at run
  have drains : Paces env.cfg now h (h.updateDataBacklog env now) := updateDataBacklog_paces rate order
  have drained : (h.updateDataBacklog env now).lastDataPacerUpdate = now := rfl
  split at run
  · rw [Lib.pure_eq_ok] at run
    subst run
    exact drains
  · simp only [Lib.bind_eq_ok] at run
    obtain ⟨h1, announced, run⟩ := run
    have announces : Passing env.cfg now _ _ := announce_passing announced
    split at run
    · rw [Lib.pure_eq_ok] at run
      subst run
      exact drains.trans announces.paces
    · next low =>
      exact drains.trans (announces.paces.trans
        (sendSelected_paces (announces.dataUpdate.trans drained) (not_lt.mp low) run))

end Data

section Calls

theorem poll_paces (rate : 0 ≤ env.cfg.pacerRate) (grantOrder : h.lastGrantPacerUpdate ≤ now)
    (dataOrder : h.lastDataPacerUpdate ≤ now) (run : h.poll env now = .ok h') : Paces env.cfg now h h' := by
  unfold poll at run
  simp only [Lib.bind_eq_ok] at run
  obtain ⟨h1, grants, h2, data, trace⟩ := run
  have first := sendGrants_paces rate grantOrder grants
  have second := first.trans (sendData_paces rate (first.dataUpdate dataOrder) data)
  unfold pollTrace at trace
  split at trace
  · simp only [Lib.bind_eq_ok, Lib.pure_eq_ok] at trace
    obtain ⟨_, -, inbound, -, rfl⟩ := trace
    exact second.trans (Quiet.paces ⟨rfl, rfl, rfl, rfl, rfl, rfl, rfl⟩)
  · rw [Lib.pure_eq_ok] at trace
    subst trace
    exact second

theorem startPolling_paces (rate : 0 ≤ env.cfg.pacerRate) (grantOrder : h.lastGrantPacerUpdate ≤ now)
    (dataOrder : h.lastDataPacerUpdate ≤ now) (run : h.startPolling env now = .ok h') : Paces env.cfg now h h' := by
  unfold startPolling at run
  split at run
  · rw [Lib.pure_eq_ok] at run
    subst run
    exact .refl h
  · simp only [Lib.bind_eq_ok, Lib.pure_eq_ok] at run
    obtain ⟨h1, polled, rfl⟩ := run
    exact (poll_paces rate grantOrder dataOrder polled).trans (Quiet.paces ⟨rfl, rfl, rfl, rfl, rfl, rfl, rfl⟩)

end Calls

end Host

end PhantomPass
