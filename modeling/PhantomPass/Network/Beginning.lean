import PhantomPass.Granting.Clearing
import PhantomPass.Network.Senders
import PhantomPass.Tracing.Runs

/-! The beginning of a host. The first message or packet starts its polling,
which goes on for good; until then the host knows nobody and has sent nothing,
so that nothing but the configuration can fail in its first poll. -/

set_option autoImplicit false

namespace PhantomPass

open Lib (RoundRobin Store)

namespace Host

variable {env : Env} {h h' : Host} {p : Packet} {now : Time} {stamp : Stamp}

theorem poll_started (run : h.poll env now = .ok h') : h'.pollStarted = h.pollStarted := by
  unfold poll at run
  simp only [Lib.bind_eq_ok] at run
  obtain ⟨h1, granted, h2, sent, traced⟩ := run
  have same := pollTrace_same env now h2
  rw [traced] at same
  injection same with same
  have kept : (h'.polled 0).pollStarted = (h2.polled 0).pollStarted := by rw [same]
  exact kept.trans ((sendData_started sent).trans (sendGrants_started granted))

theorem recv_started (run : h.recv env now p stamp = .ok h') : h'.pollStarted = true := by
  obtain ⟨h1, st, started, -, dispatched⟩ := recv_cases run
  have polling := startPolling_started started
  cases dispatched with
  | reply rpc => exact polling
  | credit snd => exact polling
  | part rpc rcv => exact polling

theorem sendReq_started {payload : ℕ} {tuple : RequestIdTuple} (run : h.sendReq env now payload tuple = .ok h') :
    h'.pollStarted = true := by
  obtain ⟨-, h1, snd, started, rfl, -⟩ := sendReq_cases run
  have polling : h1.pollStarted = true := startPolling_started started
  exact polling

theorem appSendResponse_started {thread : ℤ} {payload : ℕ} (run : h.appSendResponse env now thread payload = .ok h') :
    h'.pollStarted = true := by
  obtain ⟨_, _, _, h1, -, -, started, -, rfl⟩ := appSendResponse_cases run
  have polling : h1.pollStarted = true := startPolling_started started
  exact polling

/-- A host that has not polled yet, or one whose policy for granting is implemented. -/
structure Begun (cfg : Config) (h : Host) : Prop where
  idle : h.pollStarted = false → h.snd.remotes.keys = [] ∧ h.rcv.inbound.msgs = [] ∧ h.rcv.senderState.keys = [] ∧
    h.sent = [] ∧ h.lastGrantTime = 0
  grants : h.pollStarted = true → cfg.Grants

theorem Begun.of_started {cfg : Config} (started : h.pollStarted = true) (grants : cfg.Grants) : h.Begun cfg :=
  ⟨fun idle => (nomatch started.symm.trans idle), fun _ => grants⟩

theorem Begun.withRpc {cfg : Config} (begun : h.Begun cfg) (rpc : Rpc) : ({ h with rpc } : Host).Begun cfg :=
  ⟨begun.idle, begun.grants⟩

theorem grants_of_sendGrants (due : ¬ now - h.lastGrantTime < 48 / 100000000) (run : h.sendGrants env now = .ok h') :
    env.cfg.Grants := by
  unfold sendGrants at run
  rw [if_neg due] at run
  split at run
  · cases run
  · next pace =>
    refine ⟨by simpa using pace, ?_⟩
    split at run
    · next ts => exact Or.inl ts
    · split at run
      · next srpt => exact Or.inr (Or.inl srpt)
      · split at run
        · next equal => exact Or.inr (Or.inr equal)
        · cases run

theorem Begun.grants_of_startPolling (begun : h.Begun env.cfg) (clock : 10 ≤ now)
    (run : h.startPolling env now = .ok h') :
    env.cfg.Grants := by
  unfold startPolling at run
  split at run
  · next started => exact begun.grants started
  · next idle =>
    obtain ⟨-, -, -, -, last⟩ := begun.idle (by simpa using idle)
    simp only [Lib.bind_eq_ok] at run
    obtain ⟨h1, polled, -⟩ := run
    unfold poll at polled
    simp only [Lib.bind_eq_ok] at polled
    obtain ⟨h2, granted, -⟩ := polled
    apply grants_of_sendGrants _ granted
    rw [last]
    linarith

theorem sendGrants_nothing (now : Time) (grants : env.cfg.Grants) (none : h.rcv.inbound.msgs = []) :
    ∃ h1, h.sendGrants env now = .ok h1 ∧ h1.snd = h.snd := by
  have done : h.Done := by
    intro id inside
    rw [none] at inside
    cases inside
  have nodup : h.rcv.inbound.msgs.Nodup := by
    rw [none]
    exact List.nodup_nil
  obtain ⟨h1, run, same, -⟩ := sendGrants_complete now grants done nodup fun _ => none
  exact ⟨h1, run, same⟩

theorem poll_nobody (now : Time) (grants : env.cfg.Grants)
    (nobody : h.snd.remotes.keys = [] ∧ h.rcv.inbound.msgs = []) :
    ∃ h1, h.poll env now = .ok h1 := by
  obtain ⟨h1, granted, same⟩ := sendGrants_nothing now grants nobody.2
  have quiet : (h1.updateDataBacklog env now).snd.remotes.keys = [] := by
    change h1.snd.remotes.keys = []
    rw [same]
    exact nobody.1
  have sent : h1.sendData env now = .ok (h1.updateDataBacklog env now) := if_pos quiet
  have traced := pollTrace_same env now (h1.updateDataBacklog env now)
  unfold poll
  rw [granted, Lib.ok_bind, sent, Lib.ok_bind]
  cases run : (h1.updateDataBacklog env now).pollTrace env now with
  | ok h2 => exact ⟨h2, rfl⟩
  | error stop =>
    rw [run] at traced
    cases traced

theorem Begun.startPolling_succeeds (now : Time) (grants : env.cfg.Grants) (begun : h.Begun env.cfg) :
    ∃ h1, h.startPolling env now = .ok h1 := by
  unfold startPolling
  split
  · exact ⟨h, rfl⟩
  · next idle =>
    obtain ⟨nobody, nothing, -⟩ := begun.idle (by simpa using idle)
    obtain ⟨h1, polled⟩ := poll_nobody now grants ⟨nobody, nothing⟩
    rw [polled]
    exact ⟨_, rfl⟩

theorem steps_of_nothing {r r' : RecvSide} (none : r.live = ∅) (steps : RecvSide.Steps r r') : r' = r := by
  cases Relation.ReflTransGen.cases_head steps with
  | inl same => exact same.symm
  | inr rest =>
    obtain ⟨next, step, -⟩ := rest
    cases step with
    | grant id now p live =>
      rw [none] at live
      exact absurd live (Finset.notMem_empty id)
    | retire id live =>
      rw [none] at live
      exact absurd live (Finset.notMem_empty id)

theorem Begun.startPolling_same (begun : h.Begun env.cfg) (ok : HalvesOk env.cfg h)
    (run : h.startPolling env now = .ok h') :
    h'.recvSide env.cfg = h.recvSide env.cfg ∧ h'.senderOf env = h.senderOf env := by
  cases started : h.pollStarted with
  | true =>
    have stays : h.startPolling env now = .ok h := startPolling_of_started started
    rw [← Except.ok.inj (stays.symm.trans run)]
    exact ⟨rfl, rfl⟩
  | false =>
    obtain ⟨-, nothing, strangers, -⟩ := begun.idle started
    have none : (h.recvSide env.cfg).live = ∅ := List.toFinset_eq_empty_iff _ |>.mpr nothing
    have same := steps_of_nothing none (startPolling_ok ok run).recv
    have keys : h'.rcv.senderState.keys = h.rcv.senderState.keys := congrArg RecvSide.senders same
    refine ⟨same, ?_⟩
    funext addr
    unfold senderOf Store.find
    rw [keys, strangers]
    rfl

end Host

namespace Net

variable {env : Env} {net net' : Net} {e : Event} {cond : Net → Event → Prop}

theorem begun_act {addr : Addr} {flight : List Packet} {h : Host} (begun : ∀ a, (net.host a).Begun env.cfg)
    (here : h.Begun env.cfg) : ∀ a, ((net.act addr flight h).host a).Begun env.cfg := by
  intro a
  rw [host_act]
  split
  · exact here
  · exact begun a

theorem begun_fire (clock : 10 ≤ net.clock) (begun : ∀ a, (net.host a).Begun env.cfg) (enabled : net.Enabled env e)
    (run : net.fire env e = .ok net') : ∀ a, (net'.host a).Begun env.cfg := by
  cases e with
  | tick seconds =>
    unfold Net.fire at run
    rw [Lib.pure_eq_ok] at run
    rw [← run]
    exact begun
  | request client server clThread srThread appLevelId n =>
    unfold Net.fire at run
    simp only [Lib.bind_eq_ok, Lib.pure_eq_ok] at run
    obtain ⟨h, sent, rfl⟩ := run
    obtain ⟨-, h1, -, started, -⟩ := Host.sendReq_cases sent
    exact begun_act begun (.of_started (Host.sendReq_started sent)
      (((begun client).withRpc _).grants_of_startPolling clock started))
  | reply server thread n =>
    unfold Net.fire at run
    simp only [Lib.bind_eq_ok, Lib.pure_eq_ok] at run
    obtain ⟨h, sent, rfl⟩ := run
    obtain ⟨_, _, _, h1, -, -, started, -⟩ := Host.appSendResponse_cases sent
    exact begun_act begun (.of_started (Host.appSendResponse_started sent)
      (((begun server).withRpc _).grants_of_startPolling clock started))
  | poll addr =>
    unfold Net.fire at run
    simp only [Lib.bind_eq_ok, Lib.pure_eq_ok] at run
    obtain ⟨h, polled, rfl⟩ := run
    exact begun_act begun (.of_started ((Host.poll_started polled).trans enabled) ((begun addr).grants enabled))
  | deliver p stamp =>
    unfold Net.fire at run
    simp only [Lib.bind_eq_ok, Lib.pure_eq_ok] at run
    obtain ⟨h, received, rfl⟩ := run
    obtain ⟨h1, -, started, -⟩ := Host.recv_cases received
    exact begun_act begun (.of_started (Host.recv_started received)
      ((begun p.dst).grants_of_startPolling clock started))
  | collect addr =>
    unfold Net.fire at run
    rw [Lib.pure_eq_ok] at run
    rw [← run]
    exact begun_act begun ((begun addr).withRpc _)

theorem Reach.begun (reach : Reach env cond net) : ∀ a, (net.host a).Begun env.cfg := by
  -- a host that has not polled yet has sent nothing, and the first event that polls starts the pacer
  induction reach with
  | init => exact fun a => ⟨fun _ => ⟨rfl, rfl, rfl, rfl, rfl⟩, fun started => nomatch started⟩
  | step before enabled _ run ih => exact begun_fire before.ok.clock ih enabled run

theorem Reach.grants (reach : Reach env cond net) {p : Packet} (flight : p ∈ net.flight) : env.cfg.Grants := by
  have begun := reach.begun p.src
  cases started : (net.host p.src).pollStarted with
  | true => exact begun.grants started
  | false =>
    obtain ⟨-, -, -, none, -⟩ := begun.idle started
    have sent := sent_of_flight reach.ok flight
    rw [none] at sent
    cases sent

end Net

end PhantomPass
