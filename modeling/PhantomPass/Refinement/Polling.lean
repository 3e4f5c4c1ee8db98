import PhantomPass.Hybrid.Host
import PhantomPass.Refinement.Granting
import PhantomPass.Refinement.SendData

/-! A poll as a run of both halves of its host, which nothing enters and of
which every frame sent belongs to one. -/

set_option autoImplicit false

namespace PhantomPass

open Lib (RoundRobin Store)

namespace Host

variable {env : Env} {h h' : Host} {now : Time}

structure Polls (cfg : Config) (h h' : Host) : Prop where
  thisAddr : h'.thisAddr = h.thisAddr
  rpc : h'.rpc = h.rpc
  rcvd : h'.rcvd = h.rcvd
  sent : ∃ more, h'.sent = h.sent ++ more
  remotes : h'.snd.remotes.keys = h.snd.remotes.keys
  keys : h'.snd.outbound.keys = h.snd.outbound.keys
  senders : h'.rcv.senderState.keys = h.rcv.senderState.keys
  windows : h'.windows = h.windows
  ok : HalvesOk cfg h'
  send : SendSide.Steps cfg h.sendSide h'.sendSide
  recv : RecvSide.Steps (h.recvSide cfg) (h'.recvSide cfg)

namespace Polls

variable {cfg : Config} {h1 h2 : Host}

theorem refl (ok : HalvesOk cfg h) : Polls cfg h h :=
  ⟨rfl, rfl, rfl, ⟨[], by simp⟩, rfl, rfl, rfl, rfl, ok, .refl, .refl⟩

theorem trans (first : Polls cfg h h1) (second : Polls cfg h1 h2) : Polls cfg h h2 := by
  obtain ⟨more, sent⟩ := first.sent
  obtain ⟨more', sent'⟩ := second.sent
  exact {
    thisAddr := second.thisAddr.trans first.thisAddr
    rpc := second.rpc.trans first.rpc
    rcvd := second.rcvd.trans first.rcvd
    sent := ⟨more ++ more', by rw [sent', sent, List.append_assoc]⟩
    remotes := second.remotes.trans first.remotes
    keys := second.keys.trans first.keys
    senders := second.senders.trans first.senders
    windows := second.windows.trans first.windows
    ok := second.ok
    send := first.send.trans second.send
    recv := first.recv.trans second.recv }

end Polls

theorem Grants.polls {cfg : Config} (grants : Grants cfg h h') : Polls cfg h h' := by
  obtain ⟨more, sent, kinds⟩ := grants.sent
  have none : more.filter (fun p => !p.isGrant) = [] := List.filter_eq_nil_iff.mpr fun p inside => by
    simp [kinds p inside]
  have side : h'.sendSide = h.sendSide := by
    unfold sendSide
    rw [grants.snd, grants.thisAddr, grants.rcvd, sent, List.filter_append, none, List.append_nil]
  exact {
    thisAddr := grants.thisAddr
    rpc := grants.rpc
    rcvd := grants.rcvd
    sent := ⟨more, sent⟩
    remotes := by rw [grants.snd]
    keys := by rw [grants.snd]
    senders := grants.senders
    windows := grants.windows
    ok := grants.ok
    send := by rw [side]; exact .refl
    recv := grants.steps }

theorem Sends.polls {cfg : Config} (ok : HalvesOk cfg h) (sends : Sends cfg h h') : Polls cfg h h' := by
  obtain ⟨more, sent, kinds⟩ := sends.sent
  have none : more.filter Packet.isGrant = [] := List.filter_eq_nil_iff.mpr fun p inside => by simp [kinds p inside]
  have side : h'.recvSide cfg = h.recvSide cfg := by
    unfold recvSide arrived
    rw [sends.rcv, sends.thisAddr, sends.rcvd, sent, List.filter_append, none, List.append_nil]
  exact {
    thisAddr := sends.thisAddr
    rpc := sends.rpc
    rcvd := sends.rcvd
    sent := ⟨more, sent⟩
    remotes := sends.remotes
    keys := sends.keys
    senders := by rw [sends.rcv]
    windows := by unfold windows; rw [sends.rcv]
    ok := ⟨sends.ok, by rw [side]; exact ok.recv.inv, by rw [sends.rcv]; exact ok.recv.nodup⟩
    send := sends.steps
    recv := by rw [side]; exact .refl }

theorem walkInbound_msgs {turns : ℕ} {inbound inbound' : RoundRobin UniqReqId}
    (run : walkInbound turns inbound = .ok inbound') : inbound'.msgs = inbound.msgs := by
  induction turns generalizing inbound with
  | zero =>
    simp only [walkInbound, Lib.pure_eq_ok] at run
    rw [run]
  | succ turns ih =>
    unfold walkInbound at run
    split at run
    · cases run
    · next step => exact (ih run).trans (RoundRobin.next_spec step).1

theorem pollTrace_ok (ok : HalvesOk env.cfg h) (run : h.pollTrace env now = .ok h') : Polls env.cfg h h' := by
  unfold pollTrace at run
  split at run
  · simp only [Lib.bind_eq_ok, Lib.pure_eq_ok] at run
    obtain ⟨inbound1, first, inbound, second, rfl⟩ := run
    have msgs : inbound.msgs = h.rcv.inbound.msgs := (walkInbound_msgs second).trans (walkInbound_msgs first)
    have moved := (reorder_ok ok inbound (by rw [msgs])).polls
    have still := moved.ok
    exact ⟨rfl, rfl, rfl, moved.sent, rfl, rfl, rfl, rfl,
      ⟨⟨still.send.queues, still.send.inv, still.send.covered, still.send.numbered.src, still.send.numbered.seqno⟩,
        still.recv.inv, still.recv.nodup⟩, moved.send, moved.recv⟩
  · rw [Lib.pure_eq_ok] at run
    subst run
    exact .refl ok

theorem poll_ok (ok : HalvesOk env.cfg h) (run : h.poll env now = .ok h') :
    Polls env.cfg h h' ∧ (h.snd.remotes.keys ≠ [] → h'.Considered) := by
  unfold poll at run
  simp only [Lib.bind_eq_ok] at run
  obtain ⟨h1, grants, h2, data, trace⟩ := run
  have first := (sendGrants_ok ok grants).polls
  obtain ⟨sends, considered⟩ := sendData_ok first.ok.send data
  have second := sends.polls first.ok
  have third := pollTrace_ok second.ok trace
  refine ⟨first.trans (second.trans third), fun known => ?_⟩
  have considered := considered (by rw [first.remotes]; exact known)
  unfold pollTrace at trace
  split at trace
  · simp only [Lib.bind_eq_ok, Lib.pure_eq_ok] at trace
    obtain ⟨-, -, inbound, -, rfl⟩ := trace
    exact considered
  · rw [Lib.pure_eq_ok] at trace
    subst trace
    exact considered

theorem startPolling_ok (ok : HalvesOk env.cfg h) (run : h.startPolling env now = .ok h') : Polls env.cfg h h' := by
  unfold startPolling at run
  split at run
  · rw [Lib.pure_eq_ok] at run
    subst run
    exact .refl ok
  · simp only [Lib.bind_eq_ok, Lib.pure_eq_ok] at run
    obtain ⟨h1, polled, rfl⟩ := run
    obtain ⟨polls, -⟩ := poll_ok ok polled
    have still := polls.ok
    exact { polls with
      ok := ⟨⟨still.send.queues, still.send.inv, still.send.covered, still.send.numbered.src,
        still.send.numbered.seqno⟩,
        still.recv.inv, still.recv.nodup⟩ }

end Host

end PhantomPass
