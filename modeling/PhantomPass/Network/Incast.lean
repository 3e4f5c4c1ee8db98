import PhantomPass.Network.Conservation

/-! Many hosts send requests to one receiver, and nobody sends anything else. -/

set_option autoImplicit false

namespace PhantomPass

namespace Net

variable {cfg : Config} {env : Env} {net net' : Net} {e : Event} {senders : Finset Addr} {dst src a addr : Addr}
  {id : UniqReqId} {p : Packet}

def Incast (senders : Finset Addr) (dst : Addr) (_ : Net) : Event → Prop
  | .request client server _ _ _ _ => client ∈ senders ∧ server = dst
  | .reply _ _ _ => False
  | _ => True

theorem act_asked {flight : List Packet} {h : Host} {P : Addr → Addr → Prop}
    (before : ∀ a, ∀ r ∈ (net.host a).rpc.reqSent, P a r.2.srAddr) (here : ∀ r ∈ h.rpc.reqSent, P addr r.2.srAddr) :
    ∀ a, ∀ r ∈ ((net.act addr flight h).host a).rpc.reqSent, P a r.2.srAddr := by
  intro a
  rw [host_act]
  split
  · next same =>
    rw [same]
    exact here
  · exact before a

/-- What holds of the client and the server of every request that is handed down holds of those sent. -/
theorem fire_requests {P : Addr → Addr → Prop} (ok : NetOk env.cfg net) (enabled : net.Enabled env e)
    (run : net.fire env e = .ok net') (only : ∀ client server clThread srThread appLevelId n,
      e = .request client server clThread srThread appLevelId n → P client server)
    (before : ∀ a, ∀ r ∈ (net.host a).rpc.reqSent, P a r.2.srAddr) : ∀ a, ∀ r ∈ (net'.host a).rpc.reqSent,
    P a r.2.srAddr := by
  have created : (99 / 10 : ℚ) < net.clock := lt_of_lt_of_le (by norm_num) ok.clock
  cases e with
  | request client server clThread srThread appLevelId n =>
    unfold Net.fire at run
    simp only [Lib.bind_eq_ok, Lib.pure_eq_ok] at run
    obtain ⟨h, sent, rfl⟩ := run
    obtain ⟨-, h1, polls, rfl⟩ := Host.sendReq_ok (ok.host client) (ok.addr client).symm enabled.1.symm created sent
    apply act_asked before
    intro r inside
    dsimp only at inside
    rw [polls.rpc] at inside
    rcases List.mem_append.mp inside with old | new
    · exact before client r old
    · rw [List.mem_singleton.mp new]
      exact only client server clThread srThread appLevelId n rfl
  | tick seconds =>
    cases fire_cases ok enabled run
    exact before
  | reply server thread n =>
    cases fire_cases ok enabled run with
    | reply _ _ _ tuple rest st h1 polls =>
      apply act_asked before
      dsimp only
      rw [polls.rpc]
      exact before server
  | poll addr =>
    cases fire_cases ok enabled run with
    | poll _ h polls =>
      apply act_asked before
      rw [polls.rpc]
      exact before addr
  | deliver p stamp =>
    cases fire_cases ok enabled run with
    | deliver _ _ h1 h received polls arrives =>
      apply act_asked before
      rw [(Rpc.recvPkt_history arrives.rpc).1, polls.rpc]
      exact before p.dst
  | collect addr =>
    cases fire_cases ok enabled run
    exact act_asked before (before addr)

/-- A state in which only requests of these hosts to this receiver were sent. -/
structure Gathers (cfg : Config) (senders : Finset Addr) (dst : Addr) (net : Net) : Prop where
  ok : NetOk cfg net
  asked : ∀ a, ∀ r ∈ (net.host a).rpc.reqSent, a ∈ senders ∧ r.2.srAddr = dst
  answered : ∀ a, ∀ r ∈ (net.host a).rpc.respSent, False

theorem Reach.gathers (reach : Reach env (Incast senders dst) net) : Gathers env.cfg senders dst net where
  ok := reach.ok
  asked := by
    -- only requests are made, and only to the one receiver
    induction reach with
    | init => exact fun a r inside => absurd inside List.not_mem_nil
    | step before enabled allowed run ih =>
      refine fire_requests (P := fun client server => client ∈ senders ∧ server = dst) before.ok enabled run ?_ ih
      rintro client server clThread srThread appLevelId n rfl
      exact allowed
  answered := reach.replies (P := fun _ => False) fun _ _ _ _ allowed => allowed

namespace Gathers

variable (gathers : Gathers cfg senders dst net)

include gathers

theorem requests (src : Addr) : ∀ id ∈ (net.msgs src).keys, (net.msg src id).isRequest = true := by
  intro id inside
  by_contra reply
  exact reply_size (P := fun _ => False) gathers.ok gathers.answered inside ((Bool.not_eq_true _).mp reply)

theorem message (inside : id ∈ (net.msgs src).keys) : src ∈ senders ∧ (net.msg src id).remoteAddr = dst := by
  have entry : Host.Entry (net.host src) (net.msg src id) := (gathers.ok.host src).entry id inside
  have request := gathers.requests src id inside
  have sent := entry.sent
  rw [request, if_pos rfl] at sent
  obtain ⟨member, towards⟩ := gathers.asked src _ sent
  exact ⟨member, (entry.remote request).trans towards⟩

theorem counted (inside : id ∈ (net.msgs src).keys) : ¬ (net.msg src id).Bypasses := by
  rintro ⟨reply, -⟩
  exact nomatch (gathers.requests src id inside).symm.trans reply

theorem part (sent : p ∈ (net.host src).sent) (grant : p.isGrant = false) :
    (p.isData = true ∨ p.isCreditReq = true) ∧ src ∈ senders ∧ p.dst = dst := by
  obtain ⟨kind, inside, goes⟩ := part_of_sent gathers.ok sent grant
  obtain ⟨member, towards⟩ := gathers.message inside
  exact ⟨kind, member, goes.trans towards⟩

theorem heard (known : id ∈ (net.host a).rcv.inboundObjs.keys) : a = dst := by
  obtain ⟨inside, towards⟩ := member_of_obj gathers.ok known rfl
  exact towards.symm.trans (gathers.message inside).2

theorem grant (sent : p ∈ (net.host src).sent) (grant : p.isGrant = true) : src = dst :=
  gathers.heard ((gathers.ok.host src).halves.recv.inv.grants p (List.mem_filter.mpr ⟨sent, grant⟩)).1

theorem inbound (apart : a ≠ dst) : (net.host a).rcv.inbound.msgs = [] := by
  rw [List.eq_nil_iff_forall_not_mem]
  intro id inside
  exact apart (gathers.heard ((gathers.ok.host a).halves.recv.inv.live id (List.mem_toFinset.mpr inside)))

theorem source (flight : p ∈ net.flight) (apart : p.dst ≠ dst) : p.src = dst := by
  have sent := sent_of_flight gathers.ok flight
  cases kind : p.isGrant with
  | true => exact gathers.grant sent kind
  | false => exact absurd (gathers.part sent kind).2.2 apart

end Gathers

theorem act_remotes {flight : List Packet} {h : Host}
    (before : ∀ a ≠ dst, ∀ other ∈ (net.host a).snd.remotes.keys, other = dst)
    (here : addr ≠ dst → ∀ other ∈ h.snd.remotes.keys, other = dst) :
    ∀ a ≠ dst, ∀ other ∈ ((net.act addr flight h).host a).snd.remotes.keys, other = dst := by
  intro a apart
  rw [host_act]
  split
  · next same => exact here (same ▸ apart)
  · exact before a apart

theorem Reach.remotes (reach : Reach env (Incast senders dst) net) :
    ∀ a ≠ dst, ∀ other ∈ (net.host a).snd.remotes.keys, other = dst := by
  induction reach with
  | init => exact fun a _ other inside => absurd inside List.not_mem_nil
  | @step net net' e before enabled allowed run ih =>
    have after := (before.step enabled allowed run).gathers
    cases fire_cases before.ok enabled run with
    | tick seconds => exact ih
    | request client server clThread srThread appLevelId n tuple h1 polls =>
      apply act_remotes ih
      intro apart other inside
      rcases (Sender.mem_keys_findOrCreate ..).mp inside with old | new
      · rw [polls.remotes] at old
        exact ih client apart other old
      · -- the new message goes where all messages go
        let m := requestMsg (RpcInv.nextReqId (net.host client).rpc tuple.clThreadId) n tuple
        have here : (net.act client net.flight { h1 with snd := h1.snd.accept m }).host client =
          { h1 with snd := h1.snd.accept m } := by
          rw [host_act, if_pos rfl]
        have inside : m.reqId ∈ ((net.act client net.flight { h1 with snd := h1.snd.accept m }).msgs client).keys := by
          unfold msgs
          rw [here]
          exact (Host.mem_outbound_accept ..).mpr (Or.inr rfl)
        have towards := (after.message inside).2
        unfold msg at towards
        rw [here, Host.msg_accept, if_pos rfl] at towards
        exact new.trans towards
    | reply => exact allowed.elim
    | poll addr h polls =>
      apply act_remotes ih
      rw [polls.remotes]
      exact ih addr
    | deliver p stamp h1 h received polls arrives =>
      apply act_remotes ih
      intro apart other inside
      rcases (arrives.remotes other).mp inside with old | new
      · rw [polls.remotes] at old
        exact ih p.dst apart other old
      · rw [new]
        exact before.gathers.source enabled apart
    | collect addr => exact act_remotes ih (ih addr)

end Net

end PhantomPass
