import PhantomPass.Network.Beginning
import PhantomPass.Network.Quiescence
import PhantomPass.Pacing.Runs
import PhantomPass.Policy.Pass

/-! A network at rest. With every message sent the polls of a sender do nothing,
under whatever policy; those of a receiver remove the messages that are complete
from its list, until none is left. -/

set_option autoImplicit false

namespace PhantomPass

open Lib (RoundRobin Store)

def PolicyState.Still (ps : PolicyState) : Prop := ps.canSend = false ∧ ps.deficit = 0

namespace Sender

variable {env : Env} {s : Sender} {order : List Addr}

structure Idle (s : Sender) : Prop where
  inactive : s.outboundInactive.msgs = []
  queues : ∀ addr ∈ s.remotes.keys, (s.rcvr addr).outMsgs.msgs = []

theorem consider_still {addr : Addr} {pass : PolicyPass} (still : (s.rcverPolicyStates addr).Still) :
    s.consider env addr pass = .ok pass := by
  obtain ⟨cannot, deficit⟩ := still
  unfold consider assert
  rw [if_neg (by simp [cannot]), Lib.require_true _ (by rw [deficit]; norm_num), Lib.ok_bind]
  rfl

theorem wantToSend_idle (plat : Platform) {addr : Addr} (nothing : (s.rcvr addr).outMsgs.msgs = []) :
    ∃ ps, ps.Still ∧ s.wantToSend plat addr =
      .ok { s with rcverPolicyStates := Function.update s.rcverPolicyStates addr ps } := by
  have empties : (s.rcvr addr).outMsgs.size = 0 := List.length_eq_zero_iff.mpr nothing
  refine ⟨{ s.rcverPolicyStates addr with
    canSend := false, msgState := none, wantToSendBytes := 0, deficit := 0, quantum := 0 }, ⟨rfl, rfl⟩, ?_⟩
  unfold wantToSend
  dsimp only
  rw [if_pos empties]
  rfl

theorem findCanSend_idle (env : Env) (pass : PolicyPass) (queues : ∀ addr ∈ order, (s.rcvr addr).outMsgs.msgs = []) :
    ∃ states, findCanSend env order s pass = .ok ({ s with rcverPolicyStates := states }, pass) ∧
      ∀ addr, addr ∈ order ∨ (s.rcverPolicyStates addr).Still → (states addr).Still := by
  induction order generalizing s with
  | nil => exact ⟨s.rcverPolicyStates, rfl, fun addr still => still.resolve_left List.not_mem_nil⟩
  | cons first rest ih =>
    obtain ⟨nothing, others⟩ := List.forall_mem_cons.mp queues
    obtain ⟨ps, still, empties⟩ := wantToSend_idle env.plat nothing
    have here : (Function.update s.rcverPolicyStates first ps first).Still := by
      rw [Function.update_self]
      exact still
    obtain ⟨states, run, rests⟩ :=
      ih (s := { s with rcverPolicyStates := Function.update s.rcverPolicyStates first ps }) others
    refine ⟨states, ?_, fun addr asked => rests addr ?_⟩
    · unfold findCanSend assert
      rw [empties, Lib.ok_bind, consider_still here, Lib.ok_bind, Lib.require_true _ (le_of_eq here.2.symm),
        Lib.ok_bind]
      exact run
    · dsimp only
      by_cases same : addr = first
      · rw [same]
        exact Or.inr here
      · rw [Function.update_of_ne same]
        exact asked.imp_left fun inside => (List.mem_cons.mp inside).resolve_left same

theorem highestDeficit_idle {states : Addr → PolicyState} {ret : Option Addr} {highest : ℚ}
    (still : ∀ addr ∈ order, (states addr).Still) : highestDeficit states order ret highest = .ok (ret, highest) := by
  induction order with
  | nil => rfl
  | cons first rest ih =>
    obtain ⟨⟨cannot, deficit⟩, others⟩ := List.forall_mem_cons.mp still
    unfold highestDeficit assert
    dsimp only
    rw [cannot, if_neg Bool.false_ne_true, deficit, Lib.require_true _ (by norm_num), Lib.ok_bind]
    exact ih others

theorem Idle.selects (env : Env) (idle : s.Idle) (known : s.remotes.keys ≠ []) : ∃ states,
    s.updatePolicyState env = .ok { s with rcverPolicyStates := states } ∧
      ({ s with rcverPolicyStates := states } : Sender).selectMsgToSend env.plat =
        .ok (none, { s with rcverPolicyStates := states }) := by
  have walks := env.plat.walk_perm s.remotes.keys
  obtain ⟨states, run, still⟩ := findCanSend_idle env
    { strongestPrio := if env.cfg.senderPolicy = 2 then some 0 else none }
    fun addr inside => idle.queues addr (walks.mem_iff.mp inside)
  refine ⟨states, ?_, ?_⟩
  · unfold updatePolicyState assert
    rw [Lib.require_true _ known, Lib.ok_bind]
    dsimp only
    rw [run, Lib.ok_bind]
    rfl
  · unfold selectMsgToSend
    rw [selectRounds, highestDeficit_idle fun addr inside => still addr (Or.inl inside)]
    rfl

end Sender

namespace Host

variable {env : Env} {h h' : Host} {now : Time}

theorem sendData_idle (env : Env) (now : Time) (idle : h.snd.Idle) : ∃ states,
    h.sendData env now = .ok
    { h.updateDataBacklog env now with snd := { h.snd with rcverPolicyStates := states } } := by
  have quiet : (h.updateDataBacklog env now).announce env = .ok (h.updateDataBacklog env now) :=
    announce_nothing idle.inactive
  unfold sendData
  dsimp only
  split
  · exact ⟨h.snd.rcverPolicyStates, rfl⟩
  · next known =>
    rw [quiet, Lib.ok_bind]
    split
    · exact ⟨h.snd.rcverPolicyStates, rfl⟩
    · obtain ⟨states, updates, selects⟩ := idle.selects env known
      have asks : (h.updateDataBacklog env now).snd = h.snd := rfl
      unfold sendSelected
      rw [asks, updates, Lib.ok_bind, selects]
      exact ⟨states, rfl⟩

theorem pollTrace_kept (env : Env) (now : Time) (h : Host) : ∃ inbound last,
    h.pollTrace env now = .ok { h with rcv := { h.rcv with inbound }, lastPollTrace := last } ∧
      inbound.msgs = h.rcv.inbound.msgs := by
  have traced := pollTrace_same env now h
  cases run : h.pollTrace env now with
  | error stop =>
    rw [run] at traced
    cases traced
  | ok h' =>
    unfold pollTrace at run
    split at run
    · simp only [Lib.bind_eq_ok, Lib.pure_eq_ok] at run
      obtain ⟨inbound1, first, inbound, second, rfl⟩ := run
      exact ⟨inbound, now, rfl, (walkInbound_msgs second).trans (walkInbound_msgs first)⟩
    · rw [Lib.pure_eq_ok] at run
      subst run
      exact ⟨h.rcv.inbound, h.lastPollTrace, rfl, rfl⟩

section Pacers

theorem grantsBegin_backlog (long : 1 / 100000 ≤ now - h.lastGrantPacerUpdate) :
    (h.grantsBegin env now).grantPacerBacklog = max
    (h.grantPacerBacklog - truncInt (env.cfg.drained (1 / 100000))) 0 := by
  unfold grantsBegin updateGrantBacklog
  dsimp only
  rw [min_eq_right long]

theorem updateDataBacklog_backlog (long : 1 / 100000 ≤ now - h.lastDataPacerUpdate) :
    (h.updateDataBacklog env now).dataPacerBacklog = max
    (h.dataPacerBacklog - truncInt (env.cfg.drained (1 / 100000))) 0 := by
  unfold updateDataBacklog
  dsimp only
  rw [min_eq_right long]

theorem toNat_drained {cfg : Config} (drains : 1 ≤ cfg.drained (1 / 100000)) (backlog : ℤ) :
    (max (backlog - truncInt (cfg.drained (1 / 100000))) 0).toNat ≤ backlog.toNat ∧
      ((3 / 2 : ℚ) * cfg.bytesDrainedPerLoop < (max (backlog - truncInt (cfg.drained (1 / 100000))) 0 : ℤ) →
        (max (backlog - truncInt (cfg.drained (1 / 100000))) 0).toNat < backlog.toNat) := by
  have speed : 0 ≤ cfg.linkSpeedGbps := by
    unfold Config.drained Config.secondsToBytes at drains
    linarith
  have loop := Net.bytesDrainedPerLoop_nonneg speed
  have drained : 1 ≤ truncInt (cfg.drained (1 / 100000)) :=
    (le_truncInt_iff Int.one_pos _).mpr (by exact_mod_cast drains)
  refine ⟨by omega, fun busy => ?_⟩
  have pos : 0 < max (backlog - truncInt (cfg.drained (1 / 100000))) 0 := by
    have nonneg : (0 : ℚ) ≤ 3 / 2 * cfg.bytesDrainedPerLoop := by positivity
    exact_mod_cast lt_of_le_of_lt nonneg busy
  omega

theorem busy_of_not_due (late : ¬ now - h.lastGrantTime < 48 / 100000000) (not_due : ¬ h.GrantsDue env now) :
    (3 / 2 : ℚ) * env.cfg.bytesDrainedPerLoop < (h.grantsBegin env now).grantPacerBacklog := by
  have busy := eq_true_of_ne_false fun free => not_due ⟨late, free⟩
  unfold grantPacerBusy at busy
  rw [Bool.and_eq_true, decide_eq_true_eq] at busy
  exact busy.2

end Pacers

theorem poll_eq {h1 h2 : Host} (grants : h.sendGrants env now = .ok h1) (data : h1.sendData env now = .ok h2)
    (trace : h2.pollTrace env now = .ok h') : h.poll env now = .ok h' := by
  unfold poll
  rw [grants, Lib.ok_bind, data, Lib.ok_bind]
  exact trace

theorem poll_idle (now : Time) (grants : env.cfg.Grants) (idle : h.snd.Idle) (done : h.Done)
    (nodup : h.rcv.inbound.msgs.Nodup) (sorts : env.cfg.receiverPolicy = 0 → h.rcv.inbound.msgs = []) :
    ∃ h', h.poll env now = .ok h' ∧ h'.snd.outbound = h.snd.outbound ∧ Clears env now h h' := by
  obtain ⟨h1, granted, snd1, clears⟩ := sendGrants_complete now grants done nodup sorts
  obtain ⟨states, sent⟩ := sendData_idle env now (h := h1) (by rw [snd1]; exact idle)
  obtain ⟨inbound, last, traced, msgs⟩ := pollTrace_kept env now
    { h1.updateDataBacklog env now with snd := { h1.snd with rcverPolicyStates := states } }
  refine ⟨_, poll_eq granted sent traced, ?_, clears.trans rfl msgs rfl⟩
  rw [← snd1]

theorem poll_some (policy : env.cfg.receiverPolicy = 0) (ok : HalvesOk env.cfg h) (some_msg : h.rcv.inbound.msgs ≠ [])
    (run : h.poll env now = .ok h') : h'.rcv.inbound.msgs ≠ [] := by
  unfold poll at run
  simp only [Lib.bind_eq_ok] at run
  obtain ⟨h1, granted, h2, sent, traced⟩ := run
  have first := sendGrants_ok ok granted
  obtain ⟨inbound, last, traced', msgs⟩ := pollTrace_kept env now h2
  obtain rfl := Except.ok.inj (traced'.symm.trans traced)
  dsimp only
  rw [msgs, (sendData_ok first.ok.send sent).1.rcv]
  exact sendGrants_some policy ok.recv.nodup some_msg granted

end Host

namespace Net

variable {env : Env} {cfg : Config} {net net1 net' : Net} {a addr : Addr} {k : ℕ} {cond : Net → Event → Prop}

theorem Reach.reachable (reach : Reach env cond net) : Reachable env net := by
  induction reach with
  | init => exact .init
  | step _ enabled _ run ih => exact ih.step enabled trivial run

theorem idle_of_quiescent (ok : NetOk cfg net) (quiet : net.Quiescent) (a : Addr) : (net.host a).snd.Idle := by
  have queues := (ok.host a).halves.send.queues
  constructor
  case inactive =>
    rw [List.eq_nil_iff_forall_not_mem]
    intro id waits
    obtain ⟨inside, idle⟩ := (queues.inactive id).mp waits
    have active := (msgOk ok inside).active_of_unsent (quiet.sent a id inside)
    exact nomatch active.symm.trans idle
  case queues =>
    intro addr known
    rw [List.eq_nil_iff_forall_not_mem]
    intro id waits
    obtain ⟨inside, -, unsent, -⟩ := (queues.queue addr known id).mp waits
    exact Nat.ne_of_gt unsent (quiet.sent a id inside)

/-- Time passes and hosts poll. Those polls of one host are counted whose pacer lets a turn through. -/
inductive Idles (env : Env) (a : Addr) : ℕ → Net → Net → Prop
  | refl (net : Net) : Idles env a 0 net net
  | tick {k : ℕ} {net net1 : Net} (seconds : ℚ) : Idles env a k net net1 → 0 ≤ seconds →
      Idles env a k net { net1 with clock := net1.clock + seconds }
  | poll {k : ℕ} {net net1 net' : Net} (addr : Addr) : Idles env a k net net1 → (net1.host addr).pollStarted = true →
      net1.fire env (.poll addr) = .ok net' →
      Idles env a (k + if addr = a ∧ (net1.host a).GrantsDue env net1.clock then 1 else 0) net net'

theorem Idles.trans {k' : ℕ} (before : Idles env a k net net1) (after : Idles env a k' net1 net') :
    Idles env a (k + k') net net' := by
  induction after with
  | refl => exact before
  | tick seconds _ later ih => exact (ih before).tick seconds later
  | poll addr _ started run ih =>
    rw [← Nat.add_assoc]
    exact (ih before).poll addr started run

/-- A state at rest, whose receivers have all credit back and can empty their lists. -/
structure AtRest (env : Env) (net : Net) : Prop where
  reach : Reachable env net
  quiet : net.Quiescent
  counted : net.RepliesCounted env.cfg
  sorts : env.cfg.receiverPolicy = 0 → ∀ a, (net.host a).rcv.inbound.msgs = []

namespace AtRest

theorem tick (rest : AtRest env net) {seconds : ℚ} (later : 0 ≤ seconds) :
    AtRest env { net with clock := net.clock + seconds } :=
  ⟨rest.reach.step (e := .tick seconds) later trivial rfl, ⟨rest.quiet.flight, rest.quiet.sent⟩,
    rest.counted, rest.sorts⟩

theorem poll (rest : AtRest env net) (addr : Addr) (started : (net.host addr).pollStarted = true) :
    ∃ h, net.fire env (.poll addr) = .ok (net.act addr net.flight h) ∧ AtRest env (net.act addr net.flight h) ∧
      Host.Clears env net.clock (net.host addr) h ∧ h.pollStarted = true := by
  obtain ⟨reach, quiet, counted, sorts⟩ := rest
  have ok := reach.ok
  have grants := (reach.begun addr).grants started
  obtain ⟨h, polled, outbound, clears⟩ := Host.poll_idle net.clock grants (idle_of_quiescent ok quiet addr)
    (done_of_quiescent ok quiet counted addr) (ok.host addr).halves.recv.nodup fun policy => sorts policy addr
  have fired : net.fire env (.poll addr) = .ok (net.act addr net.flight h) :=
    congrArg (· >>= fun h => pure (net.act addr net.flight h)) polled
  have polls := (Host.poll_ok (ok.host addr).halves polled).1
  refine ⟨h, fired, ?_, clears, (Host.poll_started polled).trans started⟩
  constructor
  case reach => exact reach.step (e := .poll addr) started trivial fired
  case quiet =>
    constructor
    case flight =>
      unfold Net.act
      dsimp only
      rw [clears.sent, List.drop_length, List.append_nil]
      exact quiet.flight
    case sent =>
      intro src id
      unfold Sender.msg
      rw [host_act]
      split
      · rw [outbound]
        exact quiet.sent addr id
      · exact quiet.sent src id
  case counted =>
    intro server
    rw [host_act]
    split
    · next same =>
      rw [polls.rpc]
      exact counted addr
    · exact counted server
  case sorts =>
    intro policy a
    rw [host_act]
    split
    · have none : (net.host addr).rcv.inbound.size = 0 := List.length_eq_zero_iff.mpr (sorts policy addr)
      exact List.length_eq_zero_iff.mp (Nat.le_zero.mp (clears.size_le.trans_eq none))
    · exact sorts policy a

theorem idles (rest : AtRest env net) (idles : Idles env a k net net') :
    AtRest env net' ∧ (net'.host a).rcv.inbound.size ≤ (net.host a).rcv.inbound.size - k := by
  -- polls of a quiescent network change pacers, cursors and clocks at most
  induction idles with
  | refl net => exact ⟨rest, le_refl _⟩
  | tick seconds _ later ih =>
    obtain ⟨rest1, size⟩ := ih rest
    exact ⟨rest1.tick later, size⟩
  | @poll k net net1 net' addr _ started run ih =>
    obtain ⟨rest1, size⟩ := ih rest
    obtain ⟨h, fired, rest', clears, -⟩ := rest1.poll addr started
    obtain rfl := Except.ok.inj (fired.symm.trans run)
    refine ⟨rest', ?_⟩
    rw [host_act]
    by_cases here : a = addr
    · subst here
      have le := clears.size_le
      have fewer := clears.fewer
      rw [if_pos rfl]
      simp only [true_and]
      split
      · next due =>
        have := fewer due
        omega
      · omega
    · rw [if_neg here, if_neg fun both => here both.1.symm]
      exact size

theorem due (rest : AtRest env net) (drains : 1 ≤ env.cfg.drained (1 / 100000))
    (started : (net.host a).pollStarted = true) :
    ∃ net', Idles env a 1 net net' ∧ (net'.host a).pollStarted = true := by
  -- on the bytes that the pacer still holds: each wait drains at least one
  induction backlog : (net.host a).grantPacerBacklog.toNat using Nat.strong_induction_on generalizing net with
  | _ n ih =>
    let wait : ℚ := |(net.host a).lastGrantTime - net.clock| + |(net.host a).lastGrantPacerUpdate - net.clock| +
      1 / 100000
    have grant := le_abs_self ((net.host a).lastGrantTime - net.clock)
    have grant_pos := abs_nonneg ((net.host a).lastGrantTime - net.clock)
    have update := le_abs_self ((net.host a).lastGrantPacerUpdate - net.clock)
    have update_pos := abs_nonneg ((net.host a).lastGrantPacerUpdate - net.clock)
    have later : 0 ≤ wait := by positivity
    have rest1 := rest.tick later
    have waited : Idles env a 0 net { net with clock := net.clock + wait } := .tick wait (.refl net) later
    have late : ¬ net.clock + wait - (net.host a).lastGrantTime < 48 / 100000000 := by
      unfold wait
      linarith
    have long : 1 / 100000 ≤ net.clock + wait - (net.host a).lastGrantPacerUpdate := by
      unfold wait
      linarith
    obtain ⟨h, fired, rest', clears, started'⟩ := rest1.poll a started
    have polled := Idles.poll a waited started fired
    have here : (Net.act { net with clock := net.clock + wait } a net.flight h).host a = h := by
      rw [host_act, if_pos rfl]
    by_cases due : (net.host a).GrantsDue env (net.clock + wait)
    · rw [if_pos ⟨rfl, due⟩] at polled
      exact ⟨_, polled, by rw [here]; exact started'⟩
    · rw [if_neg fun both => due both.2] at polled
      have busy := Host.busy_of_not_due late due
      rw [Host.grantsBegin_backlog long] at busy
      have fewer : h.grantPacerBacklog.toNat < n := by
        rw [clears.backlog late, Host.grantsBegin_backlog long, ← backlog]
        exact (Host.toNat_drained drains _).2 busy
      obtain ⟨net', idles, still⟩ := ih _ fewer rest' (by rw [here]; exact started') (by rw [here])
      exact ⟨net', polled.trans idles, still⟩

theorem goes_on (rest : AtRest env net) (drains : 1 ≤ env.cfg.drained (1 / 100000))
    (started : (net.host a).pollStarted = true)
    (k : ℕ) : ∃ net', Idles env a k net net' ∧ (net'.host a).pollStarted = true := by
  induction k with
  | zero => exact ⟨net, .refl net, started⟩
  | succ k ih =>
    obtain ⟨net1, before, started1⟩ := ih
    obtain ⟨net', after, started'⟩ := (rest.idles before).1.due drains started1
    exact ⟨net', before.trans after, started'⟩

end AtRest

theorem Idles.some_left (policy : env.cfg.receiverPolicy = 0) (reach : Reachable env net)
    (some_msg : (net.host addr).rcv.inbound.msgs ≠ []) (idles : Idles env a k net net') :
    Reachable env net' ∧ (net'.host addr).rcv.inbound.msgs ≠ [] := by
  induction idles with
  | refl => exact ⟨reach, some_msg⟩
  | tick seconds _ later ih =>
    obtain ⟨reach1, left⟩ := ih reach some_msg
    exact ⟨reach1.step (e := .tick seconds) later trivial rfl, left⟩
  | poll other _ started run ih =>
    obtain ⟨reach1, left⟩ := ih reach some_msg
    refine ⟨reach1.step (e := .poll other) started trivial run, ?_⟩
    unfold Net.fire at run
    simp only [Lib.bind_eq_ok, Lib.pure_eq_ok] at run
    obtain ⟨h, polled, rfl⟩ := run
    rw [host_act]
    split
    · next same =>
      rw [same] at left
      exact Host.poll_some policy (reach1.ok.host other).halves left polled
    · exact left

/-- Whatever the order, when all has been sent and nothing is in flight no sender has credit left, and all
receivers have theirs back exactly when every reply of one packet credited itself. Every poll whose pacer
lets a turn through then removes a message of the host's list, and the pacer does so time and again; but
time sharing never removes the last message. -/
theorem credit_recovers (reach : Reach env cond net) (quiet : net.Quiescent) :
    (∀ src dst, (net.host src).snd.pool dst = 0) ∧
    ((∀ a, (net.host a).Restored env.cfg) ↔ net.RepliesCounted env.cfg) ∧
    (net.RepliesCounted env.cfg → (env.cfg.receiverPolicy = 0 → ∀ a, (net.host a).rcv.inbound.msgs = []) → ∀ a,
      (∀ k net', Idles env a k net net' → (net.host a).rcv.inbound.size ≤ k → (net'.host a).rcv.inbound.msgs = []) ∧
      (1 ≤ env.cfg.drained (1 / 100000) → (net.host a).pollStarted = true → ∀ k, ∃ net', Idles env a k net net')) ∧
    (env.cfg.receiverPolicy = 0 → ∀ a, (net.host a).rcv.inbound.msgs ≠ [] →
      ∀ k net', Idles env a k net net' → (net'.host a).rcv.inbound.msgs ≠ []) := by
  have ok := reach.ok
  refine ⟨pool_of_quiescent ok quiet, restored_all_iff ok quiet, fun counted sorts a => ?_,
    fun policy a some_msg k net' idles => ?_⟩
  · have rest : AtRest env net := ⟨reach.reachable, quiet, counted, sorts⟩
    constructor
    · intro k net' idles enough
      have size := (rest.idles idles).2
      exact List.length_eq_zero_iff.mp (Nat.le_zero.mp (size.trans_eq (Nat.sub_eq_zero_of_le enough)))
    · intro drains started k
      obtain ⟨net', idles, -⟩ := rest.goes_on drains started k
      exact ⟨net', idles⟩
  · exact (idles.some_left policy reach.reachable some_msg).2

section Runs

/-- The packets between two hosts arrive in the order in which they left. -/
def InSequence (net : Net) : Event → Prop
  | .deliver p _ => (net.flight.find? fun q => q.src = p.src ∧ q.dst = p.dst) = some p
  | _ => True

def deliverTo (dst : Addr) (net : Net) : Event :=
  match net.flight with
  | [] => .tick 0
  | p :: _ => if p.dst = dst then .deliver p {} else .tick 0

theorem inSequence_deliverTo (dst : Addr) (net : Net) : net.InSequence (deliverTo dst net) := by
  unfold deliverTo
  split
  · trivial
  · next p rest flight =>
    split
    · change net.flight.find? _ = some p
      rw [flight, List.find?_cons_of_pos (by simp)]
    · trivial

theorem place_deliverTo {dst a : Addr} (net : Net) (place : (deliverTo dst net).place = some a) : a = dst := by
  unfold deliverTo at place
  split at place
  · cases place
  · split at place
    · next here => exact (Option.some.inj place).symm.trans here
    · cases place

/-- What holds of two hosts behind a run in which only they act, and of hosts at the start, holds of all. -/
theorem hosts_of_run {P : Host → Prop} {events : List (Net → Event)} (run : (init env.cfg).run env events = some net)
    (places : ∀ e ∈ events, ∀ net, InSequence net (e net) ∧ ∀ a, (e net).place = some a → a = 0 ∨ a = 1)
    (first : P (net.host 0)) (second : P (net.host 1)) (others : ∀ a, P (Host.init env.cfg a)) (a : Addr) : P
    (net.host a) := by
  by_cases acts : a = 0 ∨ a = 1
  · rcases acts with rfl | rfl
    · exact first
    · exact second
  · rw [host_of_run run (a := a) fun e member net here => acts ((places e member net).2 a here)]
    exact others a

/-- A request of one packet leaves with the credit of another one and has arrived when it is granted its own, with
which the other one leaves. -/
def crossedRequests : List (Net → Event) :=
  [fun _ => .request 0 1 0 0 0 101, fun _ => .tick (1 / 1000000), fun _ => .poll 0, deliverTo 1,
    fun _ => .request 0 1 0 0 0 100, fun _ => .tick (1 / 1000000), fun _ => .poll 1,
    fun _ => .tick (1 / 1000000), fun _ => .poll 0, deliverTo 0, deliverTo 1,
    fun _ => .tick (1 / 1000000), fun _ => .poll 0, deliverTo 1, fun _ => .tick (1 / 1000000), fun _ =>
      .poll 1, deliverTo 0,
    fun _ => .tick (1 / 1000000), fun _ => .poll 0, deliverTo 1]

def shortReply : List (Net → Event) :=
  [fun _ => .reply 1 0 100, fun _ => .tick (1 / 1000000), fun _ => .poll 1, deliverTo 0,
    fun _ => .tick (1 / 1000000), fun _ => .poll 0, deliverTo 1, fun _ => .tick (1 / 1000000), fun _ =>
      .poll 1, deliverTo 0]

theorem crossed_events : ∀ e ∈ crossedRequests ++ shortReply, ∀ net,
    InSequence net (e net) ∧ ∀ a, (e net).place = some a → a = 0 ∨ a = 1 := by
  unfold crossedRequests shortReply
  simp only [List.cons_append, List.nil_append, List.forall_mem_cons]
  and_intros
  case refine_2.refine_2 => nofun
  all_goals
    refine fun net => ⟨by first | trivial | exact inSequence_deliverTo _ net, fun a place => ?_⟩
    first
      | exact Or.inl (place_deliverTo net place)
      | exact Or.inr (place_deliverTo net place)
      | exact Or.inl (Option.some.inj place).symm
      | exact Or.inr (Option.some.inj place).symm
      | cases place

/-- The request that arrived too early is cleared away with the next poll that is due, and all credit is back. -/
theorem credit_recovers_crossed : ∃ net, Reach tenFrames InSequence net ∧ net.Quiescent ∧
    (∀ a, (net.host a).Restored tenFrames.cfg) ∧ (net.host 1).rcv.inbound.size = 1 ∧
    ∃ net', Idles tenFrames 1 1 net net' ∧ (net'.host 1).rcv.inbound.msgs = [] := by
  have ran : ((init tenFrames.cfg).run tenFrames crossedRequests).map (fun net => decide (
      net.flight = [] ∧ (net.host 0).AllSent ∧ (net.host 1).AllSent ∧ (net.host 0).rpc.respSent = [] ∧
        (net.host 1).rpc.respSent = [] ∧ (net.host 1).rcv.inbound.size = 1 ∧ (net.host 1).pollStarted = true)) =
      some true := by decide +kernel
  obtain ⟨net, run, values⟩ := Option.map_eq_some_iff.mp ran
  obtain ⟨flight, sent0, sent1, none0, none1, size, started⟩ := of_decide_eq_true values
  have events : ∀ e ∈ crossedRequests, ∀ net, InSequence net (e net) ∧ ∀ a, (e net).place = some a → a = 0 ∨ a = 1 :=
    fun e inside => crossed_events e (List.mem_append_left _ inside)
  have reach : Reach tenFrames InSequence net := Reach.run .init (fun e inside net => (events e inside net).1) run
  have quiet : net.Quiescent := ⟨flight, hosts_of_run run events sent0 sent1 fun _ _ inside => nomatch inside⟩
  have silent : ∀ a, (net.host a).rpc.respSent = [] :=
    hosts_of_run (P := fun h => h.rpc.respSent = []) run events none0 none1 fun _ => rfl
  have counted : net.RepliesCounted tenFrames.cfg := by
    intro server r answered
    rw [silent] at answered
    cases answered
  obtain ⟨-, accounts, clears, -⟩ := credit_recovers reach quiet
  obtain ⟨empties, goes_on⟩ := clears counted (fun policy => nomatch policy) 1
  obtain ⟨net', idles⟩ := goes_on (by decide +kernel) started 1
  exact ⟨net, reach, quiet, accounts.mpr counted, size, net', idles, empties 1 net' idles (Nat.le_of_eq size)⟩

/-- The credit for the reply never comes back. -/
theorem credit_withheld : ∃ net, Reach tenFrames InSequence net ∧ net.Quiescent ∧ (net.host 0).rcv.budgetBytes = 61340 ∧
    tenFrames.cfg.budgetBytes = 61520 := by
  have ran : ((init tenFrames.cfg).run tenFrames (crossedRequests ++ shortReply)).map (fun net => decide (
      net.flight = [] ∧ (net.host 0).AllSent ∧ (net.host 1).AllSent ∧ (net.host 0).rcv.budgetBytes = 61340)) =
      some true := by decide +kernel
  obtain ⟨net, run, values⟩ := Option.map_eq_some_iff.mp ran
  obtain ⟨flight, sent0, sent1, budget⟩ := of_decide_eq_true values
  have reach : Reach tenFrames InSequence net :=
    Reach.run .init (fun e inside net => (crossed_events e inside net).1) run
  exact ⟨net, reach, ⟨flight, hosts_of_run run crossed_events sent0 sent1 fun _ _ inside => nomatch inside⟩, budget,
    rfl⟩

end Runs

end Net

end PhantomPass
