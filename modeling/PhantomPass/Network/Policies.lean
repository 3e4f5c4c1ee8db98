import PhantomPass.Network.Moves
import PhantomPass.Pacing.Runs

/-! The policy states of a sender in a run of the network: rounds of the policy are
all that changes them, so that what holds of runs of rounds holds of every run. -/

set_option autoImplicit false

namespace PhantomPass

open Lib (RoundRobin Store)

namespace Sender

variable {env : Env} {s s1 s' : Sender} {id : UniqReqId} {p : Packet}

theorem PolicyRun.same (run : PolicyRun env s) (same : SamePolicies s s') : PolicyRun env s' := by
  apply run.between
  constructor
  · exact fun addr member => same.1 ▸ member
  · exact fun addr _ => congrFun same.2 addr
  · exact fun addr member unknown => absurd (same.1 ▸ member) unknown

theorem PolicyRun.findOrCreate (run : PolicyRun env s) (addr : Addr) : PolicyRun env (s.findOrCreate addr) := by
  apply run.between
  unfold Sender.findOrCreate
  split
  · exact .refl s
  · next unknown =>
    constructor
    · exact fun other member => (Store.mem_keys_insert ..).mpr (Or.inl member)
    · intro other member
      have apart : other ≠ addr := fun same => unknown (same ▸ member)
      exact Function.update_of_ne apart ..
    · intro other member outside
      have new : other = addr := ((Store.mem_keys_insert ..).mp member).resolve_left outside
      rw [new]
      exact Function.update_self ..

theorem PolicyRun.keeps (env : Env) : Keeps env (PolicyRun env) where
  works _ _ works run := run.same works.same
  credited _ _ credited run := run.same credited.same
  meets _ addr run := run.findOrCreate addr
  round _ _ _ _ update select run := run.round update select

end Sender

namespace Net

open Sender (PolicyRun)

variable {env : Env} {net : Net}

theorem Reach.policies {cond : Net → Event → Prop} (reach : Reach env cond net) (a : Addr) : PolicyRun env
    (net.host a).snd :=
  reach.keeps (PolicyRun.keeps env) .start a

/-- The senders of a run: between two calls, and where send_data asks the policy. -/
inductive Asked (env : Env) : Sender → Prop
  | between {net : Net} (a : Addr) : Reachable env net → Asked env (net.host a).snd
  | announced {net : Net} (a : Addr) {h h1 : Host} : Reachable env net → h.snd = (net.host a).snd →
      h.announce env = .ok h1 → Asked env h1.snd

variable {s : Sender}

theorem Asked.policyRun (asked : Asked env s) : PolicyRun env s := by
  cases asked with
  | between a reach => exact reach.policies a
  | announced a reach same announced =>
    have before := reach.policies a
    rw [← same] at before
    exact before.same (Host.announce_works announced).same

/-- A round prefers a receiver, fails no assertion and selects a receiver that can send. -/
def Serves (env : Env) (s : Sender) : Prop :=
  ∃ s0 pass high s1 chosen s2, s.firstPass env = .ok (s0, pass) ∧ pass.rcverWithHighestPrio = some high ∧
    s.updatePolicyState env = .ok s1 ∧ s1.selectMsgToSend env.plat = .ok (some chosen, s2) ∧
    chosen ∈ s.ready ∧ s2.canSend chosen = true

structure Servable (env : Env) (s : Sender) : Prop where
  credit : env.cfg.senderPolicy = 2 → ∃ addr ∈ s.ready, 0 < (s.rcvr addr).availCreditDataBytes
  shared : Sender.Shared env.cfg s.ready.card
  low : s.remotes.keys.length ≤ 12366 ∨ ∀ addr ∈ s.ready, s.deficit addr ≤ 10

/-- In every run the policy serves a receiver that can send, when there is one:
if the one with most data credit has some, if no share is below a millionth, and
if the receivers are not too many. -/
theorem policy_serves (known : Sender.PolicyKnown env.cfg)
    (ratio : 0 ≤ env.cfg.senderPolicyRatio ∧ env.cfg.senderPolicyRatio ≤ 1) (asked : Asked env s)
    (some_ready : s.ready.Nonempty) (servable : Servable env s) : Serves env s :=
  asked.policyRun.selects known ratio some_ready servable.credit servable.shared servable.low

def longAndShort : List (Net → Event) :=
  [fun _ => .request 0 1 0 0 0 3000, fun _ => .request 0 2 0 0 0 100, fun _ => .tick (1 / 1000000)]

def halfShortest : Env := ⟨Config.small 3076 (-1) 1 3 0 twoFrames_set allUnsolicited_set, .plain⟩

theorem policy_serves_rest : ∃ s, Asked halfShortest s ∧ s.ready.Nonempty ∧ Serves halfShortest s := by
  have ran : ((init halfShortest.cfg).run halfShortest (longAndShort ++ [fun _ => .poll 0])).map (fun net =>
      ((net.host 0).snd.ready.card, decide ((net.host 0).snd.remotes.keys.length ≤ 12366))) = some (1, true) := by
    decide +kernel
  obtain ⟨net, run, rest⟩ := Option.map_eq_some_iff.mp ran
  have reach : Reachable halfShortest net := Reach.run .init (fun _ _ _ => trivial) run
  have one : (net.host 0).snd.ready.card = 1 := congrArg Prod.fst rest
  have few : (net.host 0).snd.remotes.keys.length ≤ 12366 := of_decide_eq_true (congrArg Prod.snd rest)
  have some_ready : (net.host 0).snd.ready.Nonempty := Finset.card_pos.mp (one ▸ Nat.one_pos)
  have known : Sender.PolicyKnown halfShortest.cfg := Or.inr (Or.inl rfl)
  have ratio : 0 ≤ halfShortest.cfg.senderPolicyRatio ∧ halfShortest.cfg.senderPolicyRatio ≤ 1 := by decide +kernel
  have servable : Servable halfShortest (net.host 0).snd := ⟨fun two => absurd two (by decide), Or.inl one, Or.inl few⟩
  exact ⟨_, .between 0 reach, some_ready, policy_serves known ratio (.between 0 reach) some_ready servable⟩

def allShortest : Env :=
  ⟨{ Config.small 3076 (-1) 1 3 0 twoFrames_set allUnsolicited_set with
      senderPolicyRatio := 1
      senderPolicyRatio_set := wholeRatio_set },
    .plain⟩

/-- The receiver of the long request comes first, and has no share. -/
theorem policy_stops : ¬ ∀ (env : Env) (s : Sender), Sender.PolicyKnown env.cfg →
    0 ≤ env.cfg.senderPolicyRatio ∧ env.cfg.senderPolicyRatio ≤ 1 → Asked env s → s.ready.Nonempty → Serves env s := by
  intro claimed
  have ran : ((init allShortest.cfg).run allShortest longAndShort).map (fun net =>
      (do
        let h1 ← (net.host 0).announce allShortest
        let s1 ← h1.snd.updatePolicyState allShortest
        return (h1.snd.ready.card, (s1.selectMsgToSend allShortest.plat).isOk) : Checked (ℕ × Bool))) =
        some (.ok (2, false)) := by
    decide +kernel
  obtain ⟨net, run, rest⟩ := Option.map_eq_some_iff.mp ran
  simp only [Lib.bind_eq_ok, Lib.pure_eq_ok, Prod.mk.injEq] at rest
  obtain ⟨h1, announced, s1, update, two, stops⟩ := rest
  have reach : Reachable allShortest net := Reach.run .init (fun _ _ _ => trivial) run
  have some_ready : h1.snd.ready.Nonempty := Finset.card_pos.mp (two ▸ Nat.two_pos)
  have known : Sender.PolicyKnown allShortest.cfg := Or.inr (Or.inl rfl)
  have ratio : 0 ≤ allShortest.cfg.senderPolicyRatio ∧ allShortest.cfg.senderPolicyRatio ≤ 1 := by decide +kernel
  obtain ⟨-, -, -, s1', chosen, s2, -, -, update', select, -⟩ :=
    claimed allShortest h1.snd known ratio (.announced 0 reach rfl announced) some_ready
  rw [update, Except.ok.injEq] at update'
  subst update'
  rw [select] at stops
  cases stops

end Net

end PhantomPass
