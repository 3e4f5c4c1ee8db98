import PhantomPass.Policy.Crowd

/-! The shares of the receivers: while the same ones can send and the same one is
preferred, each is selected as often as its quantum says. -/

set_option autoImplicit false

namespace PhantomPass

open Lib

namespace Sender

variable {env : Env} {able : Finset Addr} {high : Addr} {s s1 s2 s3 s4 : Sender} {picks : List Addr}

/-- These receivers can send, and this one has the highest priority. -/
structure Favours (env : Env) (able : Finset Addr) (high : Addr) (s : Sender) : Prop where
  ready : s.ready = able
  some_ready : able.Nonempty
  prio : ∀ s1 pass, s.firstPass env = .ok (s1, pass) → pass.rcverWithHighestPrio = some high

/-- Rounds in which the same receivers can send and the same one has the highest
priority, with the receivers selected. -/
inductive Rounds (env : Env) (able : Finset Addr) (high : Addr) (s : Sender) : List Addr → Sender → Prop
  | start : Rounds env able high s [] s
  | next {s1 s2 s3 s4 : Sender} {picks : List Addr} {addr : Addr} : Rounds env able high s picks s1 →
      Favours env able high s1 → s1.updatePolicyState env = .ok s2 → s2.selectMsgToSend env.plat = .ok (some addr, s3) →
      Between s3 s4 → Rounds env able high s (picks ++ [addr]) s4

theorem Rounds.policyRun (rounds : Rounds env able high s picks s1) (run : PolicyRun env s) : PolicyRun env s1 := by
  induction rounds with
  | start => exact run
  | next _ _ update select between ih => exact (ih.round update select).between between

def quantumIn (cfg : Config) (able : Finset Addr) (high addr : Addr) : ℚ := cfg.share able.card (some high) addr

namespace Favours

theorem known (favours : Favours env able high s) {addr : Addr} (member : addr ∈ able) : addr ∈ s.remotes.keys :=
  (mem_ready.mp (favours.ready ▸ member)).1

theorem updated (favours : Favours env able high s1) (update : s1.updatePolicyState env = .ok s2) :
    s2.able = able ∧ Updated env.cfg s1 s2 (some high) := by
  obtain ⟨first, pass, find, updated⟩ := updatePolicyState_updated update
  rw [favours.prio first pass find] at updated
  exact ⟨(able_eq_ready update).trans favours.ready, updated⟩

theorem high_able (favours : Favours env able high s1) (update : s1.updatePolicyState env = .ok s2) : high ∈ able := by
  obtain ⟨same, updated⟩ := favours.updated update
  rcases updated.preferred with empty | ⟨first, member, found⟩
  · rw [same] at empty
    exact absurd empty favours.some_ready.ne_empty
  · cases found
    exact same ▸ member

theorem quanta (favours : Favours env able high s1) (update : s1.updatePolicyState env = .ok s2) :
    (∀ addr ∈ able, 0 ≤ quantumIn env.cfg able high addr) ∧ ∑ addr ∈ able, quantumIn env.cfg able high addr = 1 := by
  obtain ⟨same, updated⟩ := favours.updated update
  have nonneg := updated.nonneg
  rw [same] at nonneg
  exact ⟨nonneg, env.cfg.sum_share (favours.high_able update)⟩

theorem step {addr : Addr} (favours : Favours env able high s1) (run : PolicyRun env s1)
    (update : s1.updatePolicyState env = .ok s2) (select : s2.selectMsgToSend env.plat = .ok (some addr, s3)) :
    ∃ after extra, CupGame.Round able (quantumIn env.cfg able high) s1.deficit after addr extra ∧
      ∀ other ∈ able, s3.deficit other = after other := by
  obtain ⟨same, updated⟩ := favours.updated update
  have rounded := updated.rounded run.poised.nonneg select
  obtain ⟨after, extra, _, round, level⟩ := rounded.picked addr rfl
  rw [same] at round
  exact ⟨after, extra, round, fun other member => level other (rounded.remotes ▸ favours.known member)⟩

theorem update (favours : Favours env able high s1) (run : PolicyRun env s1) (policy : PolicyKnown env.cfg)
    (ratio : 0 ≤ env.cfg.senderPolicyRatio ∧ env.cfg.senderPolicyRatio < 1) :
    ∃ s2, s1.updatePolicyState env = .ok s2 := by
  obtain ⟨first, member⟩ := favours.some_ready
  have weights : 0 ≤ env.cfg.fsWeight ∧ 0 ≤ env.cfg.srptWeight := by
    unfold Config.fsWeight Config.srptWeight
    split
    · exact ⟨by linarith [ratio.2], ratio.1⟩
    · exact ⟨zero_le_one, le_rfl⟩
  apply updatePolicyState_succeeds policy (List.ne_nil_of_mem (favours.known member)) run.poised.nonneg weights
  intro first pass find _
  rw [favours.prio first pass find]
  exact Option.some_ne_none high

theorem round (favours : Favours env able high s1) (run : PolicyRun env s1) (policy : PolicyKnown env.cfg)
    (ratio : 0 ≤ env.cfg.senderPolicyRatio ∧ env.cfg.senderPolicyRatio < 1) (few : s1.remotes.keys.length ≤ 12366)
    (quanta : ∀ addr ∈ able, 1 / 1000000 ≤ quantumIn env.cfg able high addr) :
    ∃ addr ∈ able, ∃ s2 s3, s1.updatePolicyState env = .ok s2 ∧ s2.selectMsgToSend env.plat = .ok (some addr, s3) := by
  obtain ⟨first, member⟩ := favours.some_ready
  obtain ⟨s2, update⟩ := favours.update run policy ratio
  obtain ⟨same, updated⟩ := favours.updated update
  have safe := (run.selected_deficit few update).1
  cases select : s2.selectMsgToSend env.plat with
  | error fault =>
    rw [select] at safe
    unfold selectMsgToSend at select
    cases updated.outcome run.poised.nonneg with
    | idle states nobody level done => rw [done] at select; cases select
    | picked states chosen after extra round low level done => rw [done] at select; cases select
    | above chosen after extra round most done => rw [done] at select; cases select; exact absurd rfl safe
    | stopped fault other small done =>
      obtain ⟨addr, inside, small⟩ := small
      rw [same] at inside small
      exact absurd small (not_lt.mpr (quanta addr inside))
  | ok result =>
    obtain ⟨selected, s3⟩ := result
    have rounded := updated.rounded run.poised.nonneg select
    cases selected with
    | none => exact absurd (same.symm.trans (rounded.nobody rfl).1) (Finset.ne_empty_of_mem member)
    | some addr =>
      obtain ⟨after, extra, _, round, _⟩ := rounded.picked addr rfl
      exact ⟨addr, same ▸ round.chosen_able, s2, s3, update, select⟩

end Favours

theorem Rounds.game (rounds : Rounds env able high s picks s1) (run : PolicyRun env s) :
    ∃ fillings level, CupGame.Game able (quantumIn env.cfg able high) s.deficit picks fillings level ∧
      ∀ addr ∈ able, s1.deficit addr = level addr := by
  -- each round of the policy is a round of the game, with the quanta as fillings
  induction rounds with
  | start => exact ⟨0, s.deficit, .start, fun _ _ => rfl⟩
  | next before favours update select between ih =>
    obtain ⟨fillings, level, game, same⟩ := ih
    obtain ⟨after, extra, round, held⟩ := favours.step (before.policyRun run) update select
    refine ⟨fillings + extra, after, game.next (round.congr fun addr member => (same addr member).symm),
      fun addr member => ?_⟩
    have chooses := (updatePolicyState_ok update).1.trans (selectMsgToSend_ok select (updatePolicyState_ok update).2).1
    unfold deficit at held ⊢
    rw [between.same addr (chooses.remotes ▸ favours.known member)]
    exact held addr member

/-- While quanta are a millionth at least, every round goes through and selects one
of the receivers that can send, and each is selected as often as its quantum
says, up to a constant. -/
theorem Rounds.shares (run : PolicyRun env s) (policy : PolicyKnown env.cfg)
    (ratio : 0 ≤ env.cfg.senderPolicyRatio ∧ env.cfg.senderPolicyRatio < 1) (first : Favours env able high s)
    (quanta : ∀ addr ∈ able, 1 / 1000000 ≤ quantumIn env.cfg able high addr)
    (rounds : Rounds env able high s picks s1) :
    (Favours env able high s1 → s1.remotes.keys.length ≤ 12366 → ∃ addr ∈ able, ∃ s2 s3,
      s1.updatePolicyState env = .ok s2 ∧ s2.selectMsgToSend env.plat = .ok (some addr, s3)) ∧
    ∀ addr ∈ able, |(picks.count addr : ℚ) - picks.length * quantumIn env.cfg able high addr| ≤
      able.card + ∑ other ∈ able, s.deficit other := by
  refine ⟨fun favours few => favours.round (rounds.policyRun run) policy ratio few quanta, fun addr member => ?_⟩
  have start : ∀ other ∈ able, 0 ≤ s.deficit other := fun other inside => run.poised.nonneg other (first.known inside)
  obtain ⟨_, update⟩ := first.update run policy ratio
  obtain ⟨nonneg, unit⟩ := first.quanta update
  obtain ⟨fillings, level, game, -⟩ := rounds.game run
  exact game.share nonneg unit start member

theorem crowd_favours : Favours fairEnv (Finset.range 2) 0 (crowd 2) where
  ready := crowd_ready 2
  some_ready := by decide
  prio s1 pass find := by
    have prio : (((crowd 2).firstPass fairEnv).map fun result => result.2.rcverWithHighestPrio) = .ok (some 0) := by
      decide +kernel
    rw [find] at prio
    exact Except.ok.inj prio

theorem quantum_fair (addr : Addr) : quantumIn fairEnv.cfg (Finset.range 2) 0 addr = 1 / 2 := by
  unfold quantumIn
  rw [share_fair rfl, Finset.card_range, Nat.cast_ofNat]

/-- Rounds of update_policy_state and select_msg_to_send while the first receiver has the highest priority. -/
def fairRounds : ℕ → List Addr → Sender → Option (List Addr × Sender)
  | 0, picks, s => some (picks, s)
  | n + 1, picks, s =>
    if ((s.firstPass fairEnv).map fun result => result.2.rcverWithHighestPrio) = .ok (some 0) then
      match s.updatePolicyState fairEnv >>= fun s1 => s1.selectMsgToSend fairEnv.plat with
      | .ok (some addr, s2) => fairRounds n (picks ++ [addr]) s2
      | _ => none
    else none

theorem fairRounds_rounds {n : ℕ} {s s1 s2 : Sender} {picks more : List Addr}
    (before : Rounds fairEnv (Finset.range 2) 0 s picks s1) (ready : s1.ready = Finset.range 2)
    (run : fairRounds n picks s1 = some (more, s2)) : Rounds fairEnv (Finset.range 2) 0 s more s2 := by
  induction n generalizing s1 picks with
  | zero =>
    cases run
    exact before
  | succ n ih =>
    unfold fairRounds at run
    split at run
    · next first =>
      split at run
      · next addr s3 round =>
        obtain ⟨s2, update, select⟩ := (Lib.bind_eq_ok ..).mp round
        have favours : Favours fairEnv (Finset.range 2) 0 s1 := by
          refine ⟨ready, ⟨0, by decide⟩, fun s1 pass find => ?_⟩
          rw [find] at first
          exact Except.ok.inj first
        obtain ⟨chooses1, picks⟩ := updatePolicyState_ok update
        have chooses := chooses1.trans (selectMsgToSend_ok select picks).1
        exact ih (before.next favours update select (.refl s3)) (chooses.ready.trans ready) run
      · cases run
    · cases run

/-- Five rounds of two receivers. -/
theorem crowd_shares : ∃ picks s1, Rounds fairEnv (Finset.range 2) 0 (crowd 2) picks s1 ∧ picks.length = 5 ∧
    ∀ addr ∈ Finset.range 2, |((picks.count addr : ℕ) : ℚ) - picks.length * (1 / 2)| ≤ 2 := by
  have run : PolicyRun fairEnv (crowd 2) := PolicyRun.start.between (crowd_between 2)
  have ratio : 0 ≤ fairEnv.cfg.senderPolicyRatio ∧ fairEnv.cfg.senderPolicyRatio < 1 := by decide +kernel
  have quanta : ∀ addr ∈ Finset.range 2, 1 / 1000000 ≤ quantumIn fairEnv.cfg (Finset.range 2) 0 addr := by
    intro addr _
    rw [quantum_fair]
    norm_num
  have ran : (fairRounds 5 [] (crowd 2)).map (fun result => result.1.length) = some 5 := by decide +kernel
  obtain ⟨⟨picks, s1⟩, played, five⟩ := Option.map_eq_some_iff.mp ran
  have rounds := fairRounds_rounds .start (crowd_ready 2) played
  refine ⟨picks, s1, rounds, five, fun addr member => ?_⟩
  have share := (Rounds.shares run (Or.inl rfl) ratio crowd_favours quanta rounds).2 addr member
  rw [quantum_fair] at share
  exact share.trans (by rw [Finset.card_range]; decide +kernel)

/-- A sender whose shortest message takes nearly the whole rate. -/
def skewedEnv : Env :=
  ⟨{ Config.small 3076 (-1) 1 3 0 twoFrames_set allUnsolicited_set with
      senderPolicyRatio := 9999999 / 10000000, senderPolicyRatio_set := by norm_num }, Platform.plain⟩

/-- The other receiver's quantum is below what select_msg_to_send asserts. -/
theorem skewed_stops : PolicyKnown skewedEnv.cfg ∧ 0 ≤ skewedEnv.cfg.senderPolicyRatio ∧
    skewedEnv.cfg.senderPolicyRatio < 1 ∧ PolicyRun skewedEnv (crowd 2) ∧ Favours skewedEnv
    (Finset.range 2) 0 (crowd 2) ∧
    ((crowd 2).updatePolicyState skewedEnv).bind (fun s => s.selectMsgToSend skewedEnv.plat |>.map Prod.fst) =
      .error (.assertion .selectMsgToSend "kv.second.quantum_ >= 0.000001") := by
  refine ⟨Or.inr (Or.inl rfl), by decide +kernel, by decide +kernel, PolicyRun.start.between (crowd_between 2),
    ⟨crowd_ready 2, by decide, ?_⟩, by decide +kernel⟩
  intro s1 pass find
  have prio : (((crowd 2).firstPass skewedEnv).map fun result => result.2.rcverWithHighestPrio) = .ok (some 0) := by
    decide +kernel
  rw [find] at prio
  exact Except.ok.inj prio

end Sender

end PhantomPass
