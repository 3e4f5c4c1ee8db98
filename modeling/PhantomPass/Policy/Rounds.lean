import PhantomPass.Policy.Runs

/-! When a round of update_policy_state and select_msg_to_send goes through: some
receiver is preferred, the quanta are not too small, and no deficit is too large. -/

set_option autoImplicit false

namespace PhantomPass

open Lib

namespace Sender

variable {env : Env} {s s' s1 s2 : Sender} {addr : Addr}

/-- Preferring by data credit passes over the receivers that have none. -/
def Heeds (s : Sender) (seen : List Addr) (pass : PolicyPass) : Prop :=
  pass.rcverWithHighestPrio = none → pass.strongestPrio = some 0 ∧
    ∀ addr ∈ seen, s.canSend addr = true → (s.rcvr addr).availCreditDataBytes ≤ 0

theorem consider_heeds {seen : List Addr} {pass pass' : PolicyPass} (two : env.cfg.senderPolicy = 2)
    (heeds : s.Heeds seen pass) (run : s.consider env addr pass = .ok pass') : s.Heeds (seen ++ [addr]) pass' := by
  unfold consider at run
  by_cases can : (s.rcverPolicyStates addr).canSend = true
  · rw [if_pos can] at run
    cases state : (s.rcverPolicyStates addr).msgState with
    | none => unfold weigh at run; rw [state] at run; cases run
    | some id =>
      rw [weigh_eq pass state] at run
      unfold prefer at run
      dsimp only at run
      rw [if_pos two] at run
      cases run
      have noted : ∀ pass1 : PolicyPass, (s.noteFlow addr id pass1).rcverWithHighestPrio = pass1.rcverWithHighestPrio ∧
          (s.noteFlow addr id pass1).strongestPrio = pass1.strongestPrio := by
        intro pass1
        unfold noteFlow
        dsimp only
        split
        · exact ⟨rfl, rfl⟩
        · exact ⟨rfl, rfl⟩
      intro nothing
      rw [(noted _).1] at nothing
      rw [(noted _).2]
      split at nothing
      · cases nothing
      · next weak =>
        obtain ⟨start, none_before⟩ := heeds nothing
        rw [if_neg weak]
        refine ⟨start, fun other member sends => ?_⟩
        rcases List.mem_append.mp member with old | new
        · exact none_before other old sends
        · rw [List.mem_singleton.mp new]
          simpa [start] using weak
  · rw [if_neg can] at run
    simp only [Lib.bind_eq_ok, Lib.pure_eq_ok] at run
    obtain ⟨-, -, rfl⟩ := run
    intro nothing
    obtain ⟨start, none_before⟩ := heeds nothing
    refine ⟨start, fun other member sends => ?_⟩
    rcases List.mem_append.mp member with old | new
    · exact none_before other old sends
    · rw [List.mem_singleton.mp new] at sends
      exact absurd sends can

theorem findCanSend_heeds {order seen : List Addr} {pass pass' : PolicyPass} (two : env.cfg.senderPolicy = 2)
    (nodup : (seen ++ order).Nodup) (heeds : s.Heeds seen pass) (run : findCanSend env order s pass = .ok (s', pass')) :
    s'.Heeds (seen ++ order) pass' := by
  induction order generalizing s seen pass with
  | nil =>
    simp only [findCanSend, Lib.pure_eq_ok, Prod.mk.injEq] at run
    obtain ⟨rfl, rfl⟩ := run
    rw [List.append_nil]
    exact heeds
  | cons addr rest ih =>
    unfold findCanSend assert at run
    simp only [Lib.bind_eq_ok] at run
    obtain ⟨s1, wants, pass1, considered, -, -, loop⟩ := run
    have first := wantToSend_ok wants
    have unseen : addr ∉ seen := fun member =>
      (List.nodup_append.mp nodup).2.2 addr member addr List.mem_cons_self rfl
    have still : s1.Heeds seen pass := by
      intro nothing
      obtain ⟨start, none_before⟩ := heeds nothing
      refine ⟨start, fun other member sends => ?_⟩
      have apart : other ≠ addr := fun same => unseen (same ▸ member)
      unfold canSend at sends
      rw [first.others other apart] at sends
      rw [first.chooses.creditData]
      exact none_before other member sends
    rw [← List.singleton_append, ← List.append_assoc] at nodup ⊢
    exact ih nodup (consider_heeds two still considered) loop

theorem firstPass_able {pass : PolicyPass} (run : s.firstPass env = .ok (s1, pass)) : s1.able = s.ready := by
  obtain ⟨chooses, picks, -⟩ := findCanSend_ok run
  rw [← chooses.ready]
  ext other
  rw [mem_able, mem_ready]
  refine and_congr_right fun member => (picks other ?_).canSend_iff
  rw [(env.plat.walk_perm _).mem_iff, ← chooses.remotes]
  exact member

/-- A receiver is preferred when one is ready, and has data credit where that is what counts. -/
theorem firstPass_prefers {pass : PolicyPass} (some_ready : s.ready.Nonempty)
    (credit : env.cfg.senderPolicy = 2 → ∃ addr ∈ s.ready, 0 < (s.rcvr addr).availCreditDataBytes)
    (run : s.firstPass env = .ok (s1, pass)) : ∃ high, pass.rcverWithHighestPrio = some high := by
  have able := firstPass_able run
  by_cases two : env.cfg.senderPolicy = 2
  · obtain ⟨addr, inside, pos⟩ := credit two
    cases prio : pass.rcverWithHighestPrio with
    | some high => exact ⟨high, rfl⟩
    | none =>
      have start : s.Heeds [] { strongestPrio := if env.cfg.senderPolicy = 2 then some 0 else none } :=
        fun _ => ⟨if_pos two, by simp⟩
      have nodup : ([] ++ env.plat.walk s.remotes.keys).Nodup := (env.plat.walk_perm _).nodup_iff.mpr s.remotes.nodup
      obtain ⟨-, spent⟩ := findCanSend_heeds two nodup start run prio
      have chooses := (findCanSend_ok run).1
      rw [← able] at inside
      obtain ⟨member, sends⟩ := mem_able.mp inside
      have known : addr ∈ [] ++ env.plat.walk s.remotes.keys := by
        rw [List.nil_append, (env.plat.walk_perm _).mem_iff, ← chooses.remotes]
        exact member
      have none_left := spent addr known sends
      rw [chooses.creditData] at none_left
      omega
  · rcases findCanSend_preferring two (Preferring.start env.cfg two) run with ⟨nobody, -⟩ | found
    · have number := (firstPass_passed run).2.1.card (env.plat.walk_perm s1.remotes.keys)
      have none_able := Finset.card_eq_zero.mp (number.symm.trans nobody)
      rw [able] at none_able
      exact absurd some_ready (Finset.not_nonempty_iff_eq_empty.mpr none_able)
    · exact found

theorem weights_nonneg {cfg : Config} (known : PolicyKnown cfg)
    (ratio : 0 ≤ cfg.senderPolicyRatio ∧ cfg.senderPolicyRatio ≤ 1) :
    0 ≤ cfg.fsWeight ∧ 0 ≤ cfg.srptWeight := by
  obtain ⟨nonneg, le⟩ := ratio
  unfold Config.fsWeight Config.srptWeight
  rcases known with policy | policy | policy
  · simp [policy]
  · simp [policy, nonneg, le]
  · simp [policy, nonneg, le]

/-- The quanta are large enough to be told from zero: one receiver has it all, or
the equal shares are a millionth at least. -/
def Shared (cfg : Config) (number : ℕ) : Prop := number = 1 ∨ 1 / 1000000 ≤ 1 / number * cfg.fsWeight

theorem share_large {cfg : Config} {able : Finset Addr} {high : Addr} (srpt : 0 ≤ cfg.srptWeight)
    (preferred : high ∈ able)
    (shared : Shared cfg able.card) (inside : addr ∈ able) : 1 / 1000000 ≤ cfg.share able.card (some high) addr := by
  unfold Config.share
  rcases shared with one | large
  · obtain ⟨only, rfl⟩ := Finset.card_eq_one.mp one
    rw [Finset.mem_singleton] at preferred inside
    rw [preferred, inside, if_pos rfl, one, Nat.cast_one, div_one, one_mul, one_mul, cfg.weights]
    norm_num
  · split
    · linarith
    · exact large

theorem round_low {able : Finset Addr} {share before after : Addr → ℚ} {chosen : Addr} {extra : ℕ}
    (round : CupGame.Round able share before after chosen extra) (nonneg : ∀ addr ∈ able, 0 ≤ share addr)
    (unit : ∑ addr ∈ able, share addr ≤ 1) (low : before chosen ≤ 10) : after chosen ≤ 10 := by
  have inside := round.chosen_able
  have le_one : share chosen ≤ 1 := (Finset.single_le_sum nonneg inside).trans unit
  rw [round.emptied, if_pos rfl]
  rcases extra.eq_zero_or_pos with rfl | more
  · rw [CupGame.filled, if_pos inside, zero_add, Nat.cast_one, one_mul]
    linarith
  · have short := round.short more chosen inside
    rw [CupGame.filled_succ extra inside]
    linarith

theorem PolicyRun.selects (known : PolicyKnown env.cfg)
    (ratio : 0 ≤ env.cfg.senderPolicyRatio ∧ env.cfg.senderPolicyRatio ≤ 1)
    (run : PolicyRun env s) (some_ready : s.ready.Nonempty)
    (credit : env.cfg.senderPolicy = 2 → ∃ addr ∈ s.ready, 0 < (s.rcvr addr).availCreditDataBytes)
    (shared : Shared env.cfg s.ready.card) (low : s.remotes.keys.length ≤ 12366 ∨ ∀ addr ∈ s.ready,
    s.deficit addr ≤ 10) :
    ∃ s0 pass high s1 chosen s2, s.firstPass env = .ok (s0, pass) ∧ pass.rcverWithHighestPrio = some high ∧
      s.updatePolicyState env = .ok s1 ∧ s1.selectMsgToSend env.plat = .ok (some chosen, s2) ∧
      chosen ∈ s.ready ∧ s2.canSend chosen = true := by
  have nonneg := run.poised.nonneg
  have weights := weights_nonneg known ratio
  obtain ⟨first, first_ready⟩ := some_ready
  have some_rcvr : s.remotes.keys ≠ [] := List.ne_nil_of_mem (mem_ready.mp first_ready).1
  obtain ⟨s1, update⟩ : ∃ s1, s.updatePolicyState env = .ok s1 := by
    apply updatePolicyState_succeeds known some_rcvr nonneg weights
    intro s0 pass find _
    obtain ⟨high, found⟩ := firstPass_prefers ⟨first, first_ready⟩ credit find
    rw [found]
    exact Option.some_ne_none high
  obtain ⟨s0, pass, find, updated⟩ := updatePolicyState_updated update
  obtain ⟨high, found⟩ := firstPass_prefers ⟨first, first_ready⟩ credit find
  have able : s1.able = s.ready := able_eq_ready update
  rw [found] at updated
  have preferred : high ∈ s1.able := by
    rcases updated.preferred with nobody | ⟨high', inside, same⟩
    · rw [able] at nobody
      exact absurd first_ready (nobody ▸ Finset.notMem_empty first)
    · rw [Option.some.inj same]
      exact inside
  have select : ∃ selected s2, s1.selectMsgToSend env.plat = .ok (some selected, s2) := by
    unfold selectMsgToSend
    -- deficits stay below ten and no share is too small, so that a choice is all that is left
    cases updated.outcome nonneg with
    | idle states nobody same done =>
      rw [able] at nobody
      exact absurd first_ready (nobody ▸ Finset.notMem_empty first)
    | picked states chosen after extra round low same done =>
      rw [done]
      exact ⟨chosen, _, rfl⟩
    | above chosen after extra round high done =>
      rcases low with few | low
      · have stops : s1.selectMsgToSend env.plat = .error deficitFault := by
          unfold selectMsgToSend
          rw [done]
          rfl
        exact absurd stops (run.selected_deficit few update).1
      · have below := round_low round updated.nonneg updated.unit (low chosen (able ▸ round.chosen_able))
        exact absurd below (not_le.mpr high)
    | stopped fault other small done =>
      obtain ⟨addr, inside, small⟩ := small
      rw [← able] at shared
      exact absurd small (not_lt.mpr (share_large weights.2 preferred shared inside))
  obtain ⟨chosen, s2, selects⟩ := select
  have rounded := updated.rounded nonneg selects
  obtain ⟨after, extra, -, round, -⟩ := rounded.picked chosen rfl
  have inside := round.chosen_able
  refine ⟨s0, pass, high, s1, chosen, s2, find, found, update, selects, able ▸ inside, ?_⟩
  exact (mem_able.mp (rounded.able ▸ inside)).2

theorem PolicyRun.selects_none (known : PolicyKnown env.cfg)
    (ratio : 0 ≤ env.cfg.senderPolicyRatio ∧ env.cfg.senderPolicyRatio ≤ 1) (run : PolicyRun env s)
    (some_rcvr : s.remotes.keys ≠ []) (none_ready : s.ready = ∅) :
    ∃ s1 s2, s.updatePolicyState env = .ok s1 ∧ s1.selectMsgToSend env.plat = .ok (none, s2) := by
  have nonneg := run.poised.nonneg
  obtain ⟨s1, update⟩ : ∃ s1, s.updatePolicyState env = .ok s1 := by
    apply updatePolicyState_succeeds known some_rcvr nonneg (weights_nonneg known ratio)
    intro s0 pass find some_able
    rw [firstPass_able find, none_ready] at some_able
    exact absurd some_able Finset.not_nonempty_empty
  obtain ⟨s0, pass, find, updated⟩ := updatePolicyState_updated update
  have nobody : s1.able = ∅ := (able_eq_ready update).trans none_ready
  refine ⟨s1, ?_⟩
  unfold selectMsgToSend
  cases updated.outcome nonneg with
  | idle states _ same done =>
    rw [done]
    exact ⟨_, update, rfl⟩
  | picked states chosen after extra round low same done =>
    exact absurd (nobody ▸ round.chosen_able) (Finset.notMem_empty chosen)
  | above chosen after extra round high done => exact absurd (nobody ▸ round.chosen_able) (Finset.notMem_empty chosen)
  | stopped fault other small done =>
    obtain ⟨addr, inside, -⟩ := small
    exact absurd (nobody ▸ inside) (Finset.notMem_empty addr)

end Sender

end PhantomPass
