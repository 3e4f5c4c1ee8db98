import PhantomPass.Policy.Selection

/-! The deficits over whole runs, in which receivers come, and become able and
unable to send. They stay within the harmonic number of the receivers, and so
within ten for some twelve thousand receivers. -/

set_option autoImplicit false

namespace PhantomPass

open Lib

namespace Sender

variable {env : Env} {s s' s1 s2 : Sender}

/-- What happens between two rounds: a new receiver has a fresh policy state, and
nothing touches the others. Messages, queues and credit may change in any way. -/
structure Between (s s' : Sender) : Prop where
  known : ∀ addr ∈ s.remotes.keys, addr ∈ s'.remotes.keys
  same : ∀ addr ∈ s.remotes.keys, s'.rcverPolicyStates addr = s.rcverPolicyStates addr
  fresh : ∀ addr ∈ s'.remotes.keys, addr ∉ s.remotes.keys → s'.rcverPolicyStates addr = {}

theorem Between.refl (s : Sender) : Between s s :=
    ⟨fun _ known => known, fun _ _ => rfl, fun _ known unknown => absurd known unknown⟩

/-- The states that a sender can reach by rounds of update_policy_state and
select_msg_to_send, with anything in between. -/
inductive PolicyRun (env : Env) : Sender → Prop
  | start : PolicyRun env {}
  | between {s s' : Sender} : PolicyRun env s → Between s s' → PolicyRun env s'
  | round {s s1 s2 : Sender} {selected : Option Addr} : PolicyRun env s → s.updatePolicyState env = .ok s1 →
      s1.selectMsgToSend env.plat = .ok (selected, s2) → PolicyRun env s2

structure Poised (s : Sender) : Prop where
  nonneg : ∀ addr ∈ s.remotes.keys, 0 ≤ s.deficit addr
  bounded : CupGame.Bounded s.remotes.keys.length s.remotes.keys.toFinset s.deficit

theorem Poised.start : Poised {} := ⟨by simp, fun part inside => by simp [Finset.subset_empty.mp inside]⟩

theorem card_keys (s : Sender) : s.remotes.keys.toFinset.card = s.remotes.keys.length :=
  List.toFinset_card_of_nodup s.remotes.nodup

theorem able_subset (s : Sender) : s.able ⊆ s.remotes.keys.toFinset := Finset.filter_subset _ _

theorem Poised.between (poised : Poised s) (between : Between s s') : Poised s' := by
  have old (addr : Addr) (member : addr ∈ s.remotes.keys) : s'.deficit addr = s.deficit addr := by
    unfold deficit
    rw [between.same addr member]
  have new (addr : Addr) (member : addr ∈ s'.remotes.keys) (outside : addr ∉ s.remotes.keys) : s'.deficit addr = 0 := by
    unfold deficit
    rw [between.fresh addr member outside]
  have grows : s.remotes.keys.length ≤ s'.remotes.keys.length := by
    rw [← card_keys, ← card_keys]
    apply Finset.card_le_card
    intro addr member
    exact List.mem_toFinset.mpr (between.known addr (List.mem_toFinset.mp member))
  constructor
  · intro addr member
    by_cases inside : addr ∈ s.remotes.keys
    · rw [old addr inside]; exact poised.nonneg addr inside
    · rw [new addr member inside]
  · apply poised.bounded.grow grows
    · exact fun addr _ inside => old addr (List.mem_toFinset.mp inside)
    · exact fun addr member outside => new addr (List.mem_toFinset.mp member) fun inside =>
        outside (List.mem_toFinset.mpr inside)
    · exact (card_keys s').le

theorem Updated.playing {cfg : Config} {high : Option Addr} {order : List Addr} (updated : Updated cfg s s1 high)
    (perm : order.Perm s1.remotes.keys) :
    Playing s1.able (cfg.share s1.able.card high) s.deficit order 1 s1.rcverPolicyStates where
  able_order addr inside := perm.mem_iff.mpr (mem_able.mp inside).1
  can addr member := by
    rw [mem_able]
    exact ⟨fun can => ⟨perm.mem_iff.mp member, can⟩, And.right⟩
  level addr member := by
    unfold CupGame.filled
    split
    · next inside => rw [Nat.cast_one, one_mul]; exact updated.deficit addr inside
    · next outside => exact updated.idle addr (perm.mem_iff.mp member) outside
  quantum := updated.quantum

theorem Updated.unit {cfg : Config} {high : Option Addr} (updated : Updated cfg s s1 high) :
    ∑ addr ∈ s1.able, cfg.share s1.able.card high addr ≤ 1 := by
  rcases updated.preferred with empty | ⟨first, inside, rfl⟩
  · rw [empty]; simp
  · exact (cfg.sum_share inside).le

theorem Updated.outcome {high : Option Addr} (updated : Updated env.cfg s s1 high)
    (nonneg : ∀ addr ∈ s.remotes.keys, 0 ≤ s.deficit addr) :
    Outcome s1.able (env.cfg.share s1.able.card high) s.deficit (env.plat.walk s1.remotes.keys)
      (selectRounds (env.plat.walk s1.remotes.keys) 1000001 s1.rcverPolicyStates) := by
  have perm := env.plat.walk_perm s1.remotes.keys
  apply selectRounds_outcome (perm.nodup_iff.mpr s1.remotes.nodup) _ updated.nonneg (updated.playing perm)
  · intro none_yet; exact absurd none_yet (lt_irrefl 0)
  · exact le_refl _
  · intro addr inside
    exact nonneg addr (updated.remotes ▸ (mem_able.mp inside).1)

/-- What a completed round leaves, in terms of the cup game. -/
structure Rounded (cfg : Config) (s s1 s2 : Sender) (high selected : Option Addr) : Prop where
  remotes : s2.remotes.keys = s.remotes.keys
  able : s2.able = s1.able
  nobody : selected = none → s1.able = ∅ ∧ ∀ addr ∈ s2.remotes.keys, s2.deficit addr = 0
  picked : ∀ chosen, selected = some chosen → ∃ after extra, after chosen ≤ 10 ∧
    CupGame.Round s1.able (cfg.share s1.able.card high) s.deficit after chosen extra ∧
    ∀ addr ∈ s2.remotes.keys, s2.deficit addr = after addr

theorem Updated.rounded {high selected : Option Addr} (updated : Updated env.cfg s s1 high)
    (nonneg : ∀ addr ∈ s.remotes.keys, 0 ≤ s.deficit addr) (run : s1.selectMsgToSend env.plat = .ok (selected, s2)) :
    Rounded env.cfg s s1 s2 high selected := by
  have perm := env.plat.walk_perm s1.remotes.keys
  unfold selectMsgToSend at run
  simp only [Lib.bind_eq_ok, Lib.pure_eq_ok, Prod.mk.injEq] at run
  obtain ⟨⟨ret, states⟩, rounds, rfl, rfl⟩ := run
  have same := (selectRounds_ok rounds).1
  have able : ({ s1 with rcverPolicyStates := states } : Sender).able = s1.able := by
    ext addr
    rw [mem_able, mem_able]
    exact and_congr_right fun _ => by unfold canSend; rw [(same addr).1]
  cases updated.outcome nonneg with
  | idle states1 nobody level done =>
    cases rounds.symm.trans done
    refine ⟨updated.remotes, able, fun _ => ⟨nobody, fun addr member => level addr (perm.mem_iff.mpr member)⟩, ?_⟩
    intro chosen found
    cases found
  | picked states1 chosen after extra round low level done =>
    cases rounds.symm.trans done
    refine ⟨updated.remotes, able, fun nothing => (Option.some_ne_none _ nothing).elim, fun addr found => ?_⟩
    cases found
    exact ⟨after, extra, low, round, fun addr member => level addr (perm.mem_iff.mpr member)⟩
  | above chosen after extra round high done => cases rounds.symm.trans done
  | stopped fault other small done => cases rounds.symm.trans done

theorem Poised.rounded {cfg : Config} {high selected : Option Addr} (poised : Poised s)
    (updated : Updated cfg s s1 high) (rounded : Rounded cfg s s1 s2 high selected) : Poised s2 := by
  have inside : s1.able ⊆ s.remotes.keys.toFinset := updated.remotes ▸ able_subset s1
  cases selected with
  | none =>
    have zero := (rounded.nobody rfl).2
    refine ⟨fun addr member => (zero addr member).ge, fun part there => ?_⟩
    have empty : ∑ addr ∈ part, s2.deficit addr = 0 :=
      Finset.sum_eq_zero fun addr member => zero addr (List.mem_toFinset.mp (there member))
    have few : part.card ≤ s2.remotes.keys.length := card_keys s2 ▸ Finset.card_le_card there
    rw [empty]
    exact le_trans (Nat.cast_nonneg _) (CupGame.card_le_bound few)
  | some chosen =>
    obtain ⟨after, extra, -, round, level⟩ := rounded.picked chosen rfl
    have held : ∀ addr ∈ s1.able, 0 ≤ s.deficit addr := fun addr member =>
      poised.nonneg addr (List.mem_toFinset.mp (inside member))
    have bounded := round.bounded updated.nonneg updated.unit inside (card_keys s).le poised.bounded
    refine ⟨fun addr member => ?_, fun part there => ?_⟩
    · rw [level addr member]
      exact round.after_nonneg updated.nonneg held addr
    · have same : ∑ addr ∈ part, s2.deficit addr = ∑ addr ∈ part, after addr :=
        Finset.sum_congr rfl fun addr member => level addr (List.mem_toFinset.mp (there member))
      rw [same]
      rw [rounded.remotes] at there ⊢
      exact bounded part there

theorem PolicyRun.poised (run : PolicyRun env s) : Poised s := by
  induction run with
  | start => exact .start
  | between _ between ih => exact ih.between between
  | round _ update select ih =>
    obtain ⟨_, _, _, updated⟩ := updatePolicyState_updated update
    exact ih.rounded updated (updated.rounded ih.nonneg select)

theorem harmonic_few : harmonic 12366 ≤ 10 := by
  have pos : 0 < 10 ^ 12 := by decide
  have bounds := (blockParts_bounds pos [13, 12, 6, 3, 2, 1] 0).2
  have parts : blockParts (10 ^ 12) [13, 12, 6, 3, 2, 1] 0 + 12366 ≤ 10 * 10 ^ 12 := by decide +kernel
  have last : blockEnd [13, 12, 6, 3, 2, 1] 0 = 12366 := by decide
  rw [last, harmonic_zero, sub_zero, le_div_iff₀ (by norm_num)] at bounds
  have scaled : ((blockParts (10 ^ 12) [13, 12, 6, 3, 2, 1] 0 + 12366 : ℕ) : ℚ) ≤ (10 * 10 ^ 12 : ℕ) := by
    exact_mod_cast parts
  push_cast at *
  linarith

/-- While the harmonic number of the receivers is ten at most, the last assertion
of select_msg_to_send holds in every run. -/
theorem PolicyRun.selected_deficit (run : PolicyRun env s) (few : s.remotes.keys.length ≤ 12366)
    (update : s.updatePolicyState env = .ok s1) :
    s1.selectMsgToSend env.plat ≠ .error deficitFault ∧
    ∀ selected s2, s1.selectMsgToSend env.plat = .ok (selected, s2) →
      (∀ addr, selected = some addr → 0 ≤ s2.deficit addr ∧ s2.deficit addr ≤ 10) ∧
      ∀ addr ∈ s2.remotes.keys, s2.canSend addr = false → s2.deficit addr = 0 := by
  obtain ⟨_, _, _, updated⟩ := updatePolicyState_updated update
  have poised := run.poised
  have inside : s1.able ⊆ s.remotes.keys.toFinset := updated.remotes ▸ able_subset s1
  have ten : harmonic s.remotes.keys.length ≤ 10 := le_trans (Lib.harmonic_mono few) harmonic_few
  refine ⟨fun stops => ?_, fun selected s2 select => ?_⟩
  · unfold selectMsgToSend at stops
    simp only [Lib.bind_eq_error, Lib.pure_ne_error, and_false, exists_false, or_false] at stops
    cases updated.outcome poised.nonneg with
    | idle states nobody level done => cases stops.symm.trans done
    | picked states chosen after extra round low level done => cases stops.symm.trans done
    | above chosen after extra round high done =>
      have bounded := round.bounded updated.nonneg updated.unit inside (card_keys s).le poised.bounded
      linarith [bounded.single (inside round.chosen_able)]
    | stopped fault other small done => cases stops.symm.trans done; exact other rfl
  · have rounded := updated.rounded poised.nonneg select
    have after := (run.round update select).poised
    refine ⟨fun addr found => ?_, fun addr member cannot => ?_⟩
    · obtain ⟨level, extra, low, round, same⟩ := rounded.picked addr found
      have known : addr ∈ s2.remotes.keys :=
        rounded.remotes ▸ List.mem_toFinset.mp (inside round.chosen_able)
      exact ⟨after.nonneg addr known, same addr known ▸ low⟩
    · cases selected with
      | none => exact (rounded.nobody rfl).2 addr member
      | some chosen =>
        obtain ⟨level, extra, -, round, same⟩ := rounded.picked chosen rfl
        rw [same addr member]
        apply round.after_of_notMem
        rw [← rounded.able, mem_able, cannot]
        simp

end Sender

end PhantomPass
