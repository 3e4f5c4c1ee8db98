import Mathlib
import PhantomPass.Lib.Harmonic

/-! Cups that are filled and emptied in turn. In every round some of the cups
take part, and the others are empty. Each of these gets its quantum, again and
again until one of them is full, and a fullest cup loses one unit. No cup ever
holds more than the harmonic number of the cups, and while the same cups take
part with the same quanta each loses its share of the units. -/

set_option autoImplicit false

namespace Lib.CupGame

variable {ι : Type*} [DecidableEq ι]

/-- What the cups hold after some fillings; cups that do not take part are empty. -/
def filled (able : Finset ι) (quantum before : ι → ℚ) (fillings : ℕ) (i : ι) : ℚ :=
  if i ∈ able then before i + fillings * quantum i else 0

/-- One round: fillings beyond the first happen only while no cup is full. -/
structure Round (able : Finset ι) (quantum before after : ι → ℚ) (chosen : ι) (extra : ℕ) : Prop where
  chosen_able : chosen ∈ able
  full : 1 ≤ filled able quantum before (extra + 1) chosen
  fullest : ∀ i ∈ able, filled able quantum before (extra + 1) i ≤ filled able quantum before (extra + 1) chosen
  short : 0 < extra → ∀ i ∈ able, filled able quantum before extra i < 1
  emptied : ∀ i, after i = filled able quantum before (extra + 1) i - if i = chosen then 1 else 0

variable {able : Finset ι} {quantum before after : ι → ℚ} {chosen : ι} {extra : ℕ}

theorem filled_succ (fillings : ℕ) {i : ι} (member : i ∈ able) :
    filled able quantum before (fillings + 1) i = filled able quantum before fillings i + quantum i := by
  unfold filled
  rw [if_pos member, if_pos member]
  push_cast
  ring

theorem filled_of_notMem (fillings : ℕ) {i : ι} (outside : i ∉ able) :
    filled able quantum before fillings i = 0 := if_neg outside

theorem sum_filled_inter (fillings : ℕ) (cups : Finset ι) :
    ∑ i ∈ cups, filled able quantum before fillings i = ∑ i ∈ cups ∩ able, filled able quantum before fillings i := by
  symm
  apply Finset.sum_subset Finset.inter_subset_left
  intro i member outside
  exact filled_of_notMem _ fun inside => outside (Finset.mem_inter.mpr ⟨member, inside⟩)

theorem sum_quantum_le (nonneg : ∀ i ∈ able, 0 ≤ quantum i) (unit : ∑ i ∈ able, quantum i ≤ 1) (cups : Finset ι) :
    ∑ i ∈ cups ∩ able, quantum i ≤ 1 :=
  le_trans (Finset.sum_le_sum_of_subset_of_nonneg Finset.inter_subset_right fun i member _ => nonneg i member) unit

theorem filled_congr {before' : ι → ℚ} (same : ∀ i ∈ able, before' i = before i) (fillings : ℕ) :
    filled able quantum before' fillings = filled able quantum before fillings := by
  funext i
  unfold filled
  split
  · next member => rw [same i member]
  · rfl

namespace Round

theorem congr {before' : ι → ℚ} (round : Round able quantum before after chosen extra)
    (same : ∀ i ∈ able, before' i = before i) : Round able quantum before' after chosen extra where
  chosen_able := round.chosen_able
  full := by rw [filled_congr same]; exact round.full
  fullest := by rw [filled_congr same]; exact round.fullest
  short := by rw [filled_congr same]; exact round.short
  emptied := by rw [filled_congr same]; exact round.emptied

theorem sum_after (round : Round able quantum before after chosen extra) (cups : Finset ι) :
    ∑ i ∈ cups, after i =
      ∑ i ∈ cups, filled able quantum before (extra + 1) i - if chosen ∈ cups then 1 else 0 := by
  simp only [round.emptied, Finset.sum_sub_distrib, Finset.sum_ite_eq']

theorem after_of_notMem (round : Round able quantum before after chosen extra) {i : ι} (outside : i ∉ able) :
    after i = 0 := by
  have other : i ≠ chosen := fun same => outside (same ▸ round.chosen_able)
  rw [round.emptied, filled_of_notMem _ outside, if_neg other, sub_zero]

theorem after_nonneg (round : Round able quantum before after chosen extra) (nonneg : ∀ i ∈ able, 0 ≤ quantum i)
    (cups : ∀ i ∈ able, 0 ≤ before i) (i : ι) : 0 ≤ after i := by
  rw [round.emptied]
  by_cases here : i = chosen
  · subst here
    rw [if_pos rfl]
    linarith [round.full]
  · rw [if_neg here, sub_zero]
    unfold filled
    split
    · next member => exact add_nonneg (cups i member) (mul_nonneg (Nat.cast_nonneg _) (nonneg i member))
    · exact le_refl 0

end Round

def bound (cups some_cups : ℕ) : ℚ := some_cups * (1 + harmonic cups - harmonic some_cups)

@[simp] theorem bound_zero (cups : ℕ) : bound cups 0 = 0 := by simp [bound]

@[simp] theorem bound_one (cups : ℕ) : bound cups 1 = harmonic cups := by simp [bound, harmonic]

@[simp] theorem bound_self (cups : ℕ) : bound cups cups = cups := by simp [bound]

theorem bound_succ (cups some_cups : ℕ) :
    bound cups (some_cups + 1) = bound cups some_cups + (harmonic cups - harmonic some_cups) := by
  unfold bound
  rw [harmonic_succ]
  have pos : ((some_cups : ℚ) + 1) ≠ 0 := by positivity
  push_cast
  field_simp
  ring

theorem bound_mono {cups few many : ℕ} (fewer : few ≤ many) (there : many ≤ cups) :
    bound cups few ≤ bound cups many := by
  induction many, fewer using Nat.le_induction with
  | base => exact le_refl _
  | succ many _ ih =>
    rw [bound_succ]
    have below : harmonic many ≤ harmonic cups := harmonic_mono (Nat.le_of_succ_le there)
    linarith [ih (Nat.le_of_succ_le there)]

theorem bound_cups {few many : ℕ} (fewer : few ≤ many) (some_cups : ℕ) :
    bound few some_cups ≤ bound many some_cups := by
  have more : harmonic few ≤ harmonic many := harmonic_mono fewer
  exact mul_le_mul_of_nonneg_left (by linarith) (Nat.cast_nonneg _)

theorem card_le_bound {cups some_cups : ℕ} (there : some_cups ≤ cups) : (some_cups : ℚ) ≤ bound cups some_cups := by
  have below : harmonic some_cups ≤ harmonic cups := harmonic_mono there
  exact le_mul_of_one_le_right (Nat.cast_nonneg _) (by linarith)

def Bounded (number : ℕ) (cups : Finset ι) (level : ι → ℚ) : Prop :=
  ∀ part ⊆ cups, ∑ i ∈ part, level i ≤ bound number part.card

omit [DecidableEq ι] in
theorem Bounded.single {number : ℕ} {cups : Finset ι} {level : ι → ℚ} (bounded : Bounded number cups level)
    {i : ι} (member : i ∈ cups) : level i ≤ harmonic number := by
  have single := bounded {i} (Finset.singleton_subset_iff.mpr member)
  rwa [Finset.sum_singleton, Finset.card_singleton, bound_one] at single

theorem Bounded.grow {number more : ℕ} {cups others : Finset ι} {level level' : ι → ℚ}
    (bounded : Bounded number cups level)
    (grows : number ≤ more) (same : ∀ i ∈ others, i ∈ cups → level' i = level i)
    (fresh : ∀ i ∈ others, i ∉ cups → level' i = 0) (known : others.card ≤ more) : Bounded more others level' := by
  intro part inside
  have old : part ∩ cups ⊆ cups := Finset.inter_subset_right
  calc ∑ i ∈ part, level' i = ∑ i ∈ part ∩ cups, level' i := by
        symm
        apply Finset.sum_subset Finset.inter_subset_left
        intro i member outside
        exact fresh i (inside member) fun there => outside (Finset.mem_inter.mpr ⟨member, there⟩)
    _ = ∑ i ∈ part ∩ cups, level i := by
        apply Finset.sum_congr rfl
        intro i member
        obtain ⟨here, there⟩ := Finset.mem_inter.mp member
        exact same i (inside here) there
    _ ≤ bound number (part ∩ cups).card := bounded _ old
    _ ≤ bound more (part ∩ cups).card := bound_cups grows _
    _ ≤ bound more part.card := bound_mono (Finset.card_le_card Finset.inter_subset_left)
        (le_trans (Finset.card_le_card inside) known)

section Step

variable {number : ℕ} {cups : Finset ι}

theorem Round.filled_le (round : Round able quantum before after chosen extra) (nonneg : ∀ i ∈ able, 0 ≤ quantum i)
    (unit : ∑ i ∈ able, quantum i ≤ 1) (number_le : cups.card ≤ number) (bounded : Bounded number cups before)
    {part : Finset ι} (inside : part ⊆ cups) :
    ∑ i ∈ part, filled able quantum before (extra + 1) i ≤ bound number part.card + 1 := by
  have few : (part ∩ able).card ≤ part.card := Finset.card_le_card Finset.inter_subset_left
  have most : part.card ≤ number := le_trans (Finset.card_le_card inside) number_le
  have quanta : ∑ i ∈ part ∩ able, quantum i ≤ 1 := sum_quantum_le nonneg unit part
  rw [sum_filled_inter]
  have split : ∑ i ∈ part ∩ able, filled able quantum before (extra + 1) i =
      ∑ i ∈ part ∩ able, filled able quantum before extra i + ∑ i ∈ part ∩ able, quantum i := by
    rw [← Finset.sum_add_distrib]
    exact Finset.sum_congr rfl fun i member => filled_succ extra (Finset.mem_inter.mp member).2
  rw [split]
  rcases extra.eq_zero_or_pos with zero | pos
  · -- one filling, on top of what was there before
    subst zero
    have start : ∑ i ∈ part ∩ able, filled able quantum before 0 i = ∑ i ∈ part ∩ able, before i := by
      apply Finset.sum_congr rfl
      intro i member
      rw [filled, if_pos (Finset.mem_inter.mp member).2, Nat.cast_zero, zero_mul, add_zero]
    have old := bounded (part ∩ able) (Finset.inter_subset_left.trans inside)
    rw [start]
    linarith [bound_mono few most]
  · -- no cup was full before the last filling
    have below : ∑ i ∈ part ∩ able, filled able quantum before extra i ≤ (part ∩ able).card := by
      have each := Finset.sum_le_card_nsmul (part ∩ able) (filled able quantum before extra) 1 fun i member =>
        (round.short pos i (Finset.mem_inter.mp member).2).le
      rwa [nsmul_one] at each
    have size : ((part ∩ able).card : ℚ) ≤ part.card := by exact_mod_cast few
    linarith [card_le_bound most]

theorem Round.average (round : Round able quantum before after chosen extra) (part : Finset ι)
    (nonneg : 0 ≤ filled able quantum before (extra + 1) chosen) :
    ∑ i ∈ part, filled able quantum before (extra + 1) i ≤ part.card * filled able quantum before
    (extra + 1) chosen := by
  have each : ∀ i ∈ part, filled able quantum before (extra + 1) i ≤ filled able quantum before (extra + 1) chosen := by
    intro i _
    by_cases member : i ∈ able
    · exact round.fullest i member
    · rw [filled_of_notMem _ member]; exact nonneg
  have sum := Finset.sum_le_card_nsmul part _ _ each
  rwa [nsmul_eq_mul] at sum

theorem Round.bounded (round : Round able quantum before after chosen extra) (nonneg : ∀ i ∈ able, 0 ≤ quantum i)
    (unit : ∑ i ∈ able, quantum i ≤ 1) (able_cups : able ⊆ cups) (number_le : cups.card ≤ number)
    (bounded : Bounded number cups before) : Bounded number cups after := by
  intro part inside
  rw [round.sum_after]
  by_cases emptied : chosen ∈ part
  · rw [if_pos emptied]
    linarith [round.filled_le nonneg unit number_le bounded inside]
  · rw [if_neg emptied, sub_zero]
    -- with the emptied cup, which is a fullest one, the set is within its bound and one unit
    have larger : insert chosen part ⊆ cups := Finset.insert_subset (able_cups round.chosen_able) inside
    have whole := round.filled_le nonneg unit number_le bounded larger
    rw [Finset.sum_insert emptied, Finset.card_insert_of_notMem emptied, bound_succ] at whole
    have average := round.average part (le_trans zero_le_one round.full)
    have size : (0 : ℚ) ≤ part.card := Nat.cast_nonneg _
    have share : (part.card + 1) * ∑ i ∈ part, filled able quantum before (extra + 1) i ≤
        (part.card + 1) * bound number part.card :=
      calc (part.card + 1) * ∑ i ∈ part, filled able quantum before (extra + 1) i
          ≤ part.card * (filled able quantum before (extra + 1) chosen +
              ∑ i ∈ part, filled able quantum before (extra + 1) i) := by linarith
        _ ≤ part.card * (bound number part.card + (harmonic number - harmonic part.card) + 1) :=
          mul_le_mul_of_nonneg_left whole size
        _ = (part.card + 1) * bound number part.card := by unfold bound; ring
    exact le_of_mul_le_mul_left share (by linarith)

end Step

/-! Rounds in which the same cups take part with the same quanta. -/

/-- Rounds of one game, with the cups they empty and the extra fillings they take. -/
inductive Game (able : Finset ι) (quantum first : ι → ℚ) : List ι → ℕ → (ι → ℚ) → Prop
  | start : Game able quantum first [] 0 first
  | next {before after : ι → ℚ} {emptied : List ι} {fillings extra : ℕ} {chosen : ι} :
      Game able quantum first emptied fillings before → Round able quantum before after chosen extra →
      Game able quantum first (emptied ++ [chosen]) (fillings + extra) after

namespace Game

variable {first last : ι → ℚ} {emptied : List ι} {fillings : ℕ}

/-- Each cup got its quantum with every filling, and gave a unit each time it was emptied. -/
theorem level_eq (game : Game able quantum first emptied fillings last) {i : ι} (member : i ∈ able) :
    last i = first i + (emptied.length + fillings) * quantum i - emptied.count i := by
  induction game with
  | start => simp
  | @next before after emptied fillings extra chosen game round ih =>
    rw [round.emptied, filled, if_pos member, ih, List.count_append, List.count_singleton, List.length_append,
      List.length_singleton]
    by_cases here : i = chosen
    · subst here; simp; ring
    · simp [here, Ne.symm here]; ring

theorem nonneg (game : Game able quantum first emptied fillings last) (quanta : ∀ i ∈ able, 0 ≤ quantum i)
    (start : ∀ i ∈ able, 0 ≤ first i) {i : ι} (member : i ∈ able) : 0 ≤ last i := by
  induction game generalizing i with
  | start => exact start i member
  | next game round ih => exact round.after_nonneg quanta (fun j there => ih there) i

theorem count_sum (game : Game able quantum first emptied fillings last) :
    ∑ i ∈ able, emptied.count i = emptied.length := by
  induction game with
  | start => simp
  | @next before after emptied fillings extra chosen game round ih =>
    simp only [List.count_append, List.count_singleton, Finset.sum_add_distrib, ih, List.length_append,
      List.length_singleton, beq_iff_eq, Finset.sum_ite_eq, round.chosen_able, if_true]

theorem sum_le (game : Game able quantum first emptied fillings last) (unit : ∑ i ∈ able, quantum i = 1) :
    ∑ i ∈ able, last i ≤ max (∑ i ∈ able, first i) able.card := by
  induction game with
  | start => exact le_max_left _ _
  | @next before after emptied fillings extra chosen game round ih =>
    have split : ∑ i ∈ able, filled able quantum before (extra + 1) i =
        ∑ i ∈ able, filled able quantum before extra i + 1 := by
      rw [← unit, ← Finset.sum_add_distrib]
      exact Finset.sum_congr rfl fun i member => filled_succ extra member
    rw [round.sum_after, if_pos round.chosen_able, split, add_sub_cancel_right]
    rcases extra.eq_zero_or_pos with zero | pos
    · subst zero
      have same : ∑ i ∈ able, filled able quantum before 0 i = ∑ i ∈ able, before i := by
        apply Finset.sum_congr rfl
        intro i member
        rw [filled, if_pos member, Nat.cast_zero, zero_mul, add_zero]
      rw [same]
      exact ih
    · apply le_max_of_le_right
      have each := Finset.sum_le_card_nsmul able (filled able quantum before extra) 1 fun i member =>
        (round.short pos i member).le
      rwa [nsmul_one] at each

/-- How often a cup is emptied is its share, up to what the cups held at first
and one unit a cup. -/
theorem share (game : Game able quantum first emptied fillings last) (quanta : ∀ i ∈ able, 0 ≤ quantum i)
    (unit : ∑ i ∈ able, quantum i = 1) (start : ∀ i ∈ able, 0 ≤ first i) {i : ι} (member : i ∈ able) :
    |(emptied.count i : ℚ) - emptied.length * quantum i| ≤ able.card + ∑ j ∈ able, first j := by
  have level := game.level_eq member
  have after : ∀ j ∈ able, 0 ≤ last j := fun j there => game.nonneg quanta start there
  have here : last i ≤ ∑ j ∈ able, last j := Finset.single_le_sum after member
  have there : first i ≤ ∑ j ∈ able, first j := Finset.single_le_sum start member
  have most : max (∑ i ∈ able, first i) (able.card : ℚ) ≤ able.card + ∑ j ∈ able, first j := by
    apply max_le
    · exact le_add_of_nonneg_left (Nat.cast_nonneg _)
    · exact le_add_of_nonneg_right (Finset.sum_nonneg start)
  -- all extra fillings together are one unit a cup at most
  have total : ∑ j ∈ able, last j = ∑ j ∈ able, first j + fillings := by
    have count : ∑ j ∈ able, (emptied.count j : ℚ) = emptied.length := by
      exact_mod_cast game.count_sum
    have sum := Finset.sum_congr rfl fun j there => game.level_eq (i := j) there
    rw [Finset.sum_sub_distrib, Finset.sum_add_distrib, ← Finset.mul_sum, unit, count] at sum
    rw [sum]
    ring
  have sum := game.sum_le unit
  have extra : (fillings : ℚ) ≤ able.card := by
    have least : (∑ i ∈ able, first i) + fillings ≤ max (∑ i ∈ able, first i) (able.card : ℚ) := total ▸ sum
    rcases max_cases (∑ i ∈ able, first i) (able.card : ℚ) with ⟨same, _⟩ | ⟨same, _⟩
    · have zero : (0 : ℚ) ≤ able.card := Nat.cast_nonneg _
      linarith
    · linarith [Finset.sum_nonneg start]
  have one : quantum i ≤ 1 := unit ▸ Finset.single_le_sum quanta member
  have few : (fillings : ℚ) * quantum i ≤ able.card :=
    le_trans (mul_le_of_le_one_right (Nat.cast_nonneg _) one) extra
  have some_quantum : 0 ≤ (fillings : ℚ) * quantum i := mul_nonneg (Nat.cast_nonneg _) (quanta i member)
  rw [abs_le]
  constructor
  · linarith [start i member]
  · linarith [after i member]

end Game

end Lib.CupGame
