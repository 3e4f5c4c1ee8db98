import Mathlib
import PhantomPass.Config

/-! Conversions of doubles to integers drop the fraction: they round towards
zero, so they keep order and whole numbers. -/

set_option autoImplicit false

namespace PhantomPass

theorem truncInt_of_nonneg {q : ℚ} (nonneg : 0 ≤ q) : truncInt q = ⌊q⌋ := by
  unfold truncInt
  rw [Int.tdiv_eq_ediv_of_nonneg (Rat.num_nonneg.mpr nonneg), Rat.floor_def']

theorem truncInt_neg (q : ℚ) : truncInt (-q) = -truncInt q := by
  unfold truncInt
  rw [Rat.neg_num, Rat.neg_den, Int.neg_tdiv]

theorem truncInt_of_nonpos {q : ℚ} (nonpos : q ≤ 0) : truncInt q = ⌈q⌉ := by
  have nonneg : 0 ≤ -q := by linarith
  have floor := truncInt_of_nonneg nonneg
  rw [truncInt_neg, Int.floor_neg] at floor
  exact neg_injective floor

@[simp] theorem truncInt_intCast (z : ℤ) : truncInt z = z := by
  simp [truncInt]

theorem truncInt_nonneg {q : ℚ} (nonneg : 0 ≤ q) : 0 ≤ truncInt q := by
  rw [truncInt_of_nonneg nonneg]
  exact Int.floor_nonneg.mpr nonneg

theorem truncInt_le {q : ℚ} (nonneg : 0 ≤ q) : (truncInt q : ℚ) ≤ q := by
  rw [truncInt_of_nonneg nonneg]
  exact Int.floor_le q

theorem truncInt_nonpos {q : ℚ} (nonpos : q ≤ 0) : truncInt q ≤ 0 := by
  rw [truncInt_of_nonpos nonpos]
  exact Int.ceil_le.mpr (by exact_mod_cast nonpos)

theorem truncInt_mono {q r : ℚ} (le : q ≤ r) : truncInt q ≤ truncInt r := by
  rcases le_total 0 q with nonneg | nonpos
  · rw [truncInt_of_nonneg nonneg, truncInt_of_nonneg (nonneg.trans le)]
    exact Int.floor_le_floor le
  · rcases le_total 0 r with nonneg | negative
    · exact (truncInt_nonpos nonpos).trans (truncInt_nonneg nonneg)
    · rw [truncInt_of_nonpos nonpos, truncInt_of_nonpos negative]
      exact Int.ceil_le_ceil le

/-- A positive whole number is below a number exactly when it is below what is truncated. -/
theorem le_truncInt_iff {k : ℤ} (pos : 0 < k) (q : ℚ) : k ≤ truncInt q ↔ (k : ℚ) ≤ q := by
  rcases le_total 0 q with nonneg | nonpos
  · rw [truncInt_of_nonneg nonneg, Int.le_floor]
  · have wide : (0 : ℚ) < k := by exact_mod_cast pos
    exact iff_of_false (not_le.mpr ((truncInt_nonpos nonpos).trans_lt pos)) (not_le.mpr (nonpos.trans_lt wide))

theorem truncInt_add_le_iff (w : ℤ) (change : ℚ) :
    truncInt (w + change) ≤ w ↔ if 0 ≤ w then change < 1 else change ≤ 0 := by
  split
  · next nonneg =>
    have wide : (0 : ℚ) ≤ w := by exact_mod_cast nonneg
    rcases le_total 0 ((w : ℚ) + change) with up | down
    · rw [truncInt_of_nonneg up, ← Int.lt_add_one_iff, Int.floor_lt]
      push_cast
      constructor <;> intro h <;> linarith
    · refine iff_of_true ((truncInt_nonpos down).trans nonneg) ?_
      linarith
  · next negative =>
    have wide : (w : ℚ) < 0 := by exact_mod_cast not_le.mp negative
    rcases le_total 0 ((w : ℚ) + change) with up | down
    · refine iff_of_false ?_ ?_
      · exact not_le.mpr ((not_le.mp negative).trans_le (truncInt_nonneg up))
      · linarith
    · rw [truncInt_of_nonpos down, Int.ceil_le]
      constructor <;> intro h <;> linarith

end PhantomPass
