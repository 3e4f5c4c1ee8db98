import Mathlib

/-! Bounds of harmonic numbers by whole numbers: a scale is divided by each
number of a block and the parts are added, which the kernel can do. -/

set_option autoImplicit false

namespace Lib

theorem harmonic_mono : Monotone harmonic := by
  apply monotone_nat_of_le_succ
  intro n
  rw [harmonic_succ]
  exact le_add_of_nonneg_right (inv_nonneg.mpr (Nat.cast_nonneg _))

/-- The parts of a scale that the reciprocals behind a number take, rounded down. -/
def unitParts (scale : ℕ) : ℕ → ℕ → ℕ
  | 0, start => scale / (start + 1)
  | depth + 1, start => unitParts scale depth start + unitParts scale depth (start + 2 ^ depth)

theorem unitParts_bounds {scale : ℕ} (pos : 0 < scale) (depth start : ℕ) :
    (unitParts scale depth start : ℚ) / scale ≤ harmonic (start + 2 ^ depth) - harmonic start ∧
      harmonic (start + 2 ^ depth) - harmonic start ≤ (unitParts scale depth start + 2 ^ depth : ℕ) / scale := by
  have scale_pos : (0 : ℚ) < scale := Nat.cast_pos.mpr pos
  induction depth generalizing start with
  | zero =>
    have succ_pos : (0 : ℚ) < (start + 1 : ℕ) := Nat.cast_pos.mpr start.succ_pos
    rw [pow_zero, harmonic_succ, add_sub_cancel_left, unitParts, div_le_iff₀ scale_pos, le_div_iff₀ scale_pos,
      inv_mul_eq_div, div_le_iff₀ succ_pos, le_div_iff₀ succ_pos]
    constructor
    · exact_mod_cast Nat.div_mul_le_self scale (start + 1)
    · have above := Nat.lt_mul_div_succ scale start.succ_pos
      rw [mul_comm] at above
      exact_mod_cast above.le
  | succ depth ih =>
    obtain ⟨low, high⟩ := ih start
    obtain ⟨low', high'⟩ := ih (start + 2 ^ depth)
    rw [unitParts, pow_succ, mul_two, ← add_assoc start]
    push_cast [add_div] at *
    constructor <;> linarith

def blockParts (scale : ℕ) : List ℕ → ℕ → ℕ
  | [], _ => 0
  | depth :: rest, start => unitParts scale depth start + blockParts scale rest (start + 2 ^ depth)

def blockEnd : List ℕ → ℕ → ℕ
  | [], start => start
  | depth :: rest, start => blockEnd rest (start + 2 ^ depth)

theorem blockParts_bounds {scale : ℕ} (pos : 0 < scale) (depths : List ℕ) (start : ℕ) :
    (blockParts scale depths start : ℚ) / scale ≤ harmonic (blockEnd depths start) - harmonic start ∧
      harmonic (blockEnd depths start) - harmonic start ≤
      (blockParts scale depths start + blockEnd depths start - start : ℚ) / scale := by
  induction depths generalizing start with
  | nil => simp [blockParts, blockEnd]
  | cons depth rest ih =>
    obtain ⟨low, high⟩ := unitParts_bounds pos depth start
    obtain ⟨low', high'⟩ := ih (start + 2 ^ depth)
    rw [blockParts, blockEnd]
    push_cast [add_div, sub_div] at *
    constructor <;> linarith

end Lib
