import Mathlib

/-! The Internet checksum: the ones' complement sum of the 16-bit words of
some bytes, and how it moves when bytes are replaced. -/

set_option autoImplicit false

namespace Lib

abbrev Byte := BitVec 8

namespace OnesSum

/-- The plain sum of the 16-bit words, a last odd byte padded with zeros. -/
def words : List Byte → ℕ
  | [] => 0
  | [a] => 256 * a.toNat
  | a :: b :: bytes => 256 * a.toNat + b.toNat + words bytes

def carry : ℕ → ℕ → ℕ
  | 0, n => n
  | fuel + 1, n => if n < 65536 then n else carry fuel (n % 65536 + n / 65536)

/-- The ones' complement sum; putting a carry back in makes the sum smaller. -/
def fold (n : ℕ) : ℕ := carry n n

/-- What a checksum field gets when the rest of the words has this sum. -/
def complement (n : ℕ) : ℕ := 65535 - fold n

theorem carry_spec (fuel n : ℕ) (enough : n ≤ fuel) :
    carry fuel n % 65535 = n % 65535 ∧ carry fuel n ≤ 65535 ∧ (carry fuel n = 0 ↔ n = 0) := by
  induction fuel generalizing n with
  | zero =>
    obtain rfl : n = 0 := by omega
    simp [carry]
  | succ fuel ih =>
    unfold carry
    split
    · omega
    · obtain ⟨rest, bound, zero⟩ := ih (n % 65536 + n / 65536) (by omega)
      refine ⟨?_, bound, ?_⟩
      · rw [rest]; omega
      · rw [zero]; omega

theorem fold_spec (n : ℕ) : fold n % 65535 = n % 65535 ∧ fold n ≤ 65535 ∧ (fold n = 0 ↔ n = 0) :=
  carry_spec n n le_rfl

theorem fold_eq_ones_iff (n : ℕ) : fold n = 65535 ↔ n ≠ 0 ∧ n % 65535 = 0 := by
  obtain ⟨rest, bound, zero⟩ := fold_spec n
  omega

theorem fold_add_complement (n : ℕ) : fold (n + complement n) = 65535 := by
  obtain ⟨rest, bound, zero⟩ := fold_spec n
  rw [fold_eq_ones_iff]
  unfold complement
  omega

theorem complement_le (n : ℕ) : complement n ≤ 65535 := Nat.sub_le _ _

theorem words_append {front : List Byte} (even : 2 ∣ front.length) (back : List Byte) :
    words (front ++ back) = words front + words back := by
  induction front using words.induct with
  | case1 => simp [words]
  | case2 a => simp at even
  | case3 a b bytes ih =>
    have rest : 2 ∣ bytes.length := by simp only [List.length_cons] at even; omega
    simp only [List.cons_append, words, ih rest]
    omega

def weight (i : ℕ) : ℤ := if i % 2 = 0 then 256 else 1

theorem words_set (bytes : List Byte) (i : ℕ) (b : Byte) (within : i < bytes.length) :
    (words (bytes.set i b) : ℤ) = words bytes + weight i * ((b.toNat : ℤ) - (bytes[i]).toNat) := by
  induction bytes using words.induct generalizing i with
  | case1 => simp at within
  | case2 a =>
    obtain rfl : i = 0 := by simpa using within
    simp only [List.set_cons_zero, words, weight, List.getElem_cons_zero, Nat.zero_mod, if_true]
    push_cast
    ring
  | case3 a c bytes ih =>
    match i with
    | 0 =>
      simp only [List.set_cons_zero, words, weight, List.getElem_cons_zero, Nat.zero_mod, if_true]
      push_cast
      ring
    | 1 =>
      simp only [List.set_cons_succ, List.set_cons_zero, words, weight, List.getElem_cons_succ,
        List.getElem_cons_zero]
      push_cast
      simp
      ring
    | i + 2 =>
      have within' : i < bytes.length := by simpa using within
      have parity : weight (i + 2) = weight i := by simp [weight]
      simp only [List.set_cons_succ, words, parity, List.getElem_cons_succ]
      push_cast
      rw [ih i within']
      ring

def part (bytes : List Byte) (start length : ℕ) : List Byte := (bytes.drop start).take length

theorem words_part_set (bytes : List Byte) (i : ℕ) (b : Byte) (within : i < bytes.length) (start length : ℕ)
    (even : 2 ∣ start) : (words (part (bytes.set i b) start length) : ℤ) = words (part bytes start length) +
      if start ≤ i ∧ i < start + length then weight i * ((b.toNat : ℤ) - (bytes[i]).toNat) else 0 := by
  unfold part
  by_cases inside : start ≤ i ∧ i < start + length
  · have here : i - start < ((bytes.drop start).take length).length := by
      simp only [List.length_take, List.length_drop]
      omega
    have place : weight (i - start) = weight i := by
      have parity : (i - start) % 2 = i % 2 := by omega
      unfold weight
      rw [parity]
    rw [if_pos inside, List.drop_set, if_neg (by omega), List.take_set, words_set _ _ _ here, place]
    simp only [List.getElem_take, List.getElem_drop, Nat.add_sub_cancel' inside.1]
  · rw [if_neg inside, add_zero, List.drop_set]
    split
    · rfl
    · rw [List.take_set, List.set_eq_of_length_le]
      simp only [List.length_take, List.length_drop]
      omega

theorem part_add (bytes : List Byte) (start first second : ℕ) :
    part bytes start (first + second) = part bytes start first ++ part bytes (start + first) second := by
  simp only [part, List.take_add, List.drop_drop]

theorem part_length (bytes : List Byte) {start length : ℕ} (within : start + length ≤ bytes.length) :
    (part bytes start length).length = length := by
  simp only [part, List.length_take, List.length_drop]
  omega

end OnesSum

end Lib
