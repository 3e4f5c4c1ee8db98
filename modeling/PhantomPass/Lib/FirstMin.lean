import Mathlib

/-! The first place of a list at which it is least, and the scan that finds it:
from one key on, only a smaller one is taken. -/

set_option autoImplicit false

namespace Lib

universe u

variable {β : Type u} [LinearOrder β]

/-- The list is least at this place, and not at any before. -/
structure FirstMin (keys : List β) (i : ℕ) (least : β) : Prop where
  at_ : keys[i]? = some least
  le : ∀ x ∈ keys, least ≤ x
  before : ∀ j < i, ∀ x, keys[j]? = some x → least < x

namespace FirstMin

variable {keys : List β} {i j : ℕ} {a x least : β}

theorem unique {other : β} (first : FirstMin keys i least) (second : FirstMin keys j other) : i = j := by
  have same : least = other := le_antisymm (first.le other (List.mem_of_getElem? second.at_))
    (second.le least (List.mem_of_getElem? first.at_))
  subst same
  rcases Nat.lt_trichotomy i j with earlier | here | later
  · exact absurd (second.before i earlier least first.at_) (lt_irrefl _)
  · exact here
  · exact absurd (first.before j later least second.at_) (lt_irrefl _)

theorem append (first : FirstMin keys i least) (x : β) :
    if x < least then FirstMin (keys ++ [x]) keys.length x else FirstMin (keys ++ [x]) i least := by
  have inside : i < keys.length := by
    by_contra outside
    have nothing := first.at_
    rw [List.getElem?_eq_none (Nat.le_of_not_lt outside)] at nothing
    cases nothing
  split
  · next less =>
    refine ⟨by simp, fun y member => ?_, fun j lt y at_ => ?_⟩
    · rcases List.mem_append.mp member with old | new
      · exact less.le.trans (first.le y old)
      · exact (List.mem_singleton.mp new).ge
    · rw [List.getElem?_append_left lt] at at_
      exact less.trans_le (first.le y (List.mem_of_getElem? at_))
  · next more =>
    refine ⟨by rw [List.getElem?_append_left inside, first.at_], fun y member => ?_, fun j lt y at_ => ?_⟩
    · rcases List.mem_append.mp member with old | new
      · exact first.le y old
      · rw [List.mem_singleton.mp new]
        exact not_lt.mp more
    · rw [List.getElem?_append_left (Nat.lt_trans lt inside)] at at_
      exact first.before j lt y at_

theorem cons_zero : FirstMin (a :: keys) 0 a ↔ ∀ x ∈ keys, a ≤ x := by
  refine ⟨fun first x member => first.le x (List.mem_cons_of_mem a member), fun le => ⟨rfl, ?_, ?_⟩⟩
  · exact List.forall_mem_cons.mpr ⟨le_rfl, le⟩
  · exact fun j lt => absurd lt (Nat.not_lt_zero j)

theorem cons_succ : FirstMin (a :: keys) (i + 1) least ↔ FirstMin keys i least ∧ least < a := by
  constructor
  · intro first
    refine ⟨⟨first.at_, fun x member => first.le x (List.mem_cons_of_mem a member), fun j lt x at_ => ?_⟩, ?_⟩
    · exact first.before (j + 1) (Nat.succ_lt_succ lt) x at_
    · exact first.before 0 (Nat.succ_pos i) a rfl
  · rintro ⟨first, less⟩
    refine ⟨first.at_, List.forall_mem_cons.mpr ⟨less.le, first.le⟩, fun j lt x at_ => ?_⟩
    cases j with
    | zero =>
      cases at_
      exact less
    | succ j => exact first.before j (Nat.lt_of_succ_lt_succ lt) x at_

end FirstMin

/-- The scan: the place and the key that are best so far, the next place, the keys from there on. -/
def scanMin (best : ℕ × β) : ℕ → List β → ℕ × β
  | _, [] => best
  | cnt, x :: keys => scanMin (if x < best.2 then (cnt, x) else best) (cnt + 1) keys

theorem scanMin_spec (seen keys : List β) (best : ℕ × β) (first : FirstMin seen best.1 best.2) :
    FirstMin (seen ++ keys) (scanMin best seen.length keys).1 (scanMin best seen.length keys).2 := by
  induction keys generalizing seen best with
  | nil =>
    rw [List.append_nil]
    exact first
  | cons x keys ih =>
    have longer : (seen ++ [x]).length = seen.length + 1 := by simp
    have more : FirstMin (seen ++ [x]) (if x < best.2 then (seen.length, x) else best).1
        (if x < best.2 then (seen.length, x) else best).2 := by
      have last := first.append x
      split at last
      · next less => simpa [less] using last
      · next more => simpa [more] using last
    have rest := ih (seen ++ [x]) _ more
    rw [longer, List.append_assoc, List.singleton_append] at rest
    exact rest

theorem scanMin_cons (a : β) (keys : List β) :
    FirstMin (a :: keys) (scanMin (0, a) 1 keys).1 (scanMin (0, a) 1 keys).2 :=
  scanMin_spec [a] keys (0, a) (FirstMin.cons_zero.mpr fun _ none => absurd none List.not_mem_nil)

/-- Judged by another first key, the place found is right exactly if both keys
compare alike with the others. -/
theorem scanMin_iff (a b : β) (keys : List β) : (∃ least, FirstMin (b :: keys) (scanMin (0, a) 1 keys).1 least) ↔
    ((∀ x ∈ keys, b ≤ x) ↔ ∀ x ∈ keys, a ≤ x) := by
  have found := scanMin_cons a keys
  generalize (scanMin (0, a) 1 keys).2 = least at found
  cases place : (scanMin (0, a) 1 keys).1 with
  | zero =>
    rw [place] at found
    have same : a = least := Option.some.inj found.at_
    have all : ∀ x ∈ keys, a ≤ x := FirstMin.cons_zero.mp (same ▸ found)
    rw [iff_true_right all]
    constructor
    · rintro ⟨other, first⟩
      have here : b = other := Option.some.inj first.at_
      exact FirstMin.cons_zero.mp (here ▸ first)
    · exact fun le => ⟨b, FirstMin.cons_zero.mpr le⟩
  | succ k =>
    rw [place] at found
    obtain ⟨first, less⟩ := FirstMin.cons_succ.mp found
    have member : least ∈ keys := List.mem_of_getElem? first.at_
    have some_less : ¬ ∀ x ∈ keys, a ≤ x := fun all => absurd (all least member) (not_le.mpr less)
    rw [iff_false_right some_less]
    constructor
    · rintro ⟨other, second⟩ all
      obtain ⟨later, below⟩ := FirstMin.cons_succ.mp second
      exact absurd (all other (List.mem_of_getElem? later.at_)) (not_le.mpr below)
    · intro below
      refine ⟨least, FirstMin.cons_succ.mpr ⟨first, ?_⟩⟩
      by_contra le
      exact below fun x inside => (not_lt.mp le).trans (first.le x inside)

end Lib
