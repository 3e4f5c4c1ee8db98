import Mathlib

/-! Lists in the order of their keys, as a tree or a heap would keep them: where an
item goes in, and how it is found again. -/

set_option autoImplicit false

namespace Lib

universe u v

variable {α : Type u} {K : Type v} [LinearOrder K]

def place (key : α → K) (a : α) : List α → List α
  | [] => [a]
  | b :: rest => if key a < key b then a :: b :: rest else b :: place key a rest

def Ordered (key : α → K) (l : List α) : Prop := l.Pairwise fun a b => key a < key b

variable {key : α → K} {a : α} {l : List α}

theorem place_perm (key : α → K) (a : α) (l : List α) : (place key a l).Perm (a :: l) := by
  induction l with
  | nil => exact .refl _
  | cons b rest ih =>
    unfold place
    split
    · exact .refl _
    · exact (ih.cons b).trans (.swap a b rest)

@[simp] theorem mem_place {b : α} : b ∈ place key a l ↔ b = a ∨ b ∈ l :=
  (place_perm key a l).mem_iff.trans List.mem_cons

@[simp] theorem length_place : (place key a l).length = l.length + 1 := (place_perm key a l).length_eq

theorem Ordered.eq_of_key {b : α} (ordered : Ordered key l) (left : a ∈ l) (right : b ∈ l)
    (same : key a = key b) : a = b := by
  induction l with
  | nil => cases left
  | cons c rest ih =>
    obtain ⟨least, ordered⟩ := List.pairwise_cons.mp ordered
    rcases List.mem_cons.mp left with rfl | later
    · rcases List.mem_cons.mp right with rfl | right
      · rfl
      · have less := least b right
        rw [same] at less
        exact absurd less (lt_irrefl _)
    · rcases List.mem_cons.mp right with rfl | right
      · have less := least a later
        rw [same] at less
        exact absurd less (lt_irrefl _)
      · exact ih ordered later right

theorem Ordered.find {test : α → Bool} (ordered : Ordered key l) (inside : a ∈ l)
    (means : ∀ b, test b = true ↔ key b = key a) :
    l.find? test = some a := by
  cases found : l.find? test with
  | none => exact absurd ((means a).mpr rfl) (List.find?_eq_none.mp found a inside)
  | some b => rw [ordered.eq_of_key (List.mem_of_find?_eq_some found) inside ((means b).mp (List.find?_some found))]

theorem Ordered.eraseP_perm {test : α → Bool} (ordered : Ordered key l) (inside : a ∈ l)
    (means : ∀ b, test b = true ↔ key b = key a) : (a :: l.eraseP test).Perm l := by
  obtain ⟨b, before, behind, first, found, rfl, erased⟩ := List.exists_of_eraseP inside ((means a).mpr rfl)
  rw [erased, ordered.eq_of_key inside (by simp) ((means b).mp found).symm]
  exact List.perm_middle.symm

theorem Ordered.sublist {m : List α} (ordered : Ordered key l) (sublist : m.Sublist l) : Ordered key m :=
  List.Pairwise.sublist sublist ordered

end Lib
