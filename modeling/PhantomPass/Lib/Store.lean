import Mathlib

/-! A table of values under distinct keys, in the order of their insertion,
with totals over its entries. -/

set_option autoImplicit false

namespace Lib

universe u v w

/-- The keys in the order of insertion; values outside of them are never looked up. -/
structure Store (K : Type u) (V : Type v) where
  keys : List K
  nodup : keys.Nodup
  get : K → V

namespace Store

variable {K : Type u} {V : Type v} {M : Type w}

def empty (default : V) : Store K V := ⟨[], List.nodup_nil, fun _ => default⟩

@[simp] theorem keys_empty (default : V) : (empty default : Store K V).keys = [] := rfl

def filter (keep : K → V → Bool) (s : Store K V) : Store K V :=
  ⟨s.keys.filter fun k => keep k (s.get k), s.nodup.filter _, s.get⟩

def map (change : V → V) (s : Store K V) : Store K V := ⟨s.keys, s.nodup, fun k => change (s.get k)⟩

section Lookup

variable [DecidableEq K]

def find (s : Store K V) (k : K) : Option V := if k ∈ s.keys then some (s.get k) else none

theorem find_eq_some {s : Store K V} {k : K} {v : V} : s.find k = some v ↔ k ∈ s.keys ∧ s.get k = v := by
  unfold find; split <;> simp_all

theorem find_eq_none {s : Store K V} {k : K} : s.find k = none ↔ k ∉ s.keys := by
  unfold find; split <;> simp_all

def modify (s : Store K V) (k : K) (change : V → V) : Store K V :=
  ⟨s.keys, s.nodup, Function.update s.get k (change (s.get k))⟩

/-- Adds an entry at the end, or replaces the one under the key. -/
def insert (s : Store K V) (k : K) (v : V) : Store K V :=
  if present : k ∈ s.keys then ⟨s.keys, s.nodup, Function.update s.get k v⟩
  else ⟨s.keys ++ [k], List.nodup_append.mpr ⟨s.nodup, List.nodup_singleton k,
    fun _ inside _ single same => present (List.mem_singleton.mp single ▸ same ▸ inside)⟩,
    Function.update s.get k v⟩

@[simp] theorem keys_modify (s : Store K V) (k : K) (change : V → V) : (s.modify k change).keys = s.keys := rfl

@[simp] theorem get_modify_self (s : Store K V) (k : K) (change : V → V) :
    (s.modify k change).get k = change (s.get k) := Function.update_self ..

theorem get_modify_of_ne (s : Store K V) {k other : K} (change : V → V) (ne : other ≠ k) :
    (s.modify k change).get other = s.get other := Function.update_of_ne ne ..

theorem get_modify (s : Store K V) (k other : K) (change : V → V) :
    (s.modify k change).get other = if other = k then change (s.get k) else s.get other := by
  unfold modify; simp only [Function.update_apply]

theorem modify_modify (s : Store K V) (k : K) (first second : V → V) :
    (s.modify k first).modify k second = s.modify k fun v => second (first v) := by
  unfold modify
  simp only [Function.update_self, Function.update_idem]

theorem modify_congr (s : Store K V) {k : K} {f g : V → V} (same : f (s.get k) = g (s.get k)) :
    s.modify k f = s.modify k g := by unfold modify; rw [same]

theorem get_insert (s : Store K V) (k other : K) (v : V) :
    (s.insert k v).get other = if other = k then v else s.get other := by
  unfold insert; split <;> simp only [Function.update_apply]

@[simp] theorem get_insert_self (s : Store K V) (k : K) (v : V) : (s.insert k v).get k = v := by
  simp [get_insert]

theorem get_insert_of_ne (s : Store K V) {k other : K} (v : V) (ne : other ≠ k) :
    (s.insert k v).get other = s.get other := by simp [get_insert, ne]

theorem keys_insert_of_mem (s : Store K V) {k : K} (v : V) (inside : k ∈ s.keys) :
    (s.insert k v).keys = s.keys := by simp [insert, inside]

theorem keys_insert_of_notMem (s : Store K V) {k : K} (v : V) (fresh : k ∉ s.keys) :
    (s.insert k v).keys = s.keys ++ [k] := by simp [insert, fresh]

@[simp] theorem mem_keys_insert (s : Store K V) (k other : K) (v : V) :
    other ∈ (s.insert k v).keys ↔ other ∈ s.keys ∨ other = k := by
  by_cases inside : k ∈ s.keys
  · rw [keys_insert_of_mem s v inside]
    exact ⟨Or.inl, fun h => h.elim id (fun same => same ▸ inside)⟩
  · rw [keys_insert_of_notMem s v inside]; simp

theorem modify_insert (s : Store K V) (k : K) (v : V) (change : V → V) :
    (s.insert k v).modify k change = s.insert k (change v) := by
  unfold modify insert
  by_cases inside : k ∈ s.keys
  · simp only [inside, dite_true, Function.update_self, Function.update_idem]
  · simp only [inside, dite_false, Function.update_self, Function.update_idem]

theorem insert_get_self (s : Store K V) {k : K} (inside : k ∈ s.keys) : s.insert k (s.get k) = s := by
  unfold insert
  simp only [inside, dite_true, Function.update_eq_self]

theorem find_insert_self (s : Store K V) (k : K) (v : V) : (s.insert k v).find k = some v :=
  find_eq_some.mpr ⟨(mem_keys_insert ..).mpr (Or.inr rfl), get_insert_self ..⟩

theorem find_insert_of_ne (s : Store K V) {k other : K} (v : V) (ne : other ≠ k) :
    (s.insert k v).find other = s.find other := by
  unfold find
  rw [get_insert_of_ne _ _ ne]
  by_cases inside : other ∈ s.keys
  · rw [if_pos inside, if_pos ((mem_keys_insert ..).mpr (Or.inl inside))]
  · rw [if_neg inside, if_neg fun h => inside (((mem_keys_insert ..).mp h).resolve_right ne)]

end Lookup

section Total

variable [DecidableEq K] [AddCommGroup M]

def total (s : Store K V) (f : K → V → M) : M := ∑ k ∈ s.keys.toFinset, f k (s.get k)

@[simp] theorem total_empty (default : V) (f : K → V → M) : (empty default : Store K V).total f = 0 := by
  simp [total]

theorem total_congr (s : Store K V) {f g : K → V → M} (same : ∀ k ∈ s.keys, f k (s.get k) = g k (s.get k)) :
    s.total f = s.total g :=
  Finset.sum_congr rfl fun k inside => same k (List.mem_toFinset.mp inside)

theorem total_insert (s : Store K V) {k : K} (v : V) (fresh : k ∉ s.keys) (f : K → V → M) :
    (s.insert k v).total f = s.total f + f k v := by
  have fresh' : k ∉ s.keys.toFinset := by simpa using fresh
  have keys : (s.insert k v).keys.toFinset = Insert.insert k s.keys.toFinset := by
    ext other; simp [or_comm]
  unfold total
  rw [keys, Finset.sum_insert fresh', get_insert_self, add_comm]
  congr 1
  refine Finset.sum_congr rfl fun other inside => ?_
  rw [get_insert_of_ne]
  rintro rfl; exact fresh' inside

theorem total_insert_or (s : Store K V) (k : K) (v : V) (f : K → V → M) :
    (s.insert k v).total f = s.total f + f k v - if k ∈ s.keys then f k (s.get k) else 0 := by
  by_cases inside : k ∈ s.keys
  · have inside' : k ∈ s.keys.toFinset := by simpa using inside
    unfold total
    rw [keys_insert_of_mem s v inside, if_pos inside, ← Finset.add_sum_erase _ _ inside',
      ← Finset.add_sum_erase (a := k) _ (fun k => f k (s.get k)) inside', get_insert_self]
    have rest : ∑ x ∈ s.keys.toFinset.erase k, f x ((s.insert k v).get x) =
        ∑ x ∈ s.keys.toFinset.erase k, f x (s.get x) :=
      Finset.sum_congr rfl fun other member => by rw [get_insert_of_ne _ _ (Finset.ne_of_mem_erase member)]
    rw [rest]; abel
  · rw [total_insert s v inside, if_neg inside, sub_zero]

theorem total_modify (s : Store K V) {k : K} (change : V → V) (inside : k ∈ s.keys) (f : K → V → M) :
    (s.modify k change).total f = s.total f - f k (s.get k) + f k (change (s.get k)) := by
  have inside' : k ∈ s.keys.toFinset := by simpa using inside
  unfold total
  rw [keys_modify, ← Finset.add_sum_erase _ _ inside', ← Finset.add_sum_erase (a := k) _ (fun k =>
    f k (s.get k)) inside',
    get_modify_self]
  have rest : ∑ x ∈ s.keys.toFinset.erase k, f x ((s.modify k change).get x) =
      ∑ x ∈ s.keys.toFinset.erase k, f x (s.get x) :=
    Finset.sum_congr rfl fun other member => by rw [get_modify_of_ne _ _ (Finset.ne_of_mem_erase member)]
  rw [rest]; abel

theorem total_modify_of_eq (s : Store K V) (k : K) (change : V → V) (f : K → V → M)
    (same : f k (change (s.get k)) = f k (s.get k)) : (s.modify k change).total f = s.total f := by
  refine Finset.sum_congr rfl fun other _ => ?_
  by_cases at_key : other = k
  · subst at_key; simp [same]
  · rw [get_modify_of_ne _ _ at_key]

theorem total_add (s : Store K V) (f g : K → V → M) :
    s.total (fun k v => f k v + g k v) = s.total f + s.total g := Finset.sum_add_distrib

theorem total_sub (s : Store K V) (f g : K → V → M) :
    s.total (fun k v => f k v - g k v) = s.total f - s.total g := Finset.sum_sub_distrib ..

theorem total_items {I : Type*} (s : Store K V) (key : I → K) (f : I → M) {items : List I}
    (inside : ∀ x ∈ items, key x ∈ s.keys) :
    (s.total fun k _ => ((items.filter fun x => key x = k).map f).sum) = (items.map f).sum := by
  induction items with
  | nil => simp [total]
  | cons x rest ih =>
    obtain ⟨here, later⟩ := List.forall_mem_cons.mp inside
    have front : ∀ k, (((x :: rest).filter fun x => key x = k).map f).sum =
        (if key x = k then f x else 0) + ((rest.filter fun x => key x = k).map f).sum := by
      intro k
      by_cases of : key x = k
      · rw [if_pos of, List.filter_cons_of_pos (by simpa using of), List.map_cons, List.sum_cons]
      · rw [if_neg of, List.filter_cons_of_neg (by simpa using of), zero_add]
    simp only [front]
    rw [total_add, ih later, List.map_cons, List.sum_cons]
    congr 1
    exact (Finset.sum_ite_eq _ _ _).trans (if_pos (List.mem_toFinset.mpr here))

/-- Totals of two stores agree when they do on the keys of both, and the rest adds nothing. -/
theorem total_eq_total {W : Type*} (s : Store K V) (t : Store K W) {f : K → V → M} {g : K → W → M}
    (left : ∀ k ∈ s.keys, k ∉ t.keys → f k (s.get k) = 0) (right : ∀ k ∈ t.keys, k ∉ s.keys → g k (t.get k) = 0)
    (both : ∀ k ∈ s.keys, k ∈ t.keys → f k (s.get k) = g k (t.get k)) : s.total f = t.total g := by
  unfold total
  refine Finset.sum_congr_of_eq_on_inter (fun k inside outside => ?_) (fun k inside outside => ?_)
    fun k inside inside' => ?_
  · exact left k (List.mem_toFinset.mp inside) fun h => outside (List.mem_toFinset.mpr h)
  · exact right k (List.mem_toFinset.mp inside) fun h => outside (List.mem_toFinset.mpr h)
  · exact both k (List.mem_toFinset.mp inside) (List.mem_toFinset.mp inside')

end Total

section Order

variable [DecidableEq K] [AddCommGroup M] [PartialOrder M] [IsOrderedAddMonoid M]

theorem total_nonneg (s : Store K V) {f : K → V → M} (each : ∀ k ∈ s.keys, 0 ≤ f k (s.get k)) : 0 ≤ s.total f :=
  Finset.sum_nonneg fun k inside => each k (List.mem_toFinset.mp inside)

theorem total_le_total (s : Store K V) {f g : K → V → M} (each : ∀ k ∈ s.keys, f k (s.get k) ≤ g k (s.get k)) :
    s.total f ≤ s.total g :=
  Finset.sum_le_sum fun k inside => each k (List.mem_toFinset.mp inside)

/-- Entries that are no larger one by one, and as large together, are as large one by one. -/
theorem eq_of_total_eq (s : Store K V) {f g : K → V → M} (each : ∀ k ∈ s.keys, f k (s.get k) ≤ g k (s.get k))
    (same : s.total f = s.total g) : ∀ k ∈ s.keys, f k (s.get k) = g k (s.get k) := by
  intro k inside
  have all := (Finset.sum_eq_sum_iff_of_le fun k inside => each k (List.mem_toFinset.mp inside)).mp same
  exact all k (List.mem_toFinset.mpr inside)

theorem total_modify_le (s : Store K V) (k : K) (change : V → V) (f : K → V → M) {more : M} (nonneg : 0 ≤ more)
    (most : f k (change (s.get k)) ≤ f k (s.get k) + more) : (s.modify k change).total f ≤ s.total f + more := by
  by_cases inside : k ∈ s.keys
  · rw [total_modify s change inside, sub_add_eq_add_sub, sub_le_iff_le_add, add_assoc, add_comm more]
    exact add_le_add_right most _
  · apply le_trans _ (le_add_of_nonneg_right nonneg)
    apply le_of_eq
    apply Finset.sum_congr rfl
    intro other member
    have apart : other ≠ k := fun same => inside (same ▸ List.mem_toFinset.mp member)
    rw [get_modify_of_ne _ _ apart]

theorem le_total (s : Store K V) {f : K → V → M} {k : K} (inside : k ∈ s.keys)
    (each : ∀ k ∈ s.keys, 0 ≤ f k (s.get k)) : f k (s.get k) ≤ s.total f :=
  Finset.single_le_sum (f := fun k => f k (s.get k)) (fun k inside => each k (List.mem_toFinset.mp inside))
    (List.mem_toFinset.mpr inside)

end Order

end Store

end Lib
