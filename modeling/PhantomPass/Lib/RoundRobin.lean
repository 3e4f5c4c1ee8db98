import Mathlib

/-! A vector walked by a cursor that wraps around. The cursor survives the
removal of elements; what it visits next is a rotation of the vector. -/

set_option autoImplicit false

namespace Lib

universe u

/-- The cursor points at an element, or at zero when there is none. -/
structure RoundRobin (α : Type u) where
  msgs : List α
  current : Nat
  current_lt : current < msgs.length ∨ current = 0

namespace RoundRobin

variable {α : Type u}

def empty : RoundRobin α := ⟨[], 0, Or.inr rfl⟩

instance : Inhabited (RoundRobin α) := ⟨empty⟩

@[simp] theorem msgs_empty : (empty : RoundRobin α).msgs = [] := rfl

def size (r : RoundRobin α) : Nat := r.msgs.length

def append (r : RoundRobin α) (x : α) : RoundRobin α :=
  ⟨r.msgs ++ [x], r.current, Or.inl (by
    rw [List.length_append, List.length_singleton]; rcases r.current_lt with h | h <;> omega)⟩

@[simp] theorem msgs_append (r : RoundRobin α) (x : α) : (r.append x).msgs = r.msgs ++ [x] := rfl

def peekNext (r : RoundRobin α) : Option α := r.msgs[r.current]?

/-- The element under the cursor, and the vector with the cursor moved one place on. -/
def next (r : RoundRobin α) : Option (α × RoundRobin α) :=
  if some_msg : 0 < r.msgs.length then
    some (r.msgs.get ⟨r.current, r.current_lt.elim id fun zero => zero ▸ some_msg⟩,
      ⟨r.msgs, (r.current + 1) % r.msgs.length, Or.inl (Nat.mod_lt _ some_msg)⟩)
  else none

def reset (r : RoundRobin α) : RoundRobin α := ⟨r.msgs, 0, Or.inr rfl⟩

@[simp] theorem msgs_reset (r : RoundRobin α) : r.reset.msgs = r.msgs := rfl

/-- The same elements in another order, the cursor where it was. -/
def reorder (r : RoundRobin α) (msgs : List α) (perm : msgs.Perm r.msgs) : RoundRobin α :=
  ⟨msgs, r.current, by rw [perm.length_eq]; exact r.current_lt⟩

@[simp] theorem msgs_reorder (r : RoundRobin α) (msgs : List α) (perm : msgs.Perm r.msgs) :
    (r.reorder msgs perm).msgs = msgs := rfl

def upcoming (r : RoundRobin α) : List α := r.msgs.drop r.current ++ r.msgs.take r.current

theorem upcoming_perm (r : RoundRobin α) : r.upcoming.Perm r.msgs :=
  List.perm_append_comm.trans (List.Perm.of_eq (List.take_append_drop _ _))

@[simp] theorem mem_upcoming (r : RoundRobin α) (x : α) : x ∈ r.upcoming ↔ x ∈ r.msgs := r.upcoming_perm.mem_iff

theorem upcoming_reset (r : RoundRobin α) : r.reset.upcoming = r.msgs := by simp [upcoming, reset]

theorem length_upcoming (r : RoundRobin α) : r.upcoming.length = r.size := r.upcoming_perm.length_eq

theorem take_upcoming (r : RoundRobin α) : r.upcoming.take r.size = r.upcoming := by
  rw [← r.length_upcoming, List.take_length]

theorem upcoming_eq_nil {r : RoundRobin α} : r.upcoming = [] ↔ r.msgs = [] := by
  rw [← List.length_eq_zero_iff, length_upcoming, size, List.length_eq_zero_iff]

theorem upcoming_eq_cons {r : RoundRobin α} (some_msg : r.current < r.msgs.length) :
    r.upcoming = r.msgs[r.current] :: (r.msgs.drop (r.current + 1) ++ r.msgs.take r.current) := by
  rw [upcoming, List.drop_eq_getElem_cons some_msg, List.cons_append]

theorem next_eq_none {r : RoundRobin α} : r.next = none ↔ r.msgs = [] := by
  unfold next
  split
  · next some_msg => simpa using List.ne_nil_of_length_pos some_msg
  · next h => simpa using h

theorem next_spec {r r' : RoundRobin α} {x : α} (step : r.next = some (x, r')) :
    r'.msgs = r.msgs ∧ ∃ rest, r.upcoming = x :: rest ∧ r'.upcoming = rest ++ [x] := by
  unfold next at step
  split at step
  · next some_msg =>
    have lt : r.current < r.msgs.length := r.current_lt.elim id fun zero => zero ▸ some_msg
    simp only [Option.some.injEq, Prod.mk.injEq] at step
    obtain ⟨rfl, rfl⟩ := step
    refine ⟨rfl, _, upcoming_eq_cons lt, ?_⟩
    simp only [upcoming, List.get_eq_getElem]
    rcases Nat.lt_or_ge (r.current + 1) r.msgs.length with h | h
    · rw [Nat.mod_eq_of_lt h, List.append_assoc, List.take_succ_eq_append_getElem lt]
    · have last : r.current + 1 = r.msgs.length := by omega
      rw [last, Nat.mod_self, List.drop_length, List.drop_zero, List.take_zero, List.append_nil, List.nil_append,
        ← List.take_succ_eq_append_getElem lt, last, List.take_length]
  · cases step

theorem next_of_upcoming {r : RoundRobin α} {x : α} {rest : List α} (upcoming : r.upcoming = x :: rest) :
    ∃ r', r.next = some (x, r') ∧ r'.msgs = r.msgs ∧ r'.upcoming = rest ++ [x] := by
  cases step : r.next with
  | none =>
    rw [upcoming_eq_nil.mpr (next_eq_none.mp step)] at upcoming
    cases upcoming
  | some turn =>
    obtain ⟨y, r'⟩ := turn
    obtain ⟨msgs, behind, now, later⟩ := next_spec step
    rw [upcoming, List.cons.injEq] at now
    obtain ⟨rfl, rfl⟩ := now
    exact ⟨r', rfl, msgs, later⟩

theorem nodup_upcoming {r : RoundRobin α} {ids : List α} (upcoming : r.upcoming = ids)
    (nodup : r.msgs.Nodup) : ids.Nodup :=
  upcoming ▸ r.upcoming_perm.nodup_iff.mpr nodup

theorem peekNext_eq_head (r : RoundRobin α) : r.peekNext = r.upcoming.head? := by
  unfold peekNext
  rcases Nat.lt_or_ge r.current r.msgs.length with lt | ge
  · rw [upcoming_eq_cons lt, List.getElem?_eq_getElem lt, List.head?_cons]
  · have zero : r.msgs = [] := by
      rcases r.current_lt with h | h
      · omega
      · exact List.eq_nil_of_length_eq_zero (by omega)
    simp [upcoming, zero]

theorem next_current {r r' : RoundRobin α} {x : α} (step : r.next = some (x, r')) :
    r'.current = (r.current + 1) % r.msgs.length := by
  unfold next at step
  split at step
  · injection step with pair
    injection pair with _ moved
    rw [← moved]
  · cases step

theorem eq_of_fields {r r' : RoundRobin α} (msgs : r.msgs = r'.msgs) (current : r.current = r'.current) : r = r' := by
  cases r
  cases r'
  cases msgs
  cases current
  rfl

def turns : Nat → RoundRobin α → Option (List α × RoundRobin α)
  | 0, r => some ([], r)
  | k + 1, r => do
    let (x, r) ← r.next
    let (visited, r) ← turns k r
    return (x :: visited, r)

theorem turns_spec (k : Nat) (r : RoundRobin α) (within : k ≤ r.size) : ∃ r',
    turns k r = some (r.upcoming.take k, r') ∧ r'.msgs = r.msgs ∧ r'.current = (r.current + k) % r.msgs.length := by
  induction k generalizing r with
  | zero =>
    refine ⟨r, by simp [turns], rfl, ?_⟩
    rcases r.current_lt with lt | zero
    · exact (Nat.mod_eq_of_lt lt).symm
    · simp [zero]
  | succ k ih =>
    cases step : r.next with
    | none =>
      have none_left : r.msgs = [] := next_eq_none.mp step
      simp [size, none_left] at within
    | some moved =>
      obtain ⟨x, after⟩ := moved
      obtain ⟨msgs, rest, visits, follows⟩ := next_spec step
      have left : k ≤ rest.length := by
        have len := length_upcoming r
        rw [visits, List.length_cons] at len
        omega
      obtain ⟨last, walked, kept, current⟩ := ih after (by rw [size, msgs]; exact Nat.le_of_succ_le within)
      refine ⟨last, ?_, kept.trans msgs, ?_⟩
      · rw [follows, List.take_append_of_le_length left] at walked
        simp [turns, step, walked, visits]
      · rw [current, next_current step, msgs, Nat.mod_add_mod, Nat.add_assoc, Nat.add_comm 1 k]

theorem turns_size (r : RoundRobin α) : turns r.size r = some (r.upcoming, r) := by
  obtain ⟨last, walked, msgs, current⟩ := turns_spec r.size r (Nat.le_refl _)
  have back : last = r := by
    apply eq_of_fields msgs
    rw [current, size, Nat.add_mod_right]
    rcases r.current_lt with lt | zero
    · exact Nat.mod_eq_of_lt lt
    · rw [zero, Nat.zero_mod]
  rw [walked, back, take_upcoming]

theorem eraseIdx_split (pre post : List α) (x : α) : (pre ++ x :: post).eraseIdx pre.length = pre ++ post := by
  rw [List.eraseIdx_append_of_length_le (Nat.le_refl _), Nat.sub_self, List.eraseIdx_cons_zero]

section Remove

variable [DecidableEq α]

/-- Erases an element and keeps the cursor on the element it pointed at, or on
the one behind when that was erased; none when the element is not there. -/
def remove (r : RoundRobin α) (x : α) : Option (RoundRobin α) :=
  let pos := r.msgs.idxOf x
  if found : pos < r.msgs.length then
    let left := r.msgs.eraseIdx pos
    some ⟨left,
      if left.length = 0 then 0
      else if r.current > pos then r.current - 1
      else if r.current = pos then r.current % left.length
      else r.current, by
        have len : left.length = r.msgs.length - 1 := List.length_eraseIdx_of_lt found
        have lt := r.current_lt
        split
        · exact Or.inr rfl
        · left
          split
          · omega
          · split
            · exact Nat.mod_lt _ (by omega)
            · omega⟩
  else none

theorem remove_isSome {r : RoundRobin α} {x : α} : (∃ r', r.remove x = some r') ↔ x ∈ r.msgs := by
  rw [← List.idxOf_lt_length_iff]
  unfold remove
  dsimp only
  split <;> simp_all

theorem remove_spec {r r' : RoundRobin α} {x : α} (nodup : r.msgs.Nodup) (step : r.remove x = some r') :
    r'.upcoming = r.upcoming.erase x ∧ r'.msgs = r.msgs.erase x := by
  have inside : x ∈ r.msgs := remove_isSome.mp ⟨r', step⟩
  obtain ⟨msgs, current, current_lt⟩ := r
  obtain ⟨pre, post, rfl⟩ := List.append_of_mem inside
  obtain ⟨nodupPre, nodupPost, apart⟩ := List.nodup_append.mp nodup
  have notPre : x ∉ pre := fun h => apart x h x List.mem_cons_self rfl
  have notPost : x ∉ post := (List.nodup_cons.mp nodupPost).1
  have pos : (pre ++ x :: post).idxOf x = pre.length := by
    rw [List.idxOf_append_of_notMem notPre, List.idxOf_cons_self, Nat.add_zero]
  unfold remove at step
  dsimp only at step
  split at step
  · simp only [pos, eraseIdx_split, Option.some.injEq] at step
    subst step
    refine ⟨?_, by rw [List.erase_append_right _ notPre, List.erase_cons_head]⟩
    rcases Nat.lt_trichotomy current pre.length with before | here | after
    · -- the cursor stands before the erased place
      have upTo : current ≤ pre.length := Nat.le_of_lt before
      have kept : ¬ (pre ++ post).length = 0 := by rw [List.length_append]; omega
      have notDrop : x ∉ pre.drop current := fun h => notPre (List.mem_of_mem_drop h)
      simp only [upcoming, kept, if_false, if_neg (Nat.lt_asymm before), if_neg (Nat.ne_of_lt before)]
      rw [List.drop_append_of_le_length upTo, List.take_append_of_le_length upTo,
        List.drop_append_of_le_length upTo, List.take_append_of_le_length upTo, List.append_assoc,
        List.append_assoc, List.erase_append_right _ notDrop, List.cons_append, List.erase_cons_head]
    · -- on the erased place: it moves to the element behind, or wraps around
      subst here
      simp only [upcoming, gt_iff_lt, Nat.lt_irrefl, if_false, if_true, List.drop_left, List.take_left,
        List.cons_append, List.erase_cons_head]
      cases post with
      | nil => by_cases empty : pre = [] <;> simp [empty]
      | cons y post =>
        have kept : ¬ (pre ++ y :: post).length = 0 := by simp
        have stays : pre.length % (pre ++ y :: post).length = pre.length := Nat.mod_eq_of_lt (by simp)
        rw [if_neg kept, stays, List.drop_left, List.take_left]
    · -- behind it: the element under the cursor moved one place down
      obtain ⟨j, rfl⟩ := Nat.exists_eq_add_of_lt after
      have kept : ¬ (pre ++ post).length = 0 := by
        simp only [List.length_append, List.length_cons] at current_lt ⊢; omega
      have drops : (pre ++ x :: post).drop (pre.length + j + 1) = post.drop j := by
        rw [Nat.add_assoc, List.drop_append, List.drop_eq_nil_of_le (by omega)]; simp
      have takes : (pre ++ x :: post).take (pre.length + j + 1) = pre ++ x :: post.take j := by
        rw [Nat.add_assoc, List.take_append, List.take_of_length_le (by omega)]; simp
      have drops' : (pre ++ post).drop (pre.length + j) = post.drop j := by
        rw [List.drop_append, List.drop_eq_nil_of_le (by omega)]; simp
      have takes' : (pre ++ post).take (pre.length + j) = pre ++ post.take j := by
        rw [List.take_append, List.take_of_length_le (by omega)]; simp
      have notDrop : x ∉ post.drop j := fun h => notPost (List.mem_of_mem_drop h)
      simp only [upcoming, kept, if_false, if_pos (show pre.length + j + 1 > pre.length by omega),
        Nat.add_sub_cancel, drops, takes, drops', takes']
      rw [List.erase_append_right _ notDrop, List.erase_append_right _ notPre, List.erase_cons_head]
  · cases step

end Remove

end RoundRobin

end Lib
