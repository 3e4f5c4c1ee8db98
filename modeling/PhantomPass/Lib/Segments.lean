import Mathlib

/-! Cutting a byte count into frames of bounded payload. A frame is named by
the position of its last byte and costs its payload plus a header, at least a
minimum. -/

set_option autoImplicit false

namespace Lib

structure Framing where
  /-- the largest payload of a frame -/
  mss : ℕ
  /-- what a frame costs besides its payload -/
  header : ℕ
  /-- the least cost of a frame -/
  floor : ℕ
  mss_pos : 0 < mss

namespace Framing

variable (f : Framing)

def cost (len : ℕ) : ℕ := max (len + f.header) f.floor

theorem cost_mono {a b : ℕ} (le : a ≤ b) : f.cost a ≤ f.cost b := by unfold cost; omega

def lens (n : ℕ) : List ℕ := List.replicate (n / f.mss) f.mss ++ if n % f.mss = 0 then [] else [n % f.mss]

@[simp] theorem lens_zero : f.lens 0 = [] := by simp [lens]

theorem lens_of_pos {n : ℕ} (pos : 0 < n) : f.lens n = min f.mss n :: f.lens (n - min f.mss n) := by
  rcases Nat.lt_or_ge n f.mss with short | full
  · simp [lens, Nat.min_eq_right short.le, Nat.div_eq_of_lt short, Nat.mod_eq_of_lt short, pos.ne']
  · have quot : n / f.mss = (n - f.mss) / f.mss + 1 := by
      rw [← Nat.add_div_right _ f.mss_pos, Nat.sub_add_cancel full]
    rw [Nat.min_eq_left full, lens, lens, quot, List.replicate_succ, List.cons_append, ← Nat.mod_eq_sub_mod full]

theorem lens_of_le {n : ℕ} (pos : 0 < n) (le : n ≤ f.mss) : f.lens n = [n] := by
  rw [f.lens_of_pos pos, Nat.min_eq_right le, Nat.sub_self, lens_zero]

theorem lens_induction {motive : ℕ → Prop} (zero : motive 0)
    (step : ∀ n, 0 < n → motive (n - min f.mss n) → motive n) (n : ℕ) : motive n := by
  induction n using Nat.strong_induction_on with
  | _ n ih =>
    rcases n.eq_zero_or_pos with rfl | pos
    · exact zero
    · have := f.mss_pos
      exact step n pos (ih _ (by omega))

theorem sum_lens (n : ℕ) : (f.lens n).sum = n := by
  induction n using f.lens_induction with
  | zero => simp
  | step n pos ih => rw [f.lens_of_pos pos, List.sum_cons, ih]; omega

theorem mem_lens {n len : ℕ} (inside : len ∈ f.lens n) : 0 < len ∧ len ≤ f.mss := by
  induction n using f.lens_induction with
  | zero => simp at inside
  | step n pos ih =>
    rw [f.lens_of_pos pos, List.mem_cons] at inside
    have := f.mss_pos
    rcases inside with rfl | rest
    · omega
    · exact ih rest

theorem length_lens (n : ℕ) : (f.lens n).length = n / f.mss + if n % f.mss = 0 then 0 else 1 := by
  unfold lens; split <;> simp

theorem length_lens_le {a b : ℕ} (le : a ≤ b) : (f.lens a).length ≤ (f.lens b).length := by
  have pos := f.mss_pos
  have quot := Nat.div_le_div_right (c := f.mss) le
  rw [length_lens, length_lens]
  rcases quot.lt_or_eq with fewer | same
  · split <;> split <;> omega
  · have left := Nat.div_add_mod a f.mss
    have right := Nat.div_add_mod b f.mss
    rw [same] at left ⊢
    split <;> split <;> omega

theorem lens_add {a b : ℕ} (aligned : f.mss ∣ a) : f.lens (a + b) = f.lens a ++ f.lens b := by
  obtain ⟨k, rfl⟩ := aligned
  have quot : (f.mss * k + b) / f.mss = k + b / f.mss := Nat.mul_add_div f.mss_pos _ _
  have rem : (f.mss * k + b) % f.mss = b % f.mss := Nat.mul_add_mod ..
  rw [lens, lens, lens, quot, rem, Nat.mul_mod_right, Nat.mul_div_cancel_left k f.mss_pos, if_pos rfl,
    List.append_nil, ← List.append_assoc, List.replicate_append_replicate]

def wire (n : ℕ) : ℕ := ((f.lens n).map f.cost).sum

@[simp] theorem wire_zero : f.wire 0 = 0 := by simp [wire]

theorem wire_of_pos {n : ℕ} (pos : 0 < n) : f.wire n = f.cost (min f.mss n) + f.wire (n - min f.mss n) := by
  rw [wire, f.lens_of_pos pos, List.map_cons, List.sum_cons, wire]

theorem wire_add {a b : ℕ} (aligned : f.mss ∣ a) : f.wire (a + b) = f.wire a + f.wire b := by
  rw [wire, f.lens_add aligned, List.map_append, List.sum_append, wire, wire]

theorem wire_eq (n : ℕ) :
    f.wire n = n / f.mss * f.cost f.mss + if n % f.mss = 0 then 0 else f.cost (n % f.mss) := by
  unfold wire lens; split <;> simp

theorem le_wire (n : ℕ) : n ≤ f.wire n := by
  induction n using f.lens_induction with
  | zero => simp
  | step n pos ih =>
    rw [f.wire_of_pos pos]
    have : min f.mss n ≤ f.cost (min f.mss n) := by unfold cost; omega
    omega

theorem wire_pos {n : ℕ} (pos : 0 < n) : 0 < f.wire n := lt_of_lt_of_le pos (f.le_wire n)

theorem wire_mono {a b : ℕ} (le : a ≤ b) : f.wire a ≤ f.wire b := by
  induction b using f.lens_induction generalizing a with
  | zero => simp [Nat.le_zero.mp le]
  | step b pos ih =>
    rcases a.eq_zero_or_pos with rfl | posA
    · simp
    · rw [f.wire_of_pos pos, f.wire_of_pos posA]
      exact Nat.add_le_add (f.cost_mono (by omega)) (ih (by omega))

/-- The payload of the full frames that so many bytes of wire hold. -/
def whole (size : ℕ) : ℕ := size / f.cost f.mss * f.mss

theorem wire_mul (k : ℕ) : f.wire (k * f.mss) = k * f.cost f.mss := by
  rw [f.wire_eq, Nat.mul_div_cancel k f.mss_pos, Nat.mul_mod_left, if_pos rfl, Nat.add_zero]

theorem wire_whole_bounds (size : ℕ) : f.wire (f.whole size) ≤ size ∧ size < f.wire (f.whole size) + f.cost f.mss := by
  have pos : 0 < f.cost f.mss := by
    have := f.mss_pos
    unfold cost
    omega
  unfold whole
  rw [f.wire_mul]
  exact ⟨Nat.div_mul_le_self .., Nat.lt_div_mul_add pos⟩

/-- Going to the wire and back loses the last frame, unless it is full; a frame that is not full must cost less than
one that is. -/
theorem whole_wire (short : f.floor < f.mss + f.header) (n : ℕ) : f.whole (f.wire n) = n / f.mss * f.mss := by
  have last : (if n % f.mss = 0 then 0 else f.cost (n % f.mss)) < f.cost f.mss := by
    have := f.mss_pos
    have := Nat.mod_lt n f.mss_pos
    unfold cost
    split <;> omega
  have quot : f.wire n / f.cost f.mss = n / f.mss := by
    rw [f.wire_eq, Nat.add_comm, Nat.add_mul_div_right _ _ (Nat.zero_lt_of_lt last),
      Nat.div_eq_of_lt last, Nat.zero_add]
  unfold whole
  rw [quot]

theorem whole_wire_eq_iff (short : f.floor < f.mss + f.header) (n : ℕ) : f.whole (f.wire n) = n ↔ f.mss ∣ n := by
  rw [f.whole_wire short, Nat.dvd_iff_div_mul_eq]

/-- The frames behind a starting position: where each ends and what it carries. -/
def frames (start : ℤ) (n : ℕ) : List (ℤ × ℕ) := go start (f.lens n)
where
  go : ℤ → List ℕ → List (ℤ × ℕ)
    | _, [] => []
    | start, len :: rest => (start + len, len) :: go (start + len) rest

@[simp] theorem frames_zero (start : ℤ) : f.frames start 0 = [] := by simp [frames, frames.go]

theorem frames_of_pos {n : ℕ} (start : ℤ) (pos : 0 < n) :
    f.frames start n = (start + (min f.mss n : ℕ), min f.mss n) ::
      f.frames (start + (min f.mss n : ℕ)) (n - min f.mss n) := by
  rw [frames, f.lens_of_pos pos, frames.go, frames]

theorem map_snd_frames (start : ℤ) (n : ℕ) : (f.frames start n).map Prod.snd = f.lens n := by
  induction n using f.lens_induction generalizing start with
  | zero => simp
  | step n pos ih => rw [f.frames_of_pos start pos, f.lens_of_pos pos, List.map_cons, ih]

theorem frames_add {a b : ℕ} (start : ℤ) (aligned : f.mss ∣ a) :
    f.frames start (a + b) = f.frames start a ++ f.frames (start + a) b := by
  induction a using f.lens_induction generalizing start with
  | zero => simp
  | step a pos ih =>
    have le : f.mss ≤ a := Nat.le_of_dvd pos aligned
    have first : min f.mss (a + b) = f.mss := by omega
    have first' : min f.mss a = f.mss := by omega
    rw [first'] at ih
    rw [f.frames_of_pos start pos, f.frames_of_pos (n := a + b) start (by omega), first, first', List.cons_append,
      show a + b - f.mss = (a - f.mss) + b by omega, ih _ (Nat.dvd_sub aligned dvd_rfl)]
    congr 3; omega

theorem mem_frames {start : ℤ} {n : ℕ} {frame : ℤ × ℕ} (inside : frame ∈ f.frames start n) :
    start < frame.1 ∧ frame.1 ≤ start + n := by
  induction n using f.lens_induction generalizing start with
  | zero => simp at inside
  | step n pos ih =>
    have := f.mss_pos
    rw [f.frames_of_pos start pos, List.mem_cons] at inside
    rcases inside with rfl | rest
    · dsimp only; omega
    · have := ih rest; omega

theorem frames_pairwise (start : ℤ) (n : ℕ) : (f.frames start n).Pairwise fun a b => a.1 < b.1 := by
  induction n using f.lens_induction generalizing start with
  | zero => simp
  | step n pos ih =>
    rw [f.frames_of_pos start pos, List.pairwise_cons]
    exact ⟨fun frame inside => (f.mem_frames inside).1, ih _⟩

theorem nodup_frames (start : ℤ) (n : ℕ) : ((f.frames start n).map Prod.fst).Nodup := by
  unfold List.Nodup
  rw [List.pairwise_map]
  exact (f.frames_pairwise start n).imp fun less => ne_of_lt less

theorem filter_frames {d n : ℕ} (le : d ≤ n) (aligned : d = n ∨ f.mss ∣ d) :
    (f.frames 0 n).filter (fun frame => decide ((d : ℤ) < frame.1)) = f.frames d (n - d) := by
  rcases aligned with rfl | aligned
  · rw [Nat.sub_self, frames_zero, List.filter_eq_nil_iff]
    intro frame inside
    have bound := (f.mem_frames inside).2
    simp only [decide_eq_true_eq, not_lt]
    omega
  · have parts := f.frames_add (b := n - d) 0 aligned
    rw [Nat.add_sub_cancel' le, zero_add] at parts
    rw [parts, List.filter_append, List.filter_eq_nil_iff.mpr, List.nil_append, List.filter_eq_self]
    · intro frame inside
      exact decide_eq_true (f.mem_frames inside).1
    · intro frame inside
      have bound := (f.mem_frames inside).2
      simp only [decide_eq_true_eq, not_lt]
      omega

/-- Counting from the first byte or behind a prefix of full frames gives the same
end positions only without a prefix. -/
theorem frames_perm_iff {d n : ℕ} (pos : 0 < n) (aligned : f.mss ∣ d) :
    ((f.frames 0 n).map Prod.fst).Perm ((f.frames d n).map Prod.fst) ↔ d = 0 := by
  constructor
  · intro perm
    have first : (0 : ℤ) + (min f.mss n : ℕ) ∈ (f.frames 0 n).map Prod.fst := by
      rw [f.frames_of_pos 0 pos]
      exact List.mem_cons_self
    obtain ⟨frame, inside, same⟩ := List.mem_map.mp (perm.subset first)
    have behind := (f.mem_frames inside).1
    apply Nat.eq_zero_of_dvd_of_lt aligned
    omega
  · rintro rfl
    exact .refl _

end Framing

end Lib
