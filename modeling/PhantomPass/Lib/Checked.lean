import Mathlib

/-! Computations that stop at the first failed check. The rules below take a
successful run apart into the successful runs of its steps. -/

set_option autoImplicit false

namespace Lib

universe u v

variable {ε : Type u} {α β : Type v}

/-- Goes on when the condition holds, stops with the given fault otherwise. -/
def require (fault : ε) (cond : Prop) [Decidable cond] : Except ε PUnit.{v + 1} :=
  if cond then .ok ⟨⟩ else .error fault

@[simp] theorem require_eq_ok (fault : ε) (cond : Prop) [Decidable cond] (u : PUnit.{v + 1}) :
    require fault cond = .ok u ↔ cond := by
  unfold require; split <;> simp_all

@[simp] theorem require_eq_error (fault stop : ε) (cond : Prop) [Decidable cond] :
    require.{u, v} fault cond = .error stop ↔ ¬ cond ∧ fault = stop := by
  unfold require; split <;> simp_all

theorem require_true (fault : ε) {cond : Prop} [Decidable cond] (holds : cond) :
    require.{u, v} fault cond = .ok ⟨⟩ := if_pos holds

@[simp] theorem bind_eq_ok (x : Except ε α) (f : α → Except ε β) (b : β) :
    (x >>= f) = .ok b ↔ ∃ a, x = .ok a ∧ f a = .ok b := by
  cases x <;> simp [bind, Except.bind]

@[simp] theorem bind_eq_error (x : Except ε α) (f : α → Except ε β) (stop : ε) :
    (x >>= f) = .error stop ↔ x = .error stop ∨ ∃ a, x = .ok a ∧ f a = .error stop := by
  cases x <;> simp [bind, Except.bind]

@[simp] theorem ok_bind (a : α) (f : α → Except ε β) : (Except.ok a >>= f) = f a := rfl

@[simp] theorem pure_eq_ok (a b : α) : (pure a : Except ε α) = .ok b ↔ a = b := by
  simp [pure, Except.pure]

@[simp] theorem pure_ne_error (a : α) (stop : ε) : (pure a : Except ε α) ≠ .error stop := by
  simp [pure, Except.pure]

@[simp] theorem throw_eq (stop : ε) : (throw stop : Except ε α) = .error stop := rfl

theorem toOption_eq_some {x : Except ε α} {a : α} : x.toOption = some a ↔ x = .ok a := by
  cases x <;> simp [Except.toOption]

theorem eq_error_of_map {x : Except ε α} {f : α → β} {stop : ε} (stops : x.map f = .error stop) : x = .error stop := by
  cases x with
  | ok a => cases stops
  | error other =>
    injection stops with same
    rw [same]

theorem fails_of_map {γ : Type v} {xs : List γ} {attempt : γ → Except ε α} {f : α → β} {stop : ε}
    (stops : xs.map (fun x => (attempt x).map f) = [.error stop]) :
    xs.length = 1 ∧ ∀ x ∈ xs, attempt x = .error stop := by
  obtain ⟨x, rfl, failed⟩ := List.map_eq_singleton_iff.mp stops
  refine ⟨rfl, fun y inside => ?_⟩
  rw [List.mem_singleton.mp inside]
  exact eq_error_of_map failed

/-- Two computations agree up to a change of their results when their parts do, from
what the first parts return. -/
theorem bind_map_congr_of {α' β' : Type v} {x' : Except ε α'} {x : Except ε α} {k' : α' → Except ε β'}
    {k : α → Except ε β}
    {f : α → α'} {g : β → β'} (first : x' = f <$> x) (rest : ∀ a, x = .ok a → k' (f a) = g <$> k a) :
    x' >>= k' = g <$> (x >>= k) := by
  rw [first]
  cases x with
  | ok a => exact rest a rfl
  | error stop => rfl

theorem bind_map_congr {α' β' : Type v} {x' : Except ε α'} {x : Except ε α} {k' : α' → Except ε β'} {k : α → Except ε β}
    {f : α → α'} {g : β → β'} (first : x' = f <$> x) (rest : ∀ a, k' (f a) = g <$> k a) : x' >>= k' = g <$> (x >>= k) :=
  bind_map_congr_of first fun a _ => rest a

theorem bind_map_same_of {β' : Type v} {x' x : Except ε α} {k' : α → Except ε β'} {k : α → Except ε β} {g : β → β'}
    (first : x' = x) (rest : ∀ a, x = .ok a → k' a = g <$> k a) : x' >>= k' = g <$> (x >>= k) :=
  bind_map_congr_of (f := id) (first.trans (id_map x).symm) rest

theorem bind_map_same {β' : Type v} {x : Except ε α} {k' : α → Except ε β'} {k : α → Except ε β} {g : β → β'}
    (rest : ∀ a, k' a = g <$> k a) : x >>= k' = g <$> (x >>= k) :=
  bind_map_same_of rfl fun a _ => rest a

/-- What is seen of two computations is the same when it is of their first parts, and
the rest goes on alike from results that look alike. -/
theorem bind_map_alike {γ δ : Type v} {x' x : Except ε α} {k' k : α → Except ε β} {f : α → γ} {g : β → δ}
    (first : f <$> x' = f <$> x) (rest : ∀ a' a, f a' = f a → g <$> k' a' = g <$> k a) :
    g <$> (x' >>= k') = g <$> (x >>= k) := by
  cases x' with
  | ok a' =>
    cases x with
    | ok a =>
      injection first with alike
      exact rest a' a alike
    | error stop => cases first
  | error stop' =>
    cases x with
    | ok a => cases first
    | error stop =>
      injection first with same
      rw [same]
      rfl

theorem ite_map {β' : Type v} {cond : Prop} [Decidable cond] {x' y' : Except ε β'} {x y : Except ε β} {g : β → β'}
    (yes : cond → x' = g <$> x) (no : ¬ cond → y' = g <$> y) :
    (if cond then x' else y') = g <$> if cond then x else y := by
  split
  · next holds => exact yes holds
  · next fails => exact no fails

theorem bind_succeeds {x : Except ε α} {f : α → Except ε β} (first : ∃ a, x = .ok a)
    (rest : ∀ a, x = .ok a → ∃ b, f a = .ok b) : ∃ b, (x >>= f) = .ok b := by
  obtain ⟨a, run⟩ := first
  obtain ⟨b, done⟩ := rest a run
  exact ⟨b, by simp [run, done]⟩

theorem bind_succeeds_iff {x : Except ε α} {f : α → Except ε β} :
    (∃ b, (x >>= f) = .ok b) ↔ ∃ a, x = .ok a ∧ ∃ b, f a = .ok b := by
  simp only [bind_eq_ok]
  constructor
  · rintro ⟨b, a, run, done⟩
    exact ⟨a, run, b, done⟩
  · rintro ⟨a, run, b, done⟩
    exact ⟨b, a, run, done⟩

def Avoids (bad : ε → Prop) (x : Except ε α) : Prop := ∀ stop, x = .error stop → ¬ bad stop

namespace Avoids

variable {bad : ε → Prop}

@[simp] theorem ok (a : α) : Avoids bad (.ok a) := by
  intro stop run
  cases run

@[simp] theorem pure (a : α) : Avoids bad (Pure.pure a) := ok a

@[simp] theorem error_iff (stop : ε) : Avoids bad (.error stop : Except ε α) ↔ ¬ bad stop := by
  constructor
  · exact fun avoids => avoids stop rfl
  · intro good other run
    cases run
    exact good

@[simp] theorem require_iff (fault : ε) (cond : Prop) [Decidable cond] :
    Avoids bad (Lib.require.{u, v} fault cond) ↔ (bad fault → cond) := by
  unfold Lib.require
  split
  · next holds => simp [holds]
  · next fails => simp [fails]

@[simp] theorem bind_iff (x : Except ε α) (f : α → Except ε β) :
    Avoids bad (x >>= f) ↔ Avoids bad x ∧ ∀ a, x = .ok a → Avoids bad (f a) := by
  cases x <;> simp [bind, Except.bind]

theorem bind {x : Except ε α} {f : α → Except ε β} (first : Avoids bad x) (rest : ∀ a, x = .ok a → Avoids bad (f a)) :
    Avoids bad (x >>= f) := (bind_iff x f).mpr ⟨first, rest⟩

@[simp] theorem map_iff (x : Except ε α) (f : α → β) : Avoids bad (f <$> x) ↔ Avoids bad x := by
  cases x <;> simp [Functor.map, Except.map]

@[simp] theorem ite_iff (cond : Prop) [Decidable cond] (x y : Except ε α) :
    Avoids bad (if cond then x else y) ↔ (cond → Avoids bad x) ∧ (¬ cond → Avoids bad y) := by
  split
  · next holds => simp [holds]
  · next fails => simp [fails]

end Avoids

/-- A computation that succeeds returns what is asked for, and it stops only with such faults. -/
def Ensures (stops : ε → Prop) (post : α → Prop) (x : Except ε α) : Prop :=
  (∀ a, x = .ok a → post a) ∧ ∀ stop, x = .error stop → stops stop

namespace Ensures

variable {stops : ε → Prop} {mid : α → Prop} {post : β → Prop}

theorem ok {a : α} (holds : mid a) : Ensures stops mid (.ok a) :=
  ⟨fun _ same => by cases same; exact holds, fun _ never => by cases never⟩

theorem pure {a : α} (holds : mid a) : Ensures stops mid (Pure.pure a) := ok holds

theorem error {stop : ε} (allowed : stops stop) : Ensures stops mid (.error stop) :=
  ⟨fun _ never => (by cases never), fun _ same => by cases same; exact allowed⟩

theorem bind {x : Except ε α} {f : α → Except ε β} (first : Ensures stops mid x)
    (rest : ∀ a, mid a → Ensures stops post (f a)) :
    Ensures stops post (x >>= f) := by
  cases x with
  | ok a => exact rest a (first.1 a rfl)
  | error stop => exact error (first.2 stop rfl)

theorem require {fault : ε} {cond : Prop} [Decidable cond] {f : PUnit → Except ε β} (holds : cond)
    (rest : Ensures stops post (f ⟨⟩)) : Ensures stops post (Lib.require fault cond >>= f) := by
  rw [require_true fault holds]
  exact rest

theorem check {fault : ε} {cond : Prop} [Decidable cond] {f : PUnit → Except ε β} (allowed : ¬ cond → stops fault)
    (rest : cond → Ensures stops post (f ⟨⟩)) : Ensures stops post (Lib.require fault cond >>= f) := by
  by_cases holds : cond
  · exact .require holds (rest holds)
  · unfold Lib.require
    rw [if_neg holds]
    exact .error (allowed holds)

theorem mono {x : Except ε α} {mid' : α → Prop} (first : Ensures stops mid x) (weaker : ∀ a, mid a → mid' a) :
    Ensures stops mid' x := ⟨fun a run => weaker a (first.1 a run), first.2⟩

end Ensures

end Lib
