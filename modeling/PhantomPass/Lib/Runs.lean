import Mathlib

/-! Runs of a system that takes one event after the other, with the states that
the events found. What every step keeps, every run keeps; what a step keeps
exactly under a condition holds after exactly the runs that met it throughout. -/

set_option autoImplicit false

namespace Lib

universe u v

variable {σ : Type u} {ε : Type v}

inductive Run (step : σ → ε → σ → Prop) (first : σ) : List (σ × ε) → σ → Prop
  | start : Run step first [] first
  | next {trace : List (σ × ε)} {s t : σ} (e : ε) : Run step first trace s → step s e t →
      Run step first (trace ++ [(s, e)]) t

namespace Run

variable {step : σ → ε → σ → Prop} {first last : σ} {trace : List (σ × ε)} (inv : σ → Prop) (cond : σ → ε → Prop)

theorem keeps (run : Run step first trace last) (start : inv first)
    (stays : ∀ s e t, inv s → step s e t → inv t) : inv last := by
  induction run with
  | start => exact start
  | next e _ moves ih => exact stays _ e _ ih moves

theorem keeps_if (run : Run step first trace last) (met : ∀ x ∈ trace, cond x.1 x.2) (start : inv first)
    (stays : ∀ s e t, inv s → cond s e → step s e t → inv t) : inv last := by
  induction run with
  | start => exact start
  | next e _ moves ih =>
    have before := ih fun x inside => met x (List.mem_append_left _ inside)
    exact stays _ e _ before (met _ (List.mem_append_right _ (List.mem_singleton_self _))) moves

theorem iff_all (good : σ → Prop) (run : Run step first trace last) (start : inv first)
    (stays : ∀ s e t, inv s → step s e t → inv t)
    (begins : good first) (exact_ : ∀ s e t, inv s → step s e t → (good t ↔ good s ∧ cond s e)) :
    good last ↔ ∀ x ∈ trace, cond x.1 x.2 := by
  induction run with
  | start => exact ⟨fun _ _ none => absurd none List.not_mem_nil, fun _ => begins⟩
  | next e before moves ih =>
    have here := before.keeps inv start stays
    rw [exact_ _ e _ here moves, ih, List.forall_mem_append, List.forall_mem_singleton]

theorem cons {e : ε} {s : σ} (moves : step first e s) (run : Run step s trace last) :
    Run step first ((first, e) :: trace) last := by
  induction run with
  | start => exact .next e .start moves
  | next later _ after ih => exact .next later ih after

/-- The run of some events, if each can happen where the ones before it lead. -/
def exec (move : σ → ε → Option σ) (s : σ) : List ε → Option (List (σ × ε) × σ)
  | [] => some ([], s)
  | e :: events =>
    (move s e).bind fun t => (exec move t events).map fun out => ((s, e) :: out.1, out.2)

theorem of_exec {move : σ → ε → Option σ} {events : List ε} (sound : ∀ s e t, move s e = some t → step s e t)
    (run : exec move first events = some (trace, last)) : Run step first trace last := by
  induction events generalizing first trace with
  | nil =>
    cases run
    exact .start
  | cons e events ih =>
    obtain ⟨s, moves, rest⟩ := Option.bind_eq_some_iff.mp run
    obtain ⟨⟨rest, _⟩, later, same⟩ := Option.map_eq_some_iff.mp rest
    cases same
    exact cons (sound first e s moves) (ih later)

end Run

end Lib
