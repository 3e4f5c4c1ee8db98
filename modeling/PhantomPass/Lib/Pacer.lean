import Mathlib

/-! A pacer that drains its backlog only when its owner looks at it, and sends
only while the backlog is low. In any window of time it sends what drains at its
rate in that time, and the backlog that one more sending leaves. -/

set_option autoImplicit false

namespace Lib

variable {K : Type*} [Field K] [LinearOrder K]

/-- The backlog, when it was last drained, and all that was sent so far. -/
structure Pacer (K : Type*) where
  backlog : K
  last : K
  sent : K

namespace Pacer

/-- How fast a backlog drains, up to which backlog something is sent, and how much at once. -/
structure Rules (K : Type*) where
  rate : K
  limit : K
  largest : K

/-- What an owner does from a moment on: it drains the backlog, adds to it what
is not counted, or sends behind a draining of that time. -/
inductive Step (rules : Rules K) (start : K) : Pacer K → Pacer K → Prop
  | drain {p : Pacer K} (now amount : K) : start ≤ now → p.last ≤ now → amount ≤ rules.rate * (now - p.last) →
      Step rules start p { p with backlog := max (p.backlog - amount) 0, last := now }
  | load {p : Pacer K} (amount : K) : 0 ≤ amount → Step rules start p { p with backlog := p.backlog + amount }
  | send {p : Pacer K} (amount : K) : start ≤ p.last → p.backlog ≤ rules.limit → 0 ≤ amount → amount ≤ rules.largest →
      Step rules start p { p with backlog := p.backlog + amount, sent := p.sent + amount }

def Steps (rules : Rules K) (start : K) : Pacer K → Pacer K → Prop := Relation.ReflTransGen (Step rules start)

def elapsed (start : K) (p : Pacer K) : K := max p.last start - start

/-- What holds of the pacer behind the start of a window, with what was sent before. -/
structure Within (rules : Rules K) (start before : K) (p : Pacer K) : Prop where
  nonneg : 0 ≤ p.backlog
  fresh : p.sent = before ∨ start ≤ p.last
  covered : p.sent - before ≤ p.backlog + rules.rate * p.elapsed start
  bounded : p.sent - before ≤ rules.rate * p.elapsed start + (rules.limit + rules.largest)

variable [IsStrictOrderedRing K] {rules : Rules K} {start before : K} {p q : Pacer K}

theorem elapsed_nonneg (start : K) (p : Pacer K) : 0 ≤ p.elapsed start := sub_nonneg.mpr (le_max_right _ _)

theorem Within.first (rate : 0 ≤ rules.rate) (room : 0 ≤ rules.limit + rules.largest) (nonneg : 0 ≤ p.backlog) :
    Within rules start p.sent p := by
  have drained : 0 ≤ rules.rate * p.elapsed start := mul_nonneg rate (elapsed_nonneg start p)
  refine ⟨nonneg, Or.inl rfl, ?_, ?_⟩
  · rw [sub_self]; exact add_nonneg nonneg drained
  · rw [sub_self]; exact add_nonneg drained room

theorem Within.step (within : Within rules start before p) (rate : 0 ≤ rules.rate)
    (room : 0 ≤ rules.limit + rules.largest) (step : Step rules start p q) : Within rules start before q := by
  obtain ⟨nonneg, fresh, covered, bounded⟩ := within
  cases step with
  | drain now amount later order amount_le =>
    have elapsed : max now start - start = now - start := by rw [max_eq_left later]
    have left : p.backlog - amount ≤ max (p.backlog - amount) 0 := le_max_left _ _
    have zero : 0 ≤ max (p.backlog - amount) 0 := le_max_right _ _
    have drained : 0 ≤ rules.rate * (now - start) := mul_nonneg rate (sub_nonneg.mpr later)
    refine ⟨zero, Or.inr later, ?_, ?_⟩
    · unfold Pacer.elapsed at covered ⊢
      rw [elapsed]
      rcases fresh with same | since
      · rw [same, sub_self]
        exact add_nonneg zero drained
      · -- what drains is paid for by the time since the last draining
        rw [max_eq_left since] at covered
        have time : rules.rate * (now - start) = rules.rate * (now - p.last) + rules.rate * (p.last - start) := by ring
        dsimp only
        linarith
    · unfold Pacer.elapsed at bounded ⊢
      rw [elapsed]
      rcases fresh with same | since
      · rw [same, sub_self]
        exact add_nonneg drained room
      · rw [max_eq_left since] at bounded
        have more : rules.rate * (p.last - start) ≤ rules.rate * (now - start) :=
          mul_le_mul_of_nonneg_left (sub_le_sub_right order start) rate
        dsimp only
        linarith
  | load amount amount_nonneg =>
    refine ⟨add_nonneg nonneg amount_nonneg, fresh, ?_, bounded⟩
    unfold Pacer.elapsed at covered ⊢
    dsimp only
    linarith
  | send amount since low amount_nonneg amount_le =>
    unfold Pacer.elapsed at covered bounded
    refine ⟨add_nonneg nonneg amount_nonneg, Or.inr since, ?_, ?_⟩
    · unfold Pacer.elapsed; dsimp only; linarith
    · unfold Pacer.elapsed; dsimp only; linarith

theorem Within.steps (within : Within rules start before p) (rate : 0 ≤ rules.rate)
    (room : 0 ≤ rules.limit + rules.largest) (steps : Steps rules start p q) : Within rules start before q := by
  induction steps with
  | refl => exact within
  | tail _ last ih => exact ih.step rate room last

omit [IsStrictOrderedRing K] in
theorem Step.earlier {later : K} (step : Step rules later p q) (order : start ≤ later) : Step rules start p q := by
  cases step with
  | drain now amount after last amount_le => exact .drain now amount (order.trans after) last amount_le
  | load amount nonneg => exact .load amount nonneg
  | send amount since low nonneg amount_le => exact .send amount (order.trans since) low nonneg amount_le

omit [IsStrictOrderedRing K] in
theorem Steps.earlier {later : K} (steps : Steps rules later p q) (order : start ≤ later) : Steps rules start p q := by
  induction steps with
  | refl => exact .refl
  | tail _ last ih => exact ih.tail (last.earlier order)

end Pacer

end Lib
