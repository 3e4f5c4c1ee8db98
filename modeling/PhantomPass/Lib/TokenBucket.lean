import Mathlib

/-! A token bucket whose clock moves on only as far as tokens were added for. What
is spent in a window of time comes out of what the bucket held, and of what came
in at its rate; if it is refilled in time, out of one burst and the rate alone. -/

set_option autoImplicit false

namespace Lib

variable {K : Type*} [Field K] [LinearOrder K]

/-- The tokens, the time for which tokens were added, and what was spent so far. -/
structure TokenBucket (K : Type*) where
  tokens : K
  clock : K
  now : K
  spent : K

namespace TokenBucket

structure Rules (K : Type*) where
  rate : K
  burst : K

variable (rules : Rules K) (b : TokenBucket K)

def wait (now : K) : TokenBucket K := { b with now }

def refill (added : K) : TokenBucket K :=
  { b with tokens := min (b.tokens + added) rules.burst, clock := b.clock + added / rules.rate }

def spend (amount : K) : TokenBucket K := { b with tokens := b.tokens - amount, spent := b.spent + amount }

def behind : K := rules.rate * (b.now - b.clock)

def level : K := b.tokens + b.behind rules

def Bounded (bound : K) : Prop := b.spent + b.level rules ≤ bound + rules.rate * b.now

/-- What the window from a start on has spent, if anything, is a burst, what was
behind at most, and what came in since. -/
def Windowed (start before slack : K) : Prop :=
  b.spent = before ∨ b.Bounded rules (before + (rules.burst + slack) - rules.rate * start)

variable [IsStrictOrderedRing K] {rules : Rules K} {b : TokenBucket K} {bound start before slack : K}

theorem Bounded.spent_le (bounded : b.Bounded rules bound) (tokens : 0 ≤ b.tokens) (behind : 0 ≤ b.behind rules) :
    b.spent ≤ bound + rules.rate * b.now := by
  unfold Bounded level at bounded
  linarith

theorem Bounded.wait (bounded : b.Bounded rules bound) (now : K) : (b.wait now).Bounded rules bound := by
  have still : b.spent + (b.tokens + rules.rate * (b.now - b.clock)) ≤ bound + rules.rate * b.now := bounded
  show b.spent + (b.tokens + rules.rate * (now - b.clock)) ≤ bound + rules.rate * now
  linarith

theorem refill_behind (rate : 0 < rules.rate) (added : K) :
    (b.refill rules added).behind rules = b.behind rules - added := by
  have moved : rules.rate * (added / rules.rate) = added := mul_div_cancel₀ added rate.ne'
  calc rules.rate * (b.now - (b.clock + added / rules.rate))
      = rules.rate * (b.now - b.clock) - rules.rate * (added / rules.rate) := by ring
    _ = b.behind rules - added := by rw [moved]; rfl

theorem Bounded.refill (bounded : b.Bounded rules bound) (rate : 0 < rules.rate) (added : K) :
    (b.refill rules added).Bounded rules bound := by
  have capped : (b.refill rules added).tokens ≤ b.tokens + added := min_le_left _ _
  have behind : (b.refill rules added).behind rules = b.behind rules - added := refill_behind rate added
  unfold Bounded level at *
  rw [behind]
  show b.spent + _ ≤ bound + rules.rate * b.now
  linarith

theorem Bounded.spend (bounded : b.Bounded rules bound) (amount : K) : (b.spend amount).Bounded rules bound := by
  have still : b.spent + (b.tokens + b.behind rules) ≤ bound + rules.rate * b.now := bounded
  show b.spent + amount + (b.tokens - amount + b.behind rules) ≤ bound + rules.rate * b.now
  linarith

theorem Bounded.first (b : TokenBucket K) : b.Bounded rules (b.spent + b.level rules - rules.rate * b.now) := by
  unfold Bounded
  linarith

theorem Windowed.wait (windowed : b.Windowed rules start before slack) (now : K) :
    (b.wait now).Windowed rules start before slack := windowed.imp id fun bounded => bounded.wait now

theorem Windowed.refill (windowed : b.Windowed rules start before slack) (rate : 0 < rules.rate) (added : K) :
    (b.refill rules added).Windowed rules start before slack :=
  windowed.imp id fun bounded => bounded.refill rate added

theorem Windowed.spend (windowed : b.Windowed rules start before slack) (rate : 0 < rules.rate) (later : start ≤ b.now)
    (full : b.tokens ≤ rules.burst) (prompt : b.behind rules ≤ slack) (amount : K) :
    (b.spend amount).Windowed rules start before slack := by
  refine Or.inr ?_
  rcases windowed with same | bounded
  · apply Bounded.spend
    have since : rules.rate * start ≤ rules.rate * b.now := mul_le_mul_of_nonneg_left later rate.le
    unfold Bounded level
    rw [same]
    linarith
  · exact bounded.spend amount

theorem Windowed.spent_le (windowed : b.Windowed rules start before slack) (rate : 0 < rules.rate)
    (later : start ≤ b.now) (tokens : 0 ≤ b.tokens) (behind : 0 ≤ b.behind rules) (room : 0 ≤ rules.burst + slack) :
    b.spent - before ≤ rules.burst + slack + rules.rate * (b.now - start) := by
  have since : 0 ≤ rules.rate * (b.now - start) := mul_nonneg rate.le (sub_nonneg.mpr later)
  rcases windowed with same | bounded
  · rw [same, sub_self]
    linarith
  · have spent := bounded.spent_le tokens behind
    linarith

end TokenBucket

end Lib
