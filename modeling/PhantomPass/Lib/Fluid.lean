import Mathlib

/-! A queue of bounded length that drains all the time, and one that makes up
for the drain only when something leaves, for all the time since the last
leaving. The late one is never longer than the other, shorter by at most what
drains in one gap between leavings, and as long while neither bound is met. -/

set_option autoImplicit false

namespace Lib.Fluid

variable {K : Type*} [Field K] [LinearOrder K]

structure Rules (K : Type*) where
  rate : K
  limit : K

def Rules.drain (rules : Rules K) (since : Option K) (now : K) : K :=
  match since with
  | none => 0
  | some since => rules.rate * (now - since)

/-- Something that enters or leaves, and what it adds to the length. -/
structure Flow (K : Type*) where
  time : K
  amount : K
  leaves : Bool

def leavings (flows : List (Flow K)) : List K :=
  flows.filterMap fun x => if x.leaves then some x.time else none

/-- The continuous queue, and the moment of its last change; no moment while
it does not drain yet. -/
structure Level (K : Type*) where
  length : K
  clock : Option K

def Level.drained (rules : Rules K) (q : Level K) (now : K) : K :=
  max 0 (q.length - rules.drain q.clock now)

/-- A queue that does not drain yet starts to at the first leaving. -/
def Level.step (rules : Rules K) (q : Level K) (x : Flow K) : Level K where
  length := min rules.limit (q.drained rules x.time + x.amount)
  clock := if x.leaves then some x.time else q.clock.map fun _ => x.time

/-- The queue that drains late, and when something last left it. -/
structure Late (K : Type*) where
  length : K
  last : Option K

/-- The length when something leaves, before the bound is put on. -/
def Late.left (rules : Rules K) (q : Late K) (x : Flow K) : K :=
  max 0 (q.length + x.amount - rules.drain q.last x.time)

def Late.step (rules : Rules K) (q : Late K) (x : Flow K) : Late K where
  length := min rules.limit (if x.leaves then q.left rules x else q.length + x.amount)
  last := if x.leaves then some x.time else q.last

structure Pair (K : Type*) where
  level : Level K
  late : Late K

namespace Pair

def step (rules : Rules K) (q : Pair K) (x : Flow K) : Pair K where
  level := q.level.step rules x
  late := q.late.step rules x

def run (rules : Rules K) (q : Pair K) (flows : List (Flow K)) : Pair K := flows.foldl (step rules) q

def Along (rules : Rules K) (holds : Pair K → Flow K → Prop) : Pair K → List (Flow K) → Prop
  | _, [] => True
  | q, x :: flows => holds q x ∧ Along rules holds (q.step rules x) flows

theorem run_level (rules : Rules K) (q : Pair K) (flows : List (Flow K)) :
    (q.run rules flows).level = flows.foldl (Level.step rules) q.level := by
  induction flows generalizing q with
  | nil => rfl
  | cons x flows ih => exact ih _

theorem run_late (rules : Rules K) (q : Pair K) (flows : List (Flow K)) :
    (q.run rules flows).late = flows.foldl (Late.step rules) q.late := by
  induction flows generalizing q with
  | nil => rfl
  | cons x flows ih => exact ih _

def empty : Pair K := ⟨⟨0, none⟩, ⟨0, none⟩⟩

end Pair

/-- Nothing takes from a queue, time goes on, and no leaving is further than
the gap from the one before. -/
structure Admits (gap : K) (q : Pair K) (x : Flow K) : Prop where
  amount : 0 ≤ x.amount
  later : ∀ clock ∈ q.level.clock, clock ≤ x.time
  gap : x.leaves → ∀ last ∈ q.late.last, x.time - last ≤ gap

theorem along_admits {rules : Rules K} {gap : K} (flows : List (Flow K)) {q : Pair K}
    (amounts : ∀ x ∈ flows, 0 ≤ x.amount) (ordered : (flows.map Flow.time).Pairwise (· ≤ ·))
    (later : ∀ clock ∈ q.level.clock, ∀ x ∈ flows, clock ≤ x.time)
    (gaps : (q.late.last.toList ++ leavings flows).IsChain fun s t => t - s ≤ gap) :
    q.Along rules (Admits gap) flows := by
  induction flows generalizing q with
  | nil => trivial
  | cons x flows ih =>
    simp only [List.map_cons, List.pairwise_cons, List.mem_map, forall_exists_index, and_imp,
      forall_apply_eq_imp_iff₂] at ordered
    refine ⟨⟨amounts x (by simp), fun clock mem => later clock mem x (by simp), fun leaves last mem => ?_⟩,
      ih (fun y mem => amounts y (by simp [mem])) ordered.2 (fun clock mem y there => ?_) ?_⟩
    · rw [Option.mem_def] at mem
      have chain : (last :: x.time :: leavings flows).IsChain fun s t => t - s ≤ gap := by
        simpa [leavings, leaves, mem] using gaps
      exact chain.rel
    · simp only [Pair.step, Level.step, Option.mem_def] at mem
      split at mem
      · cases mem
        exact ordered.1 y there
      · obtain ⟨-, -, rfl⟩ := Option.map_eq_some_iff.mp mem
        exact ordered.1 y there
    · simp only [Pair.step, Late.step]
      cases leaves : x.leaves with
      | false => simpa [leavings, leaves] using gaps
      | true =>
        have chain : (x.time :: leavings flows).IsChain fun s t => t - s ≤ gap := by
          have all := gaps.right_of_append
          simpa [leavings, leaves] using all
        simpa using chain

/-- How the two queues compare once both have seen the same flows; `owed` is
what the late one had still to drain at its last change. -/
structure Tracks (rules : Rules K) (gap : K) (q : Pair K) (owed : K) : Prop where
  pending : ∀ now, rules.drain q.late.last now = owed + rules.drain q.level.clock now
  owes : 0 ≤ owed
  level : 0 ≤ q.level.length ∧ q.level.length ≤ rules.limit
  late : 0 ≤ q.late.length ∧ q.late.length ≤ rules.limit
  below : q.late.length - owed ≤ q.level.length
  near : q.level.length ≤ q.late.length - owed + max (rules.rate * gap) owed

theorem Pair.along_append {rules : Rules K} {holds : Pair K → Flow K → Prop} (q : Pair K)
    (before after : List (Flow K)) : q.Along rules holds (before ++ after) ↔
      q.Along rules holds before ∧ (q.run rules before).Along rules holds after := by
  induction before generalizing q with
  | nil => simp [Pair.Along, Pair.run]
  | cons x before ih => simp only [List.cons_append, Pair.Along, ih, and_assoc, Pair.run, List.foldl_cons]

theorem Tracks.empty {rules : Rules K} {gap : K} (room : 0 ≤ rules.limit) : Tracks rules gap Pair.empty 0 where
  pending _ := by simp [Pair.empty, Rules.drain]
  owes := le_rfl
  level := ⟨le_rfl, room⟩
  late := ⟨le_rfl, room⟩
  below := by simp [Pair.empty]
  near := by simp [Pair.empty]

variable [IsStrictOrderedRing K]

theorem Rules.drain_nonneg (rules : Rules K) (draining : 0 ≤ rules.rate) {since : Option K} {now : K}
    (later : ∀ s ∈ since, s ≤ now) : 0 ≤ rules.drain since now := by
  cases since with
  | none => exact le_rfl
  | some s => exact mul_nonneg draining (sub_nonneg.mpr (later s rfl))

theorem Rules.drain_le (rules : Rules K) (draining : 0 ≤ rules.rate) {since : Option K} {now gap : K}
    (nonneg : 0 ≤ gap) (within : ∀ s ∈ since, now - s ≤ gap) :
    rules.drain since now ≤ rules.rate * gap := by
  cases since with
  | none => exact mul_nonneg draining nonneg
  | some s => exact mul_le_mul_of_nonneg_left (within s rfl) draining

section Step

variable {rules : Rules K} {gap owed : K} {q : Pair K} {x : Flow K}

theorem Tracks.enter (tracks : Tracks rules gap q owed) (draining : 0 ≤ rules.rate)
    (admits : Admits gap q x) (enters : x.leaves = false) :
    Tracks rules gap (q.step rules x) (rules.drain q.late.last x.time) := by
  have more := rules.drain_nonneg draining admits.later
  have pending := tracks.pending x.time
  have owes := tracks.owes
  have amount := admits.amount
  obtain ⟨level₀, level₁⟩ := tracks.level
  obtain ⟨late₀, late₁⟩ := tracks.late
  have below := tracks.below
  have near := tracks.near
  have gapOwed : max (rules.rate * gap) owed ≤ max (rules.rate * gap) (rules.drain q.late.last x.time) :=
    max_le_max le_rfl (by linarith)
  have owedGap := le_max_right (rules.rate * gap) (rules.drain q.late.last x.time)
  have floor := le_max_left 0 (q.level.length - rules.drain q.level.clock x.time)
  refine ⟨fun now => ?_, by linarith, ⟨?_, min_le_left _ _⟩, ⟨?_, min_le_left _ _⟩, ?_, ?_⟩
  · have later := tracks.pending now
    simp only [Pair.step, Level.step, Late.step, enters, Bool.false_eq_true, if_false]
    cases clock : q.level.clock with
    | none => simp only [clock, Rules.drain, Option.map_none] at pending later ⊢; linarith
    | some s => simp only [clock, Rules.drain, Option.map_some] at pending later ⊢; linarith
  · exact le_min (level₀.trans level₁) (by unfold Level.drained; linarith)
  · exact le_min (late₀.trans late₁) (by rw [enters]; simpa using by linarith)
  · simp only [Pair.step, Level.step, Late.step, Level.drained, enters, Bool.false_eq_true, if_false]
    refine le_min (by linarith [min_le_left rules.limit (q.late.length + x.amount)]) ?_
    have sum := min_le_right rules.limit (q.late.length + x.amount)
    linarith [le_max_right 0 (q.level.length - rules.drain q.level.clock x.time)]
  · simp only [Pair.step, Level.step, Late.step, Level.drained, enters, Bool.false_eq_true, if_false]
    -- the late queue is cut at the bound, the other is empty, or neither
    rcases min_choice rules.limit (q.late.length + x.amount) with cut | uncut
    · linarith [min_le_left rules.limit (max 0 (q.level.length - rules.drain q.level.clock x.time) + x.amount)]
    · have sum := min_le_right rules.limit (max 0 (q.level.length - rules.drain q.level.clock x.time) + x.amount)
      rcases max_choice 0 (q.level.length - rules.drain q.level.clock x.time) with empty | left <;> linarith

theorem Tracks.leave (tracks : Tracks rules gap q owed) (draining : 0 ≤ rules.rate) (wide : 0 ≤ gap)
    (admits : Admits gap q x) (leaves : x.leaves = true) : Tracks rules gap (q.step rules x) 0 := by
  have pending := tracks.pending x.time
  have more := rules.drain_nonneg draining admits.later
  have short := rules.drain_le draining wide (admits.gap leaves)
  have owes := tracks.owes
  have amount := admits.amount
  obtain ⟨level₀, level₁⟩ := tracks.level
  obtain ⟨late₀, late₁⟩ := tracks.late
  have below := tracks.below
  have near := tracks.near
  have reach : max (rules.rate * gap) owed = rules.rate * gap := max_eq_left (by linarith)
  have wideGap : 0 ≤ rules.rate * gap := mul_nonneg draining wide
  have floor := le_max_left 0 (q.level.length - rules.drain q.level.clock x.time)
  have rest := le_max_right 0 (q.level.length - rules.drain q.level.clock x.time)
  have lateFloor := le_max_left 0 (q.late.length + x.amount - rules.drain q.late.last x.time)
  have lateRest := le_max_right 0 (q.late.length + x.amount - rules.drain q.late.last x.time)
  simp only [reach] at near
  refine ⟨fun now => ?_, le_rfl, ⟨?_, min_le_left _ _⟩, ⟨?_, min_le_left _ _⟩, ?_, ?_⟩
  · simp [Pair.step, Level.step, Late.step, leaves]
  · exact le_min (level₀.trans level₁) (by unfold Level.drained; linarith)
  · exact le_min (late₀.trans late₁) (by rw [leaves]; exact lateFloor)
  · simp only [Pair.step, Level.step, Late.step, Level.drained, Late.left, leaves, if_true, sub_zero]
    refine min_le_min le_rfl (max_le (by linarith) ?_)
    linarith
  · simp only [Pair.step, Level.step, Late.step, Level.drained, Late.left, leaves, if_true, sub_zero,
      max_eq_left wideGap]
    rcases min_choice rules.limit (max 0 (q.late.length + x.amount - rules.drain q.late.last x.time))
      with cut | uncut
    · linarith [min_le_left rules.limit (max 0 (q.level.length - rules.drain q.level.clock x.time) + x.amount)]
    · have sum := min_le_right rules.limit (max 0 (q.level.length - rules.drain q.level.clock x.time) + x.amount)
      rcases max_choice 0 (q.level.length - rules.drain q.level.clock x.time) with empty | left <;> linarith

theorem Tracks.step (tracks : Tracks rules gap q owed) (draining : 0 ≤ rules.rate) (wide : 0 ≤ gap)
    (admits : Admits gap q x) : ∃ owed', Tracks rules gap (q.step rules x) owed' := by
  cases leaves : x.leaves with
  | false => exact ⟨_, tracks.enter draining admits leaves⟩
  | true => exact ⟨_, tracks.leave draining wide admits leaves⟩

/-- Neither queue meets a bound, the late one not even with what it owes. -/
structure Clear (rules : Rules K) (q : Pair K) (x : Flow K) : Prop where
  holds : rules.drain q.level.clock x.time ≤ q.level.length
  fits : q.level.length - rules.drain q.level.clock x.time + x.amount ≤ rules.limit
  fitsLate : x.leaves = false →
    q.level.length - rules.drain q.level.clock x.time + x.amount + rules.drain q.late.last x.time ≤ rules.limit

theorem Tracks.left_eq (tracks : Tracks rules gap q owed) (admits : Admits gap q x) (clear : Clear rules q x)
    (equal : q.level.length = q.late.length - owed) :
    q.late.left rules x = q.level.length - rules.drain q.level.clock x.time + x.amount := by
  have pending := tracks.pending x.time
  have left : q.late.left rules x = q.late.length + x.amount - rules.drain q.late.last x.time :=
    max_eq_right (by linarith [admits.amount, clear.holds])
  rw [left]
  linarith

theorem Clear.level (clear : Clear rules q x) :
    (q.step rules x).level.length = q.level.length - rules.drain q.level.clock x.time + x.amount := by
  have drained : q.level.drained rules x.time = q.level.length - rules.drain q.level.clock x.time :=
    max_eq_right (sub_nonneg.mpr clear.holds)
  simp only [Pair.step, Level.step, drained]
  exact min_eq_right clear.fits

/-- Away from the bounds the queues differ by what the late one owes, which
is nothing once something has left. -/
theorem Tracks.exact (tracks : Tracks rules gap q owed) (admits : Admits gap q x) (clear : Clear rules q x)
    (equal : q.level.length = q.late.length - owed) :
    (q.step rules x).level.length = (q.step rules x).late.length -
      if x.leaves then 0 else rules.drain q.late.last x.time := by
  have pending := tracks.pending x.time
  rw [clear.level]
  cases leaves : x.leaves with
  | false =>
    have fits := clear.fitsLate leaves
    have late : (q.step rules x).late.length = q.late.length + x.amount := by
      simp only [Pair.step, Late.step, leaves, Bool.false_eq_true, if_false]
      exact min_eq_right (by linarith)
    rw [late]
    simp only [Bool.false_eq_true, if_false]
    linarith
  | true =>
    have left := tracks.left_eq admits clear equal
    have late : (q.step rules x).late.length =
        q.level.length - rules.drain q.level.clock x.time + x.amount := by
      simp only [Pair.step, Late.step, leaves, if_true, left]
      exact min_eq_right clear.fits
    rw [late]
    simp only [if_true, sub_zero]

end Step

section Run

variable {rules : Rules K} {gap : K}

theorem Tracks.run (draining : 0 ≤ rules.rate) (wide : 0 ≤ gap) (flows : List (Flow K)) {q : Pair K}
    {owed : K} (tracks : Tracks rules gap q owed) (admits : q.Along rules (Admits gap) flows) :
    ∃ owed', Tracks rules gap (q.run rules flows) owed' := by
  induction flows generalizing q owed with
  | nil => exact ⟨owed, tracks⟩
  | cons x flows ih =>
    obtain ⟨owed', next⟩ := tracks.step draining wide admits.1
    exact ih next admits.2

theorem Tracks.run_exact (draining : 0 ≤ rules.rate) (wide : 0 ≤ gap) (flows : List (Flow K)) {q : Pair K}
    {owed : K} (tracks : Tracks rules gap q owed) (admits : q.Along rules (Admits gap) flows)
    (clear : q.Along rules (Clear rules) flows) (equal : q.level.length = q.late.length - owed) :
    ∃ owed', Tracks rules gap (q.run rules flows) owed' ∧
      (q.run rules flows).level.length = (q.run rules flows).late.length - owed' := by
  induction flows generalizing q owed with
  | nil => exact ⟨owed, tracks, equal⟩
  | cons x flows ih =>
    have next := tracks.exact admits.1 clear.1 equal
    cases leaves : x.leaves with
    | false =>
      rw [leaves] at next
      exact ih (tracks.enter draining admits.1 leaves) admits.2 clear.2 next
    | true =>
      rw [leaves] at next
      exact ih (tracks.leave draining wide admits.1 leaves) admits.2 clear.2 next

/-- Whenever something leaves, the late queue is at most as long as the other,
and shorter by no more than drains in one gap. -/
theorem late_close (draining : 0 ≤ rules.rate) (wide : 0 ≤ gap) (room : 0 ≤ rules.limit)
    (flows : List (Flow K)) (x : Flow K) (leaves : x.leaves = true)
    (admits : Pair.empty.Along rules (Admits gap) (flows ++ [x])) :
    ((Pair.empty.run rules flows).step rules x).late.length ≤
        ((Pair.empty.run rules flows).step rules x).level.length ∧
      ((Pair.empty.run rules flows).step rules x).level.length ≤
        ((Pair.empty.run rules flows).step rules x).late.length + rules.rate * gap := by
  obtain ⟨before, last, -⟩ := (Pair.along_append _ _ _).mp admits
  obtain ⟨owed, tracks⟩ := (Tracks.empty room).run draining wide flows before
  have next := tracks.leave draining wide last leaves
  have below := next.below
  have near := next.near
  rw [max_eq_left (mul_nonneg draining wide)] at near
  exact ⟨by linarith, by linarith⟩

theorem late_exact (draining : 0 ≤ rules.rate) (wide : 0 ≤ gap) (room : 0 ≤ rules.limit)
    (flows : List (Flow K)) (x : Flow K) (admits : Pair.empty.Along rules (Admits gap) (flows ++ [x]))
    (clear : Pair.empty.Along rules (Clear rules) (flows ++ [x])) :
    (Pair.empty.run rules flows).late.left rules x =
      ((Pair.empty.run rules flows).step rules x).level.length := by
  obtain ⟨before, last, -⟩ := (Pair.along_append _ _ _).mp admits
  obtain ⟨clearBefore, clearLast, -⟩ := (Pair.along_append _ _ _).mp clear
  obtain ⟨owed, tracks, equal⟩ :=
    (Tracks.empty room).run_exact draining wide flows before clearBefore (by simp [Pair.empty])
  rw [tracks.left_eq last clearLast equal, clearLast.level]

end Run

end Lib.Fluid
