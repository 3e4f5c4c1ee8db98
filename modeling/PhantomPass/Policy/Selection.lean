import PhantomPass.Lib.CupGame
import PhantomPass.Policy.Quanta

/-! select_msg_to_send plays one round of the cup game: the receivers that can
send are the cups that take part. -/

set_option autoImplicit false

namespace PhantomPass

open Lib

namespace Sender

variable {order : List Addr} {states states' : Addr → PolicyState}

def deficitFault : Fault := .assertion .selectMsgToSend "ps_ret->deficit_ <= 10.0"

structure Highest (states : Addr → PolicyState) (order : List Addr) (ret ret' : Option Addr) (low high : ℚ) : Prop where
  start : low ≤ high
  all : ∀ addr ∈ order, (states addr).canSend = true → (states addr).deficit ≤ high
  found : ret' = ret ∧ high = low ∨ ∃ addr ∈ order, ret' = some addr ∧ (states addr).canSend = true ∧
    (states addr).deficit = high

theorem Highest.cons {next : Addr} {ret ret' : Option Addr} {low middle high : ℚ} {between : Option Addr}
    (rest : Highest states order between ret' middle high) (low_le : low ≤ middle)
    (holds : (states next).canSend = true → (states next).deficit ≤ middle) (here : between = ret ∧ middle = low ∨
      between = some next ∧ (states next).canSend = true ∧ (states next).deficit = middle) :
    Highest states (next :: order) ret ret' low high where
  start := le_trans low_le rest.start
  all addr member can := by
    rcases List.mem_cons.mp member with same | later
    · subst same; exact le_trans (holds can) rest.start
    · exact rest.all addr later can
  found := by
    rcases rest.found with ⟨same, level⟩ | ⟨addr, member, found⟩
    · rcases here with ⟨old, kept⟩ | ⟨new, can, level'⟩
      · exact Or.inl ⟨same.trans old, level.trans kept⟩
      · exact Or.inr ⟨next, List.mem_cons_self, same.trans new, can, level'.trans level.symm⟩
    · exact Or.inr ⟨addr, List.mem_cons_of_mem _ member, found⟩

theorem highestDeficit_highest {ret ret' : Option Addr} {low high : ℚ}
    (run : highestDeficit states order ret low = .ok (ret', high)) : Highest states order ret ret' low high := by
  -- `ret` is the best of the receivers scanned so far
  induction order generalizing ret low with
  | nil =>
    simp only [highestDeficit, Lib.pure_eq_ok, Prod.mk.injEq] at run
    obtain ⟨rfl, rfl⟩ := run
    exact ⟨le_refl _, by simp, Or.inl ⟨rfl, rfl⟩⟩
  | cons next rest ih =>
    unfold highestDeficit assert at run
    dsimp only at run
    by_cases can : (states next).canSend = true
    · rw [if_pos can] at run
      by_cases more : low < (states next).deficit
      · rw [if_pos more] at run
        simp only [Lib.bind_eq_ok] at run
        obtain ⟨-, -, -, -, run⟩ := run
        exact (ih run).cons more.le (fun _ => le_refl _) (Or.inr ⟨rfl, can, rfl⟩)
      · rw [if_neg more] at run
        exact (ih run).cons (le_refl _) (fun _ => not_lt.mp more) (Or.inl ⟨rfl, rfl⟩)
    · rw [if_neg can] at run
      simp only [Lib.bind_eq_ok] at run
      obtain ⟨-, -, run⟩ := run
      exact (ih run).cons (le_refl _) (fun sends => absurd sends can) (Or.inl ⟨rfl, rfl⟩)

/-- Policy states that pass the checks of select_msg_to_send. -/
structure Steady (states : Addr → PolicyState) (order : List Addr) : Prop where
  deficit : ∀ addr ∈ order, (states addr).canSend = true → 1 / 1000000 ≤ (states addr).deficit
  quantum : ∀ addr ∈ order, (states addr).canSend = true → 1 / 1000000 ≤ (states addr).quantum
  idle : ∀ addr ∈ order, (states addr).canSend = false → (states addr).deficit = 0

theorem Steady.tail {next : Addr} (steady : Steady states (next :: order)) : Steady states order where
  deficit addr member := steady.deficit addr (List.mem_cons_of_mem _ member)
  quantum addr member := steady.quantum addr (List.mem_cons_of_mem _ member)
  idle addr member := steady.idle addr (List.mem_cons_of_mem _ member)

theorem highestDeficit_error {ret : Option Addr} {low : ℚ} {fault : Fault}
    (run : highestDeficit states order ret low = .error fault) : fault ≠ deficitFault ∧ ¬ Steady states order := by
  induction order generalizing ret low with
  | nil => cases run
  | cons next rest ih =>
    unfold highestDeficit assert at run
    dsimp only at run
    cases can : (states next).canSend with
    | true =>
      rw [can, if_pos rfl] at run
      by_cases more : low < (states next).deficit
      · rw [if_pos more] at run
        simp only [Lib.bind_eq_error, Lib.require_eq_error] at run
        rcases run with ⟨small, rfl⟩ | ⟨_, _, ⟨small, rfl⟩ | ⟨_, _, later⟩⟩
        · exact ⟨by decide, fun steady => small (steady.deficit next List.mem_cons_self can)⟩
        · exact ⟨by decide, fun steady => small (steady.quantum next List.mem_cons_self can)⟩
        · exact (ih later).imp_right fun unsteady steady => unsteady steady.tail
      · rw [if_neg more] at run
        exact (ih run).imp_right fun unsteady steady => unsteady steady.tail
    | false =>
      rw [can, if_neg Bool.false_ne_true] at run
      simp only [Lib.bind_eq_error, Lib.require_eq_error] at run
      rcases run with ⟨large, rfl⟩ | ⟨_, _, later⟩
      · refine ⟨by decide, fun steady => large ?_⟩
        rw [steady.idle next List.mem_cons_self can]
        norm_num
      · exact (ih later).imp_right fun unsteady steady => unsteady steady.tail

theorem addQuanta_eq (nodup : order.Nodup) (run : addQuanta order states = .ok states') (addr : Addr) :
    states' addr = if addr ∈ order ∧ (states addr).canSend = true then
      { states addr with deficit := (states addr).deficit + (states addr).quantum } else states addr := by
  induction order generalizing states with
  | nil =>
    simp only [addQuanta, Lib.pure_eq_ok] at run
    subst run
    rw [if_neg (by simp)]
  | cons next rest ih =>
    obtain ⟨once, rest_nodup⟩ := List.nodup_cons.mp nodup
    unfold addQuanta assert at run
    dsimp only at run
    by_cases can : (states next).canSend = true
    · rw [if_pos can] at run
      simp only [Lib.bind_eq_ok] at run
      obtain ⟨-, -, run⟩ := run
      have later := ih rest_nodup run
      by_cases same : addr = next
      · subst same
        have here : addr ∈ addr :: rest ∧ (states addr).canSend = true := ⟨List.mem_cons_self, can⟩
        rw [later, if_neg fun both => once both.1, Function.update_self, if_pos here]
      · rw [later, Function.update_of_ne same]
        simp only [List.mem_cons, same, false_or]
    · rw [if_neg can] at run
      rw [ih rest_nodup run]
      by_cases same : addr = next
      · subst same
        rw [if_neg fun both => once both.1, if_neg fun both => can both.2]
      · simp only [List.mem_cons, same, false_or]

theorem addQuanta_error {fault : Fault} (nodup : order.Nodup) (run : addQuanta order states = .error fault) :
    fault ≠ deficitFault ∧ ¬ Steady states order := by
  induction order generalizing states with
  | nil => cases run
  | cons next rest ih =>
    obtain ⟨once, rest_nodup⟩ := List.nodup_cons.mp nodup
    unfold addQuanta assert at run
    dsimp only at run
    by_cases can : (states next).canSend = true
    · rw [if_pos can] at run
      simp only [Lib.bind_eq_error, Lib.require_eq_error] at run
      rcases run with ⟨small, rfl⟩ | ⟨_, _, later⟩
      · exact ⟨by decide, fun steady => small (steady.quantum next List.mem_cons_self can)⟩
      · refine (ih rest_nodup later).imp_right fun unsteady steady => unsteady ?_
        have apart : ∀ addr ∈ rest, Function.update states next
            { states next with deficit := (states next).deficit + (states next).quantum } addr = states addr := by
          intro addr member
          have other : addr ≠ next := fun same => once (same ▸ member)
          exact Function.update_of_ne other ..
        constructor
        · intro addr member; rw [apart addr member]; exact steady.tail.deficit addr member
        · intro addr member; rw [apart addr member]; exact steady.tail.quantum addr member
        · intro addr member; rw [apart addr member]; exact steady.tail.idle addr member
    · rw [if_neg can] at run
      exact (ih rest_nodup run).imp_right fun unsteady steady => unsteady steady.tail

/-- Policy states in the middle of a round: so many fillings were made on top of the deficits before. -/
structure Playing (able : Finset Addr) (quantum before : Addr → ℚ) (order : List Addr) (fillings : ℕ)
    (states : Addr → PolicyState) : Prop where
  able_order : ∀ addr ∈ able, addr ∈ order
  can : ∀ addr ∈ order, (states addr).canSend = true ↔ addr ∈ able
  level : ∀ addr ∈ order, (states addr).deficit = CupGame.filled able quantum before fillings addr
  quantum : ∀ addr ∈ able, (states addr).quantum = quantum addr

section Play

variable {able : Finset Addr} {quantum before : Addr → ℚ} {fillings : ℕ}

theorem Playing.next (playing : Playing able quantum before order fillings states) (nodup : order.Nodup)
    (run : addQuanta order states = .ok states') : Playing able quantum before order (fillings + 1) states' where
  able_order := playing.able_order
  can addr member := by rw [(addQuanta_ok run addr).1]; exact playing.can addr member
  level addr member := by
    rw [addQuanta_eq nodup run addr]
    by_cases inside : addr ∈ able
    · rw [if_pos ⟨member, (playing.can addr member).mpr inside⟩, CupGame.filled_succ fillings inside,
        ← playing.level addr member, ← playing.quantum addr inside]
    · rw [if_neg fun both => inside ((playing.can addr member).mp both.2), playing.level addr member,
        CupGame.filled_of_notMem _ inside, CupGame.filled_of_notMem _ inside]
  quantum addr inside := by
    rw [addQuanta_eq nodup run addr]
    split
    · exact playing.quantum addr inside
    · exact playing.quantum addr inside

theorem Playing.steady (playing : Playing able quantum before order (fillings + 1) states)
    (holds : ∀ addr ∈ able, 0 ≤ before addr) (quanta : ∀ addr ∈ able, 1 / 1000000 ≤ quantum addr) :
    Steady states order where
  deficit addr member can := by
    have inside := (playing.can addr member).mp can
    have more : quantum addr ≤ (fillings + 1 : ℕ) * quantum addr :=
      le_mul_of_one_le_left (by linarith [quanta addr inside])
        (by push_cast; exact le_add_of_nonneg_left (Nat.cast_nonneg _))
    rw [playing.level addr member, CupGame.filled, if_pos inside]
    linarith [holds addr inside, quanta addr inside]
  quantum addr member can := by
    have inside := (playing.can addr member).mp can
    rw [playing.quantum addr inside]
    exact quanta addr inside
  idle addr member cannot := by
    have outside : addr ∉ able := fun inside => by
      have can := (playing.can addr member).mpr inside
      rw [cannot] at can
      cases can
    rw [playing.level addr member, CupGame.filled_of_notMem _ outside]

inductive Outcome (able : Finset Addr) (quantum before : Addr → ℚ) (order : List Addr)
    (run : Checked (Option Addr × (Addr → PolicyState))) : Prop
  /-- nobody can send -/
  | idle (states : Addr → PolicyState) (nobody : able = ∅) (same : ∀ addr ∈ order, (states addr).deficit = 0)
      (done : run = .ok (none, states))
  | picked (states : Addr → PolicyState) (chosen : Addr) (after : Addr → ℚ) (extra : ℕ)
      (round : CupGame.Round able quantum before after chosen extra) (low : after chosen ≤ 10)
      (level : ∀ addr ∈ order, (states addr).deficit = after addr) (done : run = .ok (some chosen, states))
  /-- the last assertion fails -/
  | above (chosen : Addr) (after : Addr → ℚ) (extra : ℕ) (round : CupGame.Round able quantum before after chosen extra)
      (high : 10 < after chosen) (done : run = .error deficitFault)
  /-- another assertion fails, on a quantum below a millionth -/
  | stopped (fault : Fault) (other : fault ≠ deficitFault) (small : ∃ addr ∈ able, quantum addr < 1 / 1000000)
      (done : run = .error fault)

theorem selectRounds_outcome {rounds extra : ℕ} (nodup : order.Nodup) (holds : ∀ addr ∈ able, 0 ≤ before addr)
    (nonneg : ∀ addr ∈ able, 0 ≤ quantum addr) (playing : Playing able quantum before order (extra + 1) states)
    (short : 0 < extra → able.Nonempty ∧ ∀ addr ∈ able, CupGame.filled able quantum before extra addr < 1)
    (enough : 1000001 ≤ rounds + extra) : Outcome able quantum before order (selectRounds order rounds states) := by
  have small (unsteady : ¬ Steady states order) : ∃ addr ∈ able, quantum addr < 1 / 1000000 := by
    by_contra every
    push Not at every
    exact unsteady (playing.steady holds every)
  -- a round finds a receiver with at least one, or adds a quantum to each and goes on
  induction rounds generalizing extra states with
  | zero =>
    obtain ⟨some_able, below⟩ := short (by omega)
    obtain ⟨addr, inside⟩ := some_able
    refine .stopped _ (by decide) ⟨addr, inside, ?_⟩ rfl
    -- after a million fillings of a millionth the cup would be full
    have level := below addr inside
    rw [CupGame.filled, if_pos inside] at level
    by_contra large
    have many : (1000001 : ℚ) ≤ extra := by exact_mod_cast (by omega : 1000001 ≤ extra)
    have filled : 1000001 * (1 / 1000000) ≤ extra * quantum addr :=
      mul_le_mul many (not_lt.mp large) (by norm_num) (by positivity)
    linarith [holds addr inside]
  | succ rounds ih =>
    unfold selectRounds assert
    cases search : highestDeficit states order none (-1) with
    | error fault =>
      obtain ⟨other, unsteady⟩ := highestDeficit_error search
      exact .stopped fault other (small unsteady) rfl
    | ok result =>
      obtain ⟨ret, high⟩ := result
      have highest := highestDeficit_highest search
      have held : ∀ addr ∈ able, 0 ≤ (states addr).deficit := by
        intro addr inside
        rw [playing.level addr (playing.able_order addr inside), CupGame.filled, if_pos inside]
        exact add_nonneg (holds addr inside) (mul_nonneg (Nat.cast_nonneg _) (nonneg addr inside))
      cases ret with
      | none =>
        have nobody : able = ∅ := by
          apply Finset.eq_empty_of_forall_notMem
          intro addr inside
          have member := playing.able_order addr inside
          have most := highest.all addr member ((playing.can addr member).mpr inside)
          rcases highest.found with ⟨-, level⟩ | ⟨_, _, found, _⟩
          · linarith [held addr inside]
          · cases found
        refine .idle states nobody (fun addr member => ?_) rfl
        rw [playing.level addr member, CupGame.filled_of_notMem _ (by rw [nobody]; simp)]
      | some chosen =>
        obtain ⟨member, can, level⟩ : chosen ∈ order ∧ (states chosen).canSend = true ∧
          (states chosen).deficit = high := by
          rcases highest.found with ⟨found, -⟩ | ⟨addr, member, found, rest⟩
          · cases found
          · cases found; exact ⟨member, rest⟩
        have inside : chosen ∈ able := (playing.can chosen member).mp can
        have most : ∀ addr ∈ able, CupGame.filled able quantum before (extra + 1) addr ≤ high := by
          intro addr there
          have known := playing.able_order addr there
          rw [← playing.level addr known]
          exact highest.all addr known ((playing.can addr known).mpr there)
        dsimp only [Lib.ok_bind]
        by_cases low : high < 1
        · -- nobody has a full unit: all get their quantum once more
          rw [if_pos low]
          cases quanta : addQuanta order states with
          | error fault =>
            obtain ⟨other, unsteady⟩ := addQuanta_error nodup quanta
            exact .stopped fault other (small unsteady) rfl
          | ok states1 =>
            have next := playing.next nodup quanta
            apply ih next (fun _ => ⟨⟨chosen, inside⟩, fun addr there => lt_of_le_of_lt (most addr there) low⟩)
              (by omega)
            intro unsteady
            by_contra every
            push Not at every
            exact unsteady (next.steady holds every)
        · rw [if_neg low]
          have top : CupGame.filled able quantum before (extra + 1) chosen = high :=
            (playing.level chosen member).symm.trans level
          have round : CupGame.Round able quantum before
              (fun addr => CupGame.filled able quantum before (extra + 1) addr - if addr = chosen then 1
                else 0) chosen extra :=
            ⟨inside, top ▸ not_lt.mp low, fun addr there => top ▸ most addr there, fun pos =>
              (short pos).2, fun _ => rfl⟩
          by_cases bounded : (states chosen).deficit - 1 ≤ 10
          · rw [Lib.require_true _ bounded]
            refine .picked _ chosen _ extra round ?_ ?_ rfl
            · rw [if_pos rfl, top, ← level]; exact bounded
            · intro addr known
              by_cases same : addr = chosen
              · subst same; rw [Function.update_self, if_pos rfl, playing.level addr known]
              · rw [Function.update_of_ne same, if_neg same, sub_zero, playing.level addr known]
          · refine .above chosen _ extra round ?_ ?_
            · rw [if_pos rfl, top, ← level]; exact not_le.mp bounded
            · unfold Lib.require
              rw [if_neg bounded]
              rfl

end Play

end Sender

end PhantomPass
