import Mathlib
import PhantomPass.Policy.Pass

/-! Once update_policy_state is through, every receiver that can send has one
more quantum, and the others hold nothing. -/

set_option autoImplicit false

namespace PhantomPass

namespace Sender

variable {env : Env} {s s' : Sender} {addr : Addr}

def topUp (high highFlow : Addr) (highQuantum lowQuantum : ℚ) (addr : Addr) (ps : PolicyState) : PolicyState :=
  let quantum := if addr = high then highQuantum else lowQuantum
  { ps with deficit := ps.deficit + quantum, quantum := quantum, priorityFlow := decide (addr = highFlow) }

section Top

variable {high highFlow : Addr} {highQuantum lowQuantum : ℚ} {order : List Addr} {states states' : Addr → PolicyState}

theorem addDeficits_eq (nodup : order.Nodup)
    (run : addDeficits high highFlow highQuantum lowQuantum order states = .ok states') (addr : Addr) :
    states' addr = if addr ∈ order ∧ (states addr).canSend = true then
      topUp high highFlow highQuantum lowQuantum addr (states addr) else states addr := by
  induction order generalizing states with
  | nil =>
    simp only [addDeficits, Lib.pure_eq_ok] at run
    subst run
    rw [if_neg (by simp)]
  | cons next rest ih =>
    obtain ⟨once, rest_nodup⟩ := List.nodup_cons.mp nodup
    unfold addDeficits assert at run
    dsimp only at run
    by_cases can : (states next).canSend = true
    · rw [if_pos can] at run
      simp only [Lib.bind_eq_ok] at run
      obtain ⟨-, -, -, -, -, -, run⟩ := run
      have later := ih rest_nodup run
      by_cases same : addr = next
      · subst same
        have here : addr ∈ addr :: rest ∧ (states addr).canSend = true := ⟨List.mem_cons_self, can⟩
        rw [later, if_neg fun both => once both.1, Function.update_self, if_pos here]
        rfl
      · rw [later, Function.update_of_ne same]
        simp only [List.mem_cons, same, false_or]
    · rw [if_neg can] at run
      simp only [Lib.bind_eq_ok] at run
      obtain ⟨-, -, run⟩ := run
      rw [ih rest_nodup run]
      by_cases same : addr = next
      · subst same
        rw [if_neg fun both => once both.1, if_neg fun both => can both.2]
      · simp only [List.mem_cons, same, false_or]

theorem addDeficits_succeeds (nodup : order.Nodup) (able : ∀ addr ∈ order, (states addr).canSend = true →
      0 < (states addr).wantToSendBytes ∧ 0 ≤ (states addr).deficit ∧ (states addr).msgState ≠ none)
    (idle : ∀ addr ∈ order, (states addr).canSend = false → (states addr).deficit = 0) :
    ∃ states', addDeficits high highFlow highQuantum lowQuantum order states = .ok states' := by
  induction order generalizing states with
  | nil => exact ⟨states, rfl⟩
  | cons next rest ih =>
    obtain ⟨once, rest_nodup⟩ := List.nodup_cons.mp nodup
    unfold addDeficits assert
    dsimp only
    cases can : (states next).canSend with
    | true =>
      obtain ⟨want, nonneg, state⟩ := able next List.mem_cons_self can
      rw [if_pos rfl, Lib.require_true _ want, Lib.require_true _ nonneg, Lib.require_true _ state]
      apply ih rest_nodup
      · intro addr member
        have apart : addr ≠ next := fun same => once (same ▸ member)
        rw [Function.update_of_ne apart]
        exact able addr (List.mem_cons_of_mem _ member)
      · intro addr member
        have apart : addr ≠ next := fun same => once (same ▸ member)
        rw [Function.update_of_ne apart]
        exact idle addr (List.mem_cons_of_mem _ member)
    | false =>
      have zero := idle next List.mem_cons_self can
      have small : (states next).deficit < 1 / 1000000 := by rw [zero]; norm_num
      rw [if_neg Bool.false_ne_true, Lib.require_true _ small]
      apply ih rest_nodup
      · exact fun addr member => able addr (List.mem_cons_of_mem _ member)
      · exact fun addr member => idle addr (List.mem_cons_of_mem _ member)

end Top

/-- What update_policy_state leaves, with the receiver that it prefers. -/
structure Updated (cfg : Config) (s s' : Sender) (high : Option Addr) : Prop where
  remotes : s'.remotes.keys = s.remotes.keys
  idle : ∀ addr ∈ s'.remotes.keys, addr ∉ s'.able → s'.deficit addr = 0
  preferred : s'.able = ∅ ∨ ∃ first ∈ s'.able, high = some first
  deficit : ∀ addr ∈ s'.able, s'.deficit addr = s.deficit addr + cfg.share s'.able.card high addr
  quantum : ∀ addr ∈ s'.able, s'.quantum addr = cfg.share s'.able.card high addr
  nonneg : ∀ addr ∈ s'.able, 0 ≤ cfg.share s'.able.card high addr

theorem Weighed.card {order : List Addr} {pass : PolicyPass} (weighed : s.Weighed order pass)
    (perm : order.Perm s.remotes.keys) : pass.numCanSend = s.able.card := by
  have nodup : (order.filter s.canSend).Nodup := (perm.nodup_iff.mpr s.remotes.nodup).filter _
  rw [weighed.count, ← List.toFinset_card_of_nodup nodup]
  congr 1
  ext addr
  rw [mem_able, List.mem_toFinset, List.mem_filter, perm.mem_iff]

theorem firstPass_passed {pass : PolicyPass} (run : s.firstPass env = .ok (s', pass)) :
    Passed s s' s'.remotes.keys ∧ s'.Weighed (env.plat.walk s'.remotes.keys) pass ∧ s'.remotes.keys =
    s.remotes.keys := by
  have keys := (findCanSend_ok run).1.remotes
  have perm := env.plat.walk_perm s.remotes.keys
  have start : s.Weighed [] { strongestPrio := if env.cfg.senderPolicy = 2 then some 0 else none } :=
    ⟨rfl, fun _ nothing => (Option.some_ne_none _ nothing.symm).elim, Or.inl ⟨rfl, rfl⟩⟩
  obtain ⟨passed, weighed⟩ := findCanSend_passed (by simpa using perm.nodup_iff.mpr s.remotes.nodup) start run
  rw [keys]
  exact ⟨⟨fun addr member => passed.able addr (perm.mem_iff.mpr member),
    fun addr member => passed.idle addr (perm.mem_iff.mpr member)⟩, weighed, rfl⟩

theorem Updated.none_able {cfg : Config} (passed : Passed s s' s'.remotes.keys)
    (keys : s'.remotes.keys = s.remotes.keys) (empty : s'.able = ∅) (high : Option Addr) : Updated cfg s s' high where
  remotes := keys
  idle addr member outside := by
    have cannot : s'.canSend addr = false := Bool.eq_false_iff.mpr fun can => outside (mem_able.mpr ⟨member, can⟩)
    exact passed.idle addr member cannot
  preferred := Or.inl empty
  deficit := by rw [empty]; simp
  quantum := by rw [empty]; simp
  nonneg := by rw [empty]; simp

theorem updatePolicyState_updated (run : s.updatePolicyState env = .ok s') :
    ∃ s1 pass, s.firstPass env = .ok (s1, pass) ∧ Updated env.cfg s s' pass.rcverWithHighestPrio := by
  unfold updatePolicyState at run
  simp only [Lib.bind_eq_ok] at run
  obtain ⟨-, -, ⟨s1, pass⟩, find, run⟩ := run
  refine ⟨s1, pass, find, ?_⟩
  obtain ⟨passed, weighed, keys⟩ := firstPass_passed find
  have perm := env.plat.walk_perm s1.remotes.keys
  have number := weighed.card perm
  dsimp only at run
  by_cases none_can : pass.numCanSend = 0
  · rw [if_pos none_can, Lib.pure_eq_ok] at run
    subst run
    exact .none_able passed keys (Finset.card_eq_zero.mp (number.symm.trans none_can)) _
  · rw [if_neg none_can] at run
    split at run
    · cases run
    · cases run
    · next high highFlow prio _ =>
      unfold assert at run
      simp only [Lib.bind_eq_ok, Lib.require_eq_ok, exists_and_left, exists_const, Lib.pure_eq_ok] at run
      obtain ⟨-, low_nonneg, -, high_nonneg, -, states, deficits, rfl⟩ := run
      have order_nodup : (env.plat.walk s.remotes.keys).Nodup := (env.plat.walk_perm _).nodup_iff.mpr s.remotes.nodup
      have known : ∀ addr ∈ s1.remotes.keys, addr ∈ env.plat.walk s.remotes.keys := fun addr member =>
        (env.plat.walk_perm _).mem_iff.mpr (keys ▸ member)
      have state := fun addr => addDeficits_eq order_nodup deficits addr
      have can (addr : Addr) : (states addr).canSend = s1.canSend addr := by
        rw [(addDeficits_ok deficits addr).1]
        split <;> rfl
      have same_able : ({ s1 with rcverPolicyStates := states } : Sender).able = s1.able := by
        ext addr
        rw [mem_able, mem_able]
        exact and_congr_right fun _ => by unfold canSend at can ⊢; rw [can addr]
      have gets (addr : Addr) (member : addr ∈ s1.able) : (states addr).deficit = s.deficit addr +
          env.cfg.share s1.able.card (some high) addr ∧ (states addr).quantum = env.cfg.share s1.able.card
            (some high) addr := by
        obtain ⟨inside, sends⟩ := mem_able.mp member
        have here : (s1.rcverPolicyStates addr).canSend = true := sends
        have amount : (s1.rcverPolicyStates addr).deficit = s.deficit addr := passed.able addr inside sends
        rw [state addr]
        simp only [if_pos inside, here, known addr inside, and_self, if_true, topUp, amount, Config.share,
          Option.some.injEq, ← number]
      have nonneg (addr : Addr) : 0 ≤ env.cfg.share s1.able.card (some high) addr := by
        unfold Config.share
        rw [← number]
        split
        · exact high_nonneg
        · exact low_nonneg
      have first := weighed.prio high prio
      constructor
      case remotes => exact keys
      case idle =>
        intro addr member outside
        have cannot : s1.canSend addr = false :=
          Bool.eq_false_iff.mpr fun can => outside (same_able ▸ mem_able.mpr ⟨member, can⟩)
        have here : ¬ (s1.rcverPolicyStates addr).canSend = true := Bool.eq_false_iff.mp cannot
        have zero : (s1.rcverPolicyStates addr).deficit = 0 := passed.idle addr member cannot
        change (states addr).deficit = 0
        rw [state addr, if_pos (show addr ∈ s1.remotes.keys from member), if_neg fun both => here both.2, zero]
      case preferred =>
        rw [same_able, prio]
        exact Or.inr ⟨high, mem_able.mpr ⟨perm.mem_iff.mp first.1, first.2⟩, rfl⟩
      case deficit => rw [same_able, prio]; exact fun addr member => (gets addr member).1
      case quantum => rw [same_able, prio]; exact fun addr member => (gets addr member).2
      case nonneg => rw [prio, same_able]; exact fun addr _ => nonneg addr

/-- Quanta as update_policy_state asserts them. -/
structure Quanta (number : ℕ) (high low : ℚ) : Prop where
  unit : high + (number - 1) * low - 1 < 1 / 100000
  low : 0 ≤ low ∧ low ≤ 1
  high : 0 ≤ high ∧ high ≤ 1

theorem share_bounds {number : ℕ} {fs srpt : ℚ} (some_can : 0 < number) (fs_nonneg : 0 ≤ fs) (srpt_nonneg : 0 ≤ srpt)
    (unit : fs + srpt = 1) : Quanta number (1 / number * fs + 1 * srpt) (1 / number * fs) := by
  have pos : (0 : ℚ) < number := Nat.cast_pos.mpr some_can
  have least : (1 : ℚ) ≤ number := by exact_mod_cast some_can
  have part : 0 ≤ 1 / number * fs := mul_nonneg (by positivity) fs_nonneg
  have few : 1 / number * fs ≤ fs := mul_le_of_le_one_left fs_nonneg ((div_le_one pos).mpr least)
  have total : 1 / number * fs + 1 * srpt + (number - 1) * (1 / number * fs) = fs + srpt := by
    field_simp
    ring
  constructor
  · rw [total, unit]; norm_num
  · exact ⟨part, by linarith⟩
  · exact ⟨by linarith, by linarith⟩

/-- The update goes through for every policy that is implemented, when a receiver is preferred. -/
theorem updatePolicyState_succeeds (known : PolicyKnown env.cfg) (some_rcvr : s.remotes.keys ≠ [])
    (deficits : ∀ addr ∈ s.remotes.keys, 0 ≤ s.deficit addr) (ratio : 0 ≤ env.cfg.fsWeight ∧ 0 ≤ env.cfg.srptWeight)
    (preferred : ∀ s1 pass, s.firstPass env = .ok (s1, pass) → s1.able.Nonempty → pass.rcverWithHighestPrio ≠ none) :
    ∃ s', s.updatePolicyState env = .ok s' := by
  have order_nodup : (env.plat.walk s.remotes.keys).Nodup := (env.plat.walk_perm _).nodup_iff.mpr s.remotes.nodup
  have order_nonneg : ∀ addr ∈ env.plat.walk s.remotes.keys, 0 ≤ s.deficit addr := fun addr member =>
    deficits addr ((env.plat.walk_perm _).mem_iff.mp member)
  obtain ⟨⟨s1, pass⟩, find⟩ : ∃ result, s.firstPass env = .ok result :=
    findCanSend_succeeds known _ order_nonneg order_nodup
  obtain ⟨passed, weighed, keys⟩ := firstPass_passed find
  have picks := (findCanSend_ok find).2.1
  have number := weighed.card (env.plat.walk_perm s1.remotes.keys)
  unfold updatePolicyState assert
  unfold firstPass at find
  rw [Lib.require_true _ some_rcvr, Lib.ok_bind]
  dsimp only
  rw [find, Lib.ok_bind]
  dsimp only
  by_cases none_can : pass.numCanSend = 0
  · rw [if_pos none_can]; exact ⟨_, rfl⟩
  · rw [if_neg none_can]
    have some_can : s1.able.Nonempty := Finset.card_ne_zero.mp (number ▸ none_can)
    obtain ⟨high, prio⟩ := Option.ne_none_iff_exists'.mp (preferred s1 pass find some_can)
    obtain ⟨highFlow, flow⟩ := weighed.flow.resolve_left fun nothing => none_can nothing.1
    have quanta := share_bounds (Nat.pos_of_ne_zero none_can) ratio.1 ratio.2 env.cfg.weights
    rw [prio, flow]
    dsimp only
    rw [Lib.require_true _ quanta.unit, Lib.require_true _ quanta.low.1, Lib.require_true _ quanta.low.2,
      Lib.require_true _ quanta.high.1, Lib.require_true _ quanta.high.2]
    simp only [Lib.ok_bind]
    apply Lib.bind_succeeds
    · apply addDeficits_succeeds order_nodup
      · intro addr member can
        have inside : addr ∈ s1.remotes.keys := keys ▸ (env.plat.walk_perm _).mem_iff.mp member
        rw [if_pos inside] at can ⊢
        rcases picks addr member with ⟨cannot, -⟩ | ⟨-, id, -, state, -, bytes, -⟩
        · exact absurd can (Bool.eq_false_iff.mp cannot)
        · have amount : (s1.rcverPolicyStates addr).deficit = s.deficit addr := passed.able addr inside can
          have want : 0 < (s1.rcverPolicyStates addr).wantToSendBytes := by
            rw [bytes]
            exact lt_of_lt_of_le (by decide) (nextPktBytes_bounds _).1
          exact ⟨want, amount ▸ order_nonneg addr member, by rw [state]; exact Option.some_ne_none id⟩
      · intro addr member cannot
        have inside : addr ∈ s1.remotes.keys := keys ▸ (env.plat.walk_perm _).mem_iff.mp member
        rw [if_pos inside] at cannot ⊢
        exact passed.idle addr inside cannot
    · exact fun states _ => ⟨_, rfl⟩

end Sender

end PhantomPass
