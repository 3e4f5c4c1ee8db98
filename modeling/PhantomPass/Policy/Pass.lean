import Mathlib
import PhantomPass.Refinement.Select

/-! What update_policy_state does to the deficits: a receiver that can send gets
its quantum, the others lose what they had, and the quanta add up to one. -/

set_option autoImplicit false

namespace PhantomPass

open Lib (RoundRobin Store)

def Config.share (cfg : Config) (number : ℕ) (high : Option Addr) (addr : Addr) : ℚ :=
  if some addr = high then 1 / number * cfg.fsWeight + 1 * cfg.srptWeight else 1 / number * cfg.fsWeight

theorem Config.weights (cfg : Config) : cfg.fsWeight + cfg.srptWeight = 1 := by
  unfold fsWeight srptWeight
  split <;> ring

theorem Config.sum_share (cfg : Config) {able : Finset Addr} {high : Addr} (member : high ∈ able) :
    ∑ addr ∈ able, cfg.share able.card (some high) addr = 1 := by
  have split : ∀ addr ∈ able, cfg.share able.card (some high) addr =
      1 / able.card * cfg.fsWeight + if addr = high then cfg.srptWeight else 0 := by
    intro addr _
    unfold share
    simp only [Option.some.injEq]
    split <;> simp
  have some_able : (able.card : ℚ) ≠ 0 := Nat.cast_ne_zero.mpr (Finset.card_ne_zero_of_mem member)
  rw [Finset.sum_congr rfl split, Finset.sum_add_distrib, Finset.sum_const, Finset.sum_ite_eq' able high, if_pos member,
    nsmul_eq_mul, ← mul_assoc, mul_one_div_cancel some_able, one_mul]
  exact cfg.weights

namespace Sender

variable {env : Env} {s s' : Sender} {addr : Addr}

def deficit (s : Sender) (addr : Addr) : ℚ := (s.rcverPolicyStates addr).deficit

def quantum (s : Sender) (addr : Addr) : ℚ := (s.rcverPolicyStates addr).quantum

def canSend (s : Sender) (addr : Addr) : Bool := (s.rcverPolicyStates addr).canSend

def able (s : Sender) : Finset Addr := s.remotes.keys.toFinset.filter fun addr => s.canSend addr = true

theorem mem_able : addr ∈ s.able ↔ addr ∈ s.remotes.keys ∧ s.canSend addr = true := by
  unfold able
  rw [Finset.mem_filter, List.mem_toFinset]

/-- A sender's first loop of update_policy_state. -/
def firstPass (env : Env) (s : Sender) : Checked (Sender × PolicyPass) :=
  findCanSend env (env.plat.walk s.remotes.keys) s
    { strongestPrio := if env.cfg.senderPolicy = 2 then some 0 else none }

theorem nextPktBytes_bounds (unsentBytes : ℕ) :
    minEthernetFrameOnWire ≤ nextPktBytes unsentBytes ∧ nextPktBytes unsentBytes ≤ maxEthernetFrameOnWire := by
  unfold nextPktBytes
  simp only [minEthernetFrameOnWire, maxEthernetFrameOnWire, maxR2p2Payload, r2p2AllHeadersSize, interPktGapSize,
    ethernetPreambleSize]
  omega

theorem wantToSendLoop_succeeds (credit : ℕ) (queue : List UniqReqId) (ps : PolicyState) :
    ∃ ps', s.wantToSendLoop credit queue ps = .ok ps' := by
  induction queue generalizing ps with
  | nil => exact ⟨ps, rfl⟩
  | cons id rest ih =>
    have bounds := nextPktBytes_bounds (s.msg id).unsentBytes
    unfold wantToSendLoop
    apply Lib.bind_succeeds
    · unfold wantToSendTurn assert
      dsimp only
      rw [Lib.require_true _ bounds.1, Lib.require_true _ bounds.2]
      split
      · split <;> exact ⟨_, rfl⟩
      · exact ⟨_, rfl⟩
    · intro ps1 _
      exact ih ps1

theorem wantToSend_succeeds (plat : Platform) (s : Sender) (addr : Addr) : ∃ s', s.wantToSend plat addr = .ok s' := by
  unfold wantToSend
  dsimp only
  split
  · exact ⟨_, rfl⟩
  · apply Lib.bind_succeeds (wantToSendLoop_succeeds ..)
    intro ps _
    exact ⟨_, rfl⟩

/-- A pass has weighed the receivers that can send, among those it has seen. -/
structure Weighed (s : Sender) (seen : List Addr) (pass : PolicyPass) : Prop where
  count : pass.numCanSend = (seen.filter s.canSend).length
  prio : ∀ high, pass.rcverWithHighestPrio = some high → high ∈ seen ∧ s.canSend high = true
  flow : pass.numCanSend = 0 ∧ pass.strongestPrioFlow = none ∨ ∃ high, pass.rcverWithHighestPrioFlow = some high

theorem Weighed.congr {seen : List Addr} {pass : PolicyPass} (weighed : s.Weighed seen pass)
    (same : ∀ addr ∈ seen, s'.canSend addr = s.canSend addr) : s'.Weighed seen pass where
  count := by rw [weighed.count, List.filter_congr same]
  prio high selected := by
    obtain ⟨member, can⟩ := weighed.prio high selected
    exact ⟨member, (same high member).trans can⟩
  flow := weighed.flow

/-- How the preferred receiver is chosen: by data credit, or by the bytes left of its message. -/
def prefer (s : Sender) (policy : ℤ) (addr : Addr) (id : UniqReqId) (pass : PolicyPass) : Checked PolicyPass :=
  let unsent : ℤ := (s.msg id).unsentBytes
  let availData := (s.rcvr addr).availCreditDataBytes
  if policy = 2 then
    .ok (if pass.strongestPrio.elim false fun prio => decide (prio < availData) then
      { pass with strongestPrio := some availData, rcverWithHighestPrio := some addr } else pass)
  else if policy = 0 ∨ policy = 1 then
    .ok (if below unsent pass.strongestPrio then
      { pass with strongestPrio := some unsent, rcverWithHighestPrio := some addr } else pass)
  else .error (.thrown .updatePolicyState "Unknown sender policy")

def noteFlow (s : Sender) (addr : Addr) (id : UniqReqId) (pass : PolicyPass) : PolicyPass :=
  let unsent : ℤ := (s.msg id).unsentBytes
  if below unsent pass.strongestPrioFlow then
    { pass with strongestPrioFlow := some unsent, rcverWithHighestPrioFlow := some addr } else pass

theorem weigh_eq {policy : ℤ} {id : UniqReqId} (pass : PolicyPass)
    (state : (s.rcverPolicyStates addr).msgState = some id) :
    s.weigh policy addr pass =
      (s.prefer policy addr id { pass with numCanSend := pass.numCanSend + 1 }).map (s.noteFlow addr id) := by
  unfold weigh prefer noteFlow
  rw [state]
  dsimp only
  split_ifs <;> rfl

structure Prefers (addr : Addr) (pass pass' : PolicyPass) : Prop where
  count : pass'.numCanSend = pass.numCanSend
  strongest : pass'.strongestPrioFlow = pass.strongestPrioFlow
  flow : pass'.rcverWithHighestPrioFlow = pass.rcverWithHighestPrioFlow
  prio : pass'.rcverWithHighestPrio = some addr ∨ pass'.rcverWithHighestPrio = pass.rcverWithHighestPrio

theorem prefer_ok {policy : ℤ} {id : UniqReqId} {pass pass' : PolicyPass}
    (run : s.prefer policy addr id pass = .ok pass') :
    Prefers addr pass pass' := by
  unfold prefer at run
  dsimp only at run
  split_ifs at run <;> cases run
  · exact ⟨rfl, rfl, rfl, Or.inl rfl⟩
  · exact ⟨rfl, rfl, rfl, Or.inr rfl⟩
  · exact ⟨rfl, rfl, rfl, Or.inl rfl⟩
  · exact ⟨rfl, rfl, rfl, Or.inr rfl⟩

def PolicyKnown (cfg : Config) : Prop := cfg.senderPolicy = 0 ∨ cfg.senderPolicy = 1 ∨ cfg.senderPolicy = 2

theorem prefer_succeeds {cfg : Config} (known : PolicyKnown cfg) (id : UniqReqId) (pass : PolicyPass) :
    ∃ pass', s.prefer cfg.senderPolicy addr id pass = .ok pass' := by
  unfold prefer
  dsimp only
  by_cases two : cfg.senderPolicy = 2
  · rw [if_pos two]; exact ⟨_, rfl⟩
  · rw [if_neg two, if_pos (known.imp_right fun rest => rest.resolve_right two)]; exact ⟨_, rfl⟩

theorem consider_weighed {seen : List Addr} {pass pass' : PolicyPass} (weighed : s.Weighed seen pass)
    (run : s.consider env addr pass = .ok pass') : s.Weighed (seen ++ [addr]) pass' := by
  have old : ∀ high, pass.rcverWithHighestPrio = some high → high ∈ seen ++ [addr] ∧ s.canSend high = true := by
    intro high selected
    obtain ⟨member, can⟩ := weighed.prio high selected
    exact ⟨List.mem_append_left _ member, can⟩
  have count (number : ℕ) (here : (if s.canSend addr then 1 else 0) = number) :
      pass.numCanSend + number = ((seen ++ [addr]).filter s.canSend).length := by
    rw [List.filter_append, List.length_append, weighed.count, List.filter_singleton, ← here]
    cases s.canSend addr <;> rfl
  unfold consider at run
  by_cases can : (s.rcverPolicyStates addr).canSend = true
  · have here : s.canSend addr = true := can
    rw [if_pos can] at run
    cases state : (s.rcverPolicyStates addr).msgState with
    | none => unfold weigh at run; rw [state] at run; cases run
    | some id =>
      rw [weigh_eq pass state] at run
      cases chosen : s.prefer env.cfg.senderPolicy addr id { pass with numCanSend := pass.numCanSend + 1 } with
      | error fault => rw [chosen] at run; cases run
      | ok pass1 =>
        rw [chosen] at run
        cases run
        have prefers := prefer_ok chosen
        have number : pass1.numCanSend = ((seen ++ [addr]).filter s.canSend).length :=
          prefers.count.trans (count 1 (if_pos here))
        have prio : ∀ high, pass1.rcverWithHighestPrio = some high → high ∈ seen ++ [addr] ∧ s.canSend high = true := by
          intro high selected
          rcases prefers.prio with new | same
          · cases new.symm.trans selected
            exact ⟨List.mem_append_right _ (List.mem_singleton_self addr), here⟩
          · exact old high (same.symm.trans selected)
        unfold noteFlow
        dsimp only
        split
        · exact ⟨number, prio, Or.inr ⟨addr, rfl⟩⟩
        · next low =>
          refine ⟨number, prio, ?_⟩
          rcases weighed.flow with ⟨-, nothing⟩ | ⟨high, found⟩
          · -- the first flow seen is below MAXINT
            rw [prefers.strongest, nothing] at low
            exact absurd rfl low
          · exact Or.inr ⟨high, prefers.flow.trans found⟩
  · rw [if_neg can] at run
    simp only [Lib.bind_eq_ok, Lib.pure_eq_ok] at run
    obtain ⟨-, -, rfl⟩ := run
    exact ⟨count 0 (if_neg can), old, weighed.flow⟩

theorem consider_succeeds (known : PolicyKnown env.cfg) (pass : PolicyPass)
    (pick : s.PickOk addr (s.rcverPolicyStates addr))
    (idle : s.canSend addr = false → s.deficit addr = 0) : ∃ pass', s.consider env addr pass = .ok pass' := by
  unfold consider
  by_cases can : (s.rcverPolicyStates addr).canSend = true
  · rw [if_pos can]
    rcases pick with ⟨cannot, -⟩ | ⟨-, id, -, state, -⟩
    · exact absurd can (Bool.eq_false_iff.mp cannot)
    · obtain ⟨pass1, chosen⟩ := prefer_succeeds known id { pass with numCanSend := pass.numCanSend + 1 }
      rw [weigh_eq pass state, chosen]
      exact ⟨_, rfl⟩
  · rw [if_neg can]
    have zero : (s.rcverPolicyStates addr).deficit = 0 := idle (Bool.eq_false_iff.mpr can)
    unfold assert
    rw [Lib.require_true]
    · exact ⟨_, rfl⟩
    · rw [zero]; norm_num

/-- What the first loop leaves: deficits stay with the receivers that can send. -/
structure Passed (s s' : Sender) (order : List Addr) : Prop where
  able : ∀ addr ∈ order, s'.canSend addr = true → s'.deficit addr = s.deficit addr
  idle : ∀ addr ∈ order, s'.canSend addr = false → s'.deficit addr = 0

theorem findCanSend_passed {order seen : List Addr} {pass pass' : PolicyPass} (nodup : (seen ++ order).Nodup)
    (weighed : s.Weighed seen pass) (run : findCanSend env order s pass = .ok (s', pass')) :
    Passed s s' order ∧ s'.Weighed (seen ++ order) pass' := by
  -- `seen` are the receivers that the pass has looked at
  induction order generalizing s seen pass with
  | nil =>
    simp only [findCanSend, Lib.pure_eq_ok, Prod.mk.injEq] at run
    obtain ⟨rfl, rfl⟩ := run
    rw [List.append_nil]
    exact ⟨⟨by simp, by simp⟩, weighed⟩
  | cons addr rest ih =>
    have apart := nodup
    rw [List.nodup_append] at apart
    obtain ⟨-, fresh, other⟩ := apart
    have once : addr ∉ rest := (List.nodup_cons.mp fresh).1
    rw [← List.singleton_append, ← List.append_assoc] at nodup
    unfold findCanSend assert at run
    simp only [Lib.bind_eq_ok] at run
    obtain ⟨s1, wants, pass1, considered, -, -, loop⟩ := run
    have first := wantToSend_ok wants
    have weighed1 : s1.Weighed seen pass := weighed.congr fun old member => by
      unfold canSend
      rw [first.others old (other old member addr List.mem_cons_self)]
    obtain ⟨passed, weighed2⟩ := ih nodup (consider_weighed weighed1 considered) loop
    have untouched := (findCanSend_ok loop).2.2
    have kept : s'.rcverPolicyStates addr = s1.rcverPolicyStates addr := untouched addr once
    refine ⟨⟨fun here member can => ?_, fun here member cannot => ?_⟩, by rwa [List.append_assoc] at weighed2⟩
    · by_cases same : here = addr
      · subst same
        unfold canSend deficit at *
        rw [kept] at can ⊢
        exact first.share can
      · have later : here ∈ rest := (List.mem_cons.mp member).resolve_left same
        rw [passed.able here later can]
        unfold deficit
        rw [first.others here same]
    · by_cases same : here = addr
      · subst same
        unfold canSend deficit at *
        rw [kept] at cannot ⊢
        exact first.idle cannot
      · exact passed.idle here ((List.mem_cons.mp member).resolve_left same) cannot

theorem findCanSend_succeeds {order : List Addr} (known : PolicyKnown env.cfg) (pass : PolicyPass)
    (nonneg : ∀ addr ∈ order, 0 ≤ s.deficit addr) (nodup : order.Nodup) :
    ∃ result, findCanSend env order s pass = .ok result := by
  induction order generalizing s pass with
  | nil => exact ⟨_, rfl⟩
  | cons addr rest ih =>
    obtain ⟨once, rest_nodup⟩ := List.nodup_cons.mp nodup
    obtain ⟨s1, wants⟩ := wantToSend_succeeds env.plat s addr
    have first := wantToSend_ok wants
    obtain ⟨pass1, considered⟩ := consider_succeeds known pass first.pick first.idle
    have here : 0 ≤ (s1.rcverPolicyStates addr).deficit := by
      cases can : (s1.rcverPolicyStates addr).canSend with
      | true => rw [first.share can]; exact nonneg addr List.mem_cons_self
      | false => rw [first.idle can]
    have later : ∀ other ∈ rest, 0 ≤ s1.deficit other := by
      intro other member
      have apart : other ≠ addr := fun same => once (same ▸ member)
      unfold deficit
      rw [first.others other apart]
      exact nonneg other (List.mem_cons_of_mem _ member)
    obtain ⟨result, loop⟩ := ih pass1 later rest_nodup
    unfold findCanSend assert
    rw [wants, Lib.ok_bind, considered, Lib.ok_bind, Lib.require_true _ here]
    exact ⟨result, loop⟩

/-- Whether a pass has a preferred receiver as soon as it has seen one that can send. -/
def Preferring (pass : PolicyPass) : Prop :=
  pass.numCanSend = 0 ∧ pass.strongestPrio = none ∨ ∃ high, pass.rcverWithHighestPrio = some high

theorem Preferring.start (cfg : Config) (policy : cfg.senderPolicy ≠ 2) :
    Preferring { strongestPrio := if cfg.senderPolicy = 2 then some 0 else none } := Or.inl ⟨rfl, if_neg policy⟩

theorem consider_preferring {pass pass' : PolicyPass} (policy : env.cfg.senderPolicy ≠ 2) (preferring : Preferring pass)
    (run : s.consider env addr pass = .ok pass') : Preferring pass' := by
  unfold consider at run
  by_cases can : (s.rcverPolicyStates addr).canSend = true
  · rw [if_pos can] at run
    cases state : (s.rcverPolicyStates addr).msgState with
    | none => unfold weigh at run; rw [state] at run; cases run
    | some id =>
      rw [weigh_eq pass state] at run
      unfold prefer at run
      dsimp only at run
      rw [if_neg policy] at run
      -- the first receiver seen is below MAXINT
      have found : ∃ pass1 : PolicyPass, (∃ high, pass1.rcverWithHighestPrio = some high) ∧
        pass' = s.noteFlow addr id pass1 := by
        split_ifs at run with fair low <;> cases run
        · exact ⟨_, ⟨addr, rfl⟩, rfl⟩
        · refine ⟨_, ?_, rfl⟩
          rcases preferring with ⟨-, nothing⟩ | found
          · rw [nothing] at low
            exact absurd rfl low
          · exact found
      obtain ⟨pass1, ⟨high, found⟩, rfl⟩ := found
      unfold noteFlow
      dsimp only
      split
      · exact Or.inr ⟨high, found⟩
      · exact Or.inr ⟨high, found⟩
  · rw [if_neg can] at run
    simp only [Lib.bind_eq_ok, Lib.pure_eq_ok] at run
    obtain ⟨-, -, rfl⟩ := run
    exact preferring

theorem findCanSend_preferring {order : List Addr} {pass pass' : PolicyPass} (policy : env.cfg.senderPolicy ≠ 2)
    (preferring : Preferring pass) (run : findCanSend env order s pass = .ok (s', pass')) : Preferring pass' := by
  induction order generalizing s pass with
  | nil =>
    simp only [findCanSend, Lib.pure_eq_ok, Prod.mk.injEq] at run
    obtain ⟨-, rfl⟩ := run
    exact preferring
  | cons addr rest ih =>
    unfold findCanSend assert at run
    simp only [Lib.bind_eq_ok] at run
    obtain ⟨s1, -, pass1, considered, -, -, loop⟩ := run
    exact ih (consider_preferring policy preferring considered) loop

theorem PickOk.canSend_iff {ps : PolicyState} (pick : s.PickOk addr ps) :
    ps.canSend = true ↔ ∃ id ∈ (s.rcvr addr).outMsgs.msgs, s.Affords addr id := by
  rcases pick with ⟨cannot, -, nothing⟩ | ⟨can, id, member, -, affords, -⟩
  · rw [cannot]
    constructor
    · intro can; cases can
    · rintro ⟨id, member, affords⟩; exact absurd affords (nothing id member)
  · exact ⟨fun _ => ⟨id, member, affords⟩, fun _ => can⟩

instance (s : Sender) (addr : Addr) (id : UniqReqId) : Decidable (s.Affords addr id) :=
    inferInstanceAs (Decidable (_ ≤ _))

def ready (s : Sender) : Finset Addr :=
  s.remotes.keys.toFinset.filter fun addr => ∃ id ∈ (s.rcvr addr).outMsgs.msgs, s.Affords addr id

theorem mem_ready {addr : Addr} :
    addr ∈ s.ready ↔ addr ∈ s.remotes.keys ∧ ∃ id ∈ (s.rcvr addr).outMsgs.msgs, s.Affords addr id := by
  unfold ready
  rw [Finset.mem_filter, List.mem_toFinset]

theorem Chooses.ready (chooses : Chooses s s') : s'.ready = s.ready := by
  ext addr
  rw [mem_ready, mem_ready, chooses.remotes]
  simp only [chooses.affords, (chooses.queue addr).mem_iff]

theorem able_eq_ready (update : s.updatePolicyState env = .ok s') : s'.able = s.ready := by
  obtain ⟨chooses, picks⟩ := updatePolicyState_ok update
  rw [← chooses.ready]
  ext addr
  rw [mem_able, mem_ready]
  exact and_congr_right fun member => (picks addr member).canSend_iff

end Sender

end PhantomPass
