import PhantomPass.Deployment
import PhantomPass.Policy.Pass
import PhantomPass.Refinement.SendData

/-! What want_to_send chooses for a receiver: a message that is not announced
whenever one can be paid for, the one with the fewest bytes left otherwise. -/

set_option autoImplicit false

namespace PhantomPass

open Lib (RoundRobin)

namespace Sender

variable {env : Env} {s s' : Sender} {addr : Addr}

/-- A chosen message that is announced has the fewest bytes left of those seen that can be paid for. -/
def Least (s : Sender) (addr : Addr) (seen : List UniqReqId) (ps : PolicyState) : Prop :=
  ∀ id, ps.msgState = some id → (s.msg id).sentAnouncement = true →
    ∀ other ∈ seen, s.Affords addr other → (s.msg id).unsentBytes ≤ (s.msg other).unsentBytes

/-- The messages come by the bytes they have left, so that the first to be paid for has the fewest. -/
theorem wantToSendTurn_least {ps ps' : PolicyState} {seen : List UniqReqId} {id : UniqReqId}
    (found : s.Found addr seen ps)
    (least : s.Least addr seen ps) (sorted : ∀ before ∈ seen, (s.msg before).unsentBytes ≤ (s.msg id).unsentBytes)
    (run : s.wantToSendTurn (toUInt64 (s.rcvr addr).availCreditBytes) id ps = .ok ps') :
    s.Least addr (seen ++ [id]) ps' := by
  unfold wantToSendTurn assert at run
  simp only [Lib.bind_eq_ok, Lib.require_eq_ok, exists_and_left, exists_const] at run
  obtain ⟨-, -, run⟩ := run
  by_cases afford : nextPktBytes (s.msg id).unsentBytes ≤ toUInt64 (s.rcvr addr).availCreditBytes
  · rw [if_pos afford] at run
    by_cases keep : ps.canSend = true ∧ (s.msg id).sentAnouncement = true
    · rw [if_pos keep, Lib.pure_eq_ok] at run
      subst run
      intro best state announced other member pays
      rcases List.mem_append.mp member with old | new
      · exact least best state announced other old pays
      · -- the message kept was seen before this one
        rw [List.mem_singleton.mp new]
        rcases found with ⟨-, nothing, -⟩ | ⟨-, chosen, inside, named, -⟩
        · rw [nothing] at state
          cases state
        · rw [named] at state
          cases state
          exact sorted _ inside
    · rw [if_neg keep, Lib.pure_eq_ok] at run
      subst run
      intro best state announced other member pays
      cases state
      rcases List.mem_append.mp member with old | new
      · -- an announced message is only taken when no other one could be paid for
        rcases found with ⟨-, -, nothing⟩ | ⟨can, -⟩
        · exact absurd pays (nothing other old)
        · exact absurd ⟨can, announced⟩ keep
      · rw [List.mem_singleton.mp new]
  · rw [if_neg afford, Lib.pure_eq_ok] at run
    subst run
    intro best state announced other member pays
    rcases List.mem_append.mp member with old | new
    · exact least best state announced other old pays
    · rw [List.mem_singleton.mp new] at pays
      exact absurd pays afford

theorem wantToSendLoop_least {ps ps' : PolicyState} {seen queue : List UniqReqId} (found : s.Found addr seen ps)
    (least : s.Least addr seen ps)
    (sorted : (seen ++ queue).Pairwise fun a b => (s.msg a).unsentBytes ≤ (s.msg b).unsentBytes)
    (run : s.wantToSendLoop (toUInt64 (s.rcvr addr).availCreditBytes) queue ps = .ok ps') :
    s.Least addr (seen ++ queue) ps' := by
  induction queue generalizing seen ps with
  | nil =>
    simp only [wantToSendLoop, Lib.pure_eq_ok] at run
    subst run
    rw [List.append_nil]
    exact least
  | cons id rest ih =>
    simp only [wantToSendLoop, Lib.bind_eq_ok] at run
    obtain ⟨ps1, turn, rest⟩ := run
    have behind : ∀ before ∈ seen, (s.msg before).unsentBytes ≤ (s.msg id).unsentBytes :=
      fun before inside => (List.pairwise_append.mp sorted).2.2 before inside id List.mem_cons_self
    rw [← List.singleton_append, ← List.append_assoc] at sorted ⊢
    exact ih (wantToSendTurn_ok found turn).1 (wantToSendTurn_least found least behind turn) sorted rest

theorem wantToSend_least (run : s.wantToSend env.plat addr = .ok s') :
    s.Least addr (s.rcvr addr).outMsgs.msgs (s'.rcverPolicyStates addr) := by
  unfold wantToSend at run
  dsimp only at run
  by_cases empty : (s.rcvr addr).outMsgs.size = 0
  · rw [if_pos empty, Lib.pure_eq_ok] at run
    subst run
    intro id state
    simp only [Function.update_self, reduceCtorEq] at state
  · rw [if_neg empty] at run
    simp only [Lib.bind_eq_ok, Lib.pure_eq_ok, RoundRobin.msgs_reorder] at run
    obtain ⟨ps, loop, rfl⟩ := run
    have start : s.Found addr []
        { s.rcverPolicyStates addr with canSend := false, msgState := none, wantToSendBytes := 0 } :=
      Or.inl ⟨rfl, rfl, by simp⟩
    have sorted : (env.plat.sortBy (fun id => ((s.msg id).unsentBytes : ℤ)) (s.rcvr addr).outMsgs.msgs).Pairwise
        fun a b => (s.msg a).unsentBytes ≤ (s.msg b).unsentBytes := by
      refine (env.plat.sortBy_sorted _ _).imp ?_
      intro a b le
      exact_mod_cast le
    have least := wantToSendLoop_least start (fun _ state => by cases state) sorted loop
    rw [List.nil_append] at least
    intro id state announced other member pays
    simp only [Function.update_self] at state
    have inside := (env.plat.sortBy_perm (fun id => ((s.msg id).unsentBytes : ℤ)) _).mem_iff.mpr member
    split at state
    · exact least id state announced other inside pays
    · cases state

/-- The receiver that select_msg_to_send returns, with the message that its
want_to_send chose: send_data recomputes the same cost, and the credit covers it. -/
theorem selected_cost {s1 s2 : Sender} (update : s.updatePolicyState env = .ok s1)
    (select : s1.selectMsgToSend env.plat = .ok (some addr, s2)) :
    ∃ id ∈ (s.rcvr addr).outMsgs.msgs, (s2.rcverPolicyStates addr).msgState = some id ∧ s2.msg id = s.msg id ∧
      (s2.rcverPolicyStates addr).wantToSendBytes = nextPktBytes (s2.msg id).unsentBytes ∧
      nextPktBytes (s2.msg id).unsentBytes ≤ toUInt64 (s2.rcvr addr).availCreditBytes := by
  obtain ⟨updated, picks⟩ := updatePolicyState_ok update
  obtain ⟨selected, best⟩ := selectMsgToSend_ok select picks
  obtain ⟨-, can, pick⟩ := best addr rfl
  have chooses := updated.trans selected
  rcases pick with ⟨cannot, -⟩ | ⟨-, id, inside, state, pays, bytes, -⟩
  · rw [can] at cannot
    cases cannot
  · exact ⟨id, (chooses.queue addr).mem_iff.mp inside, state, chooses.msg id, bytes, pays⟩

/-- want_to_send succeeds and can send exactly when the credit covers the next
packet of some message; it names one that it covers, not announced if such there
is, else with the fewest bytes left; its queue is put in another order. -/
theorem want_to_send_chooses (env : Env) (s : Sender) (addr : Addr) :
    (∃ s', s.wantToSend env.plat addr = .ok s' ∧
      (∀ id, minEthernetFrameOnWire ≤ nextPktBytes (s.msg id).unsentBytes ∧
        nextPktBytes (s.msg id).unsentBytes ≤ maxEthernetFrameOnWire) ∧
      ((s'.rcverPolicyStates addr).canSend = true ↔ ∃ id ∈ (s.rcvr addr).outMsgs.msgs,
        nextPktBytes (s.msg id).unsentBytes ≤ toUInt64 (s.rcvr addr).availCreditBytes) ∧
      ((s'.rcverPolicyStates addr).canSend = true → ∃ id ∈ (s.rcvr addr).outMsgs.msgs,
        (s'.rcverPolicyStates addr).msgState = some id ∧
        nextPktBytes (s.msg id).unsentBytes ≤ toUInt64 (s.rcvr addr).availCreditBytes ∧
        (s'.rcverPolicyStates addr).wantToSendBytes = nextPktBytes (s.msg id).unsentBytes ∧
        ((∃ other ∈ (s.rcvr addr).outMsgs.msgs, s.Affords addr other ∧ (s.msg other).sentAnouncement = false) →
          (s.msg id).sentAnouncement = false) ∧
        ((∀ other ∈ (s.rcvr addr).outMsgs.msgs, s.Affords addr other → (s.msg other).sentAnouncement = true) →
          ∀ other ∈ (s.rcvr addr).outMsgs.msgs, s.Affords addr other →
            (s.msg id).unsentBytes ≤ (s.msg other).unsentBytes)) ∧
      (s'.rcvr addr).outMsgs.msgs.Perm (s.rcvr addr).outMsgs.msgs ∧ s'.outbound = s.outbound) ∧
    (∀ s1 s2, s.updatePolicyState env = .ok s1 → s1.selectMsgToSend env.plat = .ok (some addr, s2) →
      ∃ id ∈ (s.rcvr addr).outMsgs.msgs, (s2.rcverPolicyStates addr).msgState = some id ∧ s2.msg id = s.msg id ∧
        (s2.rcverPolicyStates addr).wantToSendBytes = nextPktBytes (s2.msg id).unsentBytes ∧
        nextPktBytes (s2.msg id).unsentBytes ≤ toUInt64 (s2.rcvr addr).availCreditBytes) ∧
    (0 ≤ (s.rcvr addr).availCreditBytes →
      (toUInt64 (s.rcvr addr).availCreditBytes : ℤ) = (s.rcvr addr).availCreditBytes) := by
  obtain ⟨s', run⟩ := wantToSend_succeeds env.plat s addr
  have wants := wantToSend_ok run
  have least := wantToSend_least run
  have queue := wants.chooses.queue addr
  -- the loop saw the messages sorted, but what it found is true in any order
  have found : s.Found addr (s.rcvr addr).outMsgs.msgs (s'.rcverPolicyStates addr) := by
    have pick : s'.Found addr (s'.rcvr addr).outMsgs.msgs (s'.rcverPolicyStates addr) := wants.pick
    unfold Found at *
    simp only [wants.chooses.affords, wants.chooses.msg, queue.mem_iff] at pick
    exact pick
  refine ⟨⟨s', run, fun id => nextPktBytes_bounds _, ⟨?_, ?_⟩, ?_, queue, wants.chooses.outbound⟩,
    fun s1 s2 => selected_cost, ?_⟩
  · intro can
    rcases found with ⟨cannot, -⟩ | ⟨-, id, inside, -, pays, -⟩
    · rw [can] at cannot
      cases cannot
    · exact ⟨id, inside, pays⟩
  · rintro ⟨id, inside, pays⟩
    rcases found with ⟨-, -, nothing⟩ | ⟨can, -⟩
    · exact absurd pays (nothing id inside)
    · exact can
  · intro can
    rcases found with ⟨cannot, -⟩ | ⟨-, id, inside, state, pays, bytes, announced⟩
    · rw [can] at cannot
      cases cannot
    · refine ⟨id, inside, state, pays, bytes, ?_, ?_⟩
      · rintro ⟨other, member, affords, fresh⟩
        by_contra told
        rw [announced (Bool.of_not_eq_false told) other member affords] at fresh
        cases fresh
      · exact fun all other member affords => least id state (all id inside pays) other member affords
  · intro nonneg
    unfold toUInt64
    rw [if_pos nonneg, Int.toNat_of_nonneg nonneg]

end Sender

end PhantomPass
