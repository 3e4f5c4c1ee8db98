import PhantomPass.Refinement.Granting

/-! One turn of a granting loop, for any list of inbound messages: it leaves the
other messages alone, and takes its own out exactly when it is complete. -/

set_option autoImplicit false

namespace PhantomPass

open Lib (RoundRobin Store)

instance (m : InboundMsgState) : Decidable m.Complete := inferInstanceAs (Decidable (_ ∧ _))

namespace Host

variable {env : Env} {h h1 h' : Host} {id : UniqReqId} {now : Time} {ret ret' : Option CreditResult}

/-- A host as its policy finds it: send_grants has noted the time and drained the pacer. -/
def grantsBegin (env : Env) (now : Time) (h : Host) : Host := { h with lastGrantTime := now }.updateGrantBacklog env now

/-- What a turn of a granting loop does to the inbound messages. -/
structure Visits (id : UniqReqId) (h h' : Host) : Prop where
  others : ∀ other, other ≠ id → h'.rcv.msg other = h.rcv.msg other
  upcoming : h'.rcv.inbound.upcoming =
    if (h.rcv.msg id).Complete then h.rcv.inbound.upcoming.erase id else h.rcv.inbound.upcoming

theorem Visits.idle (incomplete : ¬ (h.rcv.msg id).Complete) : Visits id h h :=
  ⟨fun _ _ => rfl, (if_neg incomplete).symm⟩

theorem issueGrant_visits (incomplete : ¬ (h.rcv.msg id).Complete) (run : h.issueGrant env now id = .ok h') :
    Visits id h h' := by
  unfold issueGrant at run
  dsimp only at run
  split at run
  · unfold forwardGrant assert at run
    simp only [Lib.bind_eq_ok] at run
    obtain ⟨-, -, -, -, -, -, forward⟩ := run
    obtain ⟨p, -, rfl⟩ := forwardToTransport_ok (h := h.granting id) forward (by decide) (by decide)
    refine ⟨fun other apart => ?_, (if_neg incomplete).symm⟩
    -- two changes of the message under the id, none of another
    unfold granting countGrant chargeGrant emit Receiver.modifyMsg Receiver.msg
    dsimp only
    rw [Store.get_modify_of_ne _ _ apart, Store.get_modify_of_ne _ _ apart]
    rfl
  · rw [Lib.pure_eq_ok] at run
    subst run
    exact .idle incomplete

theorem grantCredit_visits {result : CreditResult} (incomplete : ¬ (h.rcv.msg id).Complete)
    (run : h.grantCredit env now id = .ok (h', result)) : Visits id h h' := by
  unfold grantCredit assert at run
  simp only [Lib.bind_eq_ok] at run
  obtain ⟨-, -, run⟩ := run
  split at run
  · simp only [Lib.pure_eq_ok, Prod.mk.injEq] at run
    obtain ⟨rfl, -⟩ := run
    exact .idle incomplete
  · simp only [Lib.bind_eq_ok, Lib.pure_eq_ok, Prod.mk.injEq] at run
    obtain ⟨h1, issue, -, -, rfl, -⟩ := run
    exact issueGrant_visits incomplete issue

theorem sendCreditPolicyCommon_visits {result : CreditResult} (nodup : h.rcv.inbound.msgs.Nodup)
    (run : h.sendCreditPolicyCommon env now id = .ok (h', result)) :
    Visits id h h' ∧ (result = .removed ↔ (h.rcv.msg id).Complete) := by
  unfold sendCreditPolicyCommon assert at run
  simp only [Lib.bind_eq_ok, Lib.require_eq_ok, exists_and_left, exists_const] at run
  obtain ⟨-, info, run⟩ := run
  split at run
  · next bytes =>
    simp only [Lib.bind_eq_ok, Lib.pure_eq_ok, Prod.mk.injEq] at run
    obtain ⟨rcv, remove, rfl, rfl⟩ := run
    have complete : (h.rcv.msg id).Complete := ⟨info, bytes⟩
    refine ⟨?_, iff_of_true rfl complete⟩
    unfold Receiver.removeInbound at remove
    cases removed : h.rcv.inbound.remove id with
    | none => rw [removed] at remove; cases remove
    | some inbound =>
      rw [removed, Lib.pure_eq_ok] at remove
      subst remove
      exact ⟨fun _ _ => rfl, (RoundRobin.remove_spec nodup removed).1.trans (if_pos complete).symm⟩
  · next bytes =>
    have incomplete : ¬ (h.rcv.msg id).Complete := fun complete => bytes complete.2
    simp only [Lib.bind_eq_ok, Lib.require_eq_ok, exists_and_left, exists_const] at run
    obtain ⟨-, -, run⟩ := run
    split at run
    · simp only [Lib.pure_eq_ok, Prod.mk.injEq] at run
      obtain ⟨rfl, rfl⟩ := run
      exact ⟨.idle incomplete, iff_of_false (by decide) incomplete⟩
    · refine ⟨grantCredit_visits incomplete run, iff_of_false ?_ incomplete⟩
      unfold grantCredit assert at run
      simp only [Lib.bind_eq_ok] at run
      obtain ⟨-, -, run⟩ := run
      split at run
      · simp only [Lib.pure_eq_ok, Prod.mk.injEq] at run
        rw [← run.2]
        decide
      · simp only [Lib.bind_eq_ok, Lib.pure_eq_ok, Prod.mk.injEq] at run
        obtain ⟨-, -, -, -, -, common⟩ := run
        rw [← common]
        decide

theorem grantInformed_visits (nodup : h.rcv.inbound.msgs.Nodup)
    (run : h.grantInformed env now id ret = .ok (h', ret')) : Visits id h h' := by
  unfold grantInformed assert at run
  dsimp only at run
  split at run
  · simp only [Lib.bind_eq_ok, Lib.pure_eq_ok, Prod.mk.injEq] at run
    obtain ⟨-, -, ⟨h1, result⟩, common, rfl, -⟩ := run
    exact (sendCreditPolicyCommon_visits nodup common).1
  · next ignorant =>
    simp only [Lib.pure_eq_ok, Prod.mk.injEq] at run
    obtain ⟨rfl, -⟩ := run
    exact .idle fun complete => ignorant complete.1

theorem grantInformed_removed (nodup : h.rcv.inbound.msgs.Nodup) (complete : (h.rcv.msg id).Complete)
    (run : h.grantInformed env now id ret = .ok (h', ret')) : ret' = some .removed := by
  unfold grantInformed at run
  dsimp only at run
  rw [if_pos complete.1] at run
  simp only [Lib.bind_eq_ok, Lib.pure_eq_ok, Prod.mk.injEq] at run
  obtain ⟨-, -, ⟨h1, result⟩, common, -, rfl⟩ := run
  rw [(sendCreditPolicyCommon_visits nodup common).2.mpr complete]

theorem Visits.nodup (visits : Visits id h h') (nodup : h.rcv.inbound.upcoming.Nodup) :
    h'.rcv.inbound.upcoming.Nodup := by
  rw [visits.upcoming]
  split
  · exact nodup.erase id
  · exact nodup

end Host

end PhantomPass
