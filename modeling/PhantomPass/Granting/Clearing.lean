import PhantomPass.Granting.Turns

/-! A granting pass over messages that are complete: it grants nothing, and
removes one of them at least. -/

set_option autoImplicit false

namespace PhantomPass

open Lib (RoundRobin)

/-- The policies for granting that the source implements, behind a pacer. -/
def Config.Grants (cfg : Config) : Prop :=
  cfg.paceGrants = true ∧ (cfg.receiverPolicy = 0 ∨ cfg.receiverPolicy = 3 ∨ cfg.receiverPolicy = 4)

namespace Host

variable {env : Env} {h h1 h' : Host} {id : UniqReqId} {now : Time}

def GrantsDue (env : Env) (now : Time) (h : Host) : Prop :=
  ¬ now - h.lastGrantTime < 48 / 100000000 ∧ (h.grantsBegin env now).grantPacerBusy env.cfg = false

instance (env : Env) (now : Time) (h : Host) : Decidable (h.GrantsDue env now) := inferInstanceAs (Decidable (_ ∧ _))

def Done (h : Host) : Prop := ∀ id ∈ h.rcv.inbound.msgs, (h.rcv.msg id).Complete ∧ 0 < (h.rcv.msg id).dataBytesExpected

/-- Only the list of inbound messages changes, and only by removals. -/
structure Trims (h h' : Host) : Prop where
  same : h' = { h with rcv := { h.rcv with inbound := h'.rcv.inbound } }
  sub : h'.rcv.inbound.msgs.Subperm h.rcv.inbound.msgs

namespace Trims

theorem of_perm {inbound : RoundRobin UniqReqId} (perm : inbound.msgs.Perm h.rcv.inbound.msgs) :
    Trims h { h with rcv := { h.rcv with inbound } } := ⟨rfl, perm.subperm⟩

theorem refl (h : Host) : Trims h h := ⟨rfl, List.Subperm.refl _⟩

theorem trans (first : Trims h h1) (second : Trims h1 h') : Trims h h' :=
  ⟨by rw [second.same, first.same], second.sub.trans first.sub⟩

theorem size_le (trims : Trims h h') : h'.rcv.inbound.size ≤ h.rcv.inbound.size := trims.sub.length_le

theorem msg (trims : Trims h h') (id : UniqReqId) : h'.rcv.msg id = h.rcv.msg id := by rw [trims.same]; rfl

theorem busy (trims : Trims h h') : h'.grantPacerBusy env.cfg = h.grantPacerBusy env.cfg := by rw [trims.same]; rfl

theorem done (trims : Trims h h') (done : h.Done) : h'.Done := by
  intro id inside
  rw [trims.msg]
  exact done id (trims.sub.subset inside)

theorem nodup (trims : Trims h h') (nodup : h.rcv.inbound.msgs.Nodup) : h'.rcv.inbound.msgs.Nodup := by
  obtain ⟨kept, perm, sub⟩ := trims.sub
  exact perm.nodup_iff.mp (nodup.sublist sub)

end Trims

theorem grantInformed_complete (env : Env) (now : Time) (ret : Option CreditResult) (done : h.Done)
    (nodup : h.rcv.inbound.msgs.Nodup) (inside : id ∈ h.rcv.inbound.msgs) :
    ∃ h', h.grantInformed env now id ret = .ok (h', some .removed) ∧ Trims h h' ∧
      h'.rcv.inbound.size < h.rcv.inbound.size := by
  obtain ⟨⟨info, received, granted⟩, pos⟩ := done id inside
  obtain ⟨inbound, removed⟩ := RoundRobin.remove_isSome.mpr inside
  have msgs := (RoundRobin.remove_spec nodup removed).2
  refine ⟨{ h with rcv := { h.rcv with inbound } }, ?_, ⟨rfl, ?_⟩, ?_⟩
  · unfold grantInformed sendCreditPolicyCommon Receiver.removeInbound assert
    dsimp only
    rw [if_pos info, Lib.require_true _ pos, Lib.ok_bind, Lib.require_true _ (Nat.le_of_eq received), Lib.ok_bind,
      Lib.require_true _ info, Lib.ok_bind, if_pos ⟨received, granted⟩, removed]
    rfl
  · change inbound.msgs.Subperm _
    rw [msgs]
    exact List.erase_sublist.subperm
  · change inbound.msgs.length < h.rcv.inbound.msgs.length
    rw [msgs, List.length_erase_of_mem inside]
    exact Nat.sub_lt (List.length_pos_of_mem inside) Nat.zero_lt_one

theorem sortedMsgLoop_complete (env : Env) (now : Time) (turns i : ℕ) (ret : Option CreditResult) (done : h.Done)
    (nodup : h.rcv.inbound.msgs.Nodup) :
    ∃ h', h.sortedMsgLoop env now turns i ret = .ok h' ∧ Trims h h' ∧
      (0 < turns → i < h.rcv.inbound.size → h.grantPacerBusy env.cfg = false →
      h'.rcv.inbound.size < h.rcv.inbound.size) := by
  -- only the first turn has to take a message out; the later ones put none back
  induction turns generalizing i ret h with
  | zero => exact ⟨h, rfl, .refl h, fun none => absurd none (Nat.lt_irrefl 0)⟩
  | succ turns ih =>
    unfold sortedMsgLoop
    split
    · next stops =>
      refine ⟨h, rfl, .refl h, fun _ more free => ?_⟩
      rcases stops with small | busy
      · omega
      · cases busy.symm.trans free
    · next goes =>
      have more : ¬ h.rcv.inbound.size ≤ i := fun small => goes (Or.inl small)
      cases step : h.rcv.inbound.next with
      | none =>
        have size : h.rcv.inbound.size = 0 := List.length_eq_zero_iff.mpr (RoundRobin.next_eq_none.mp step)
        omega
      | some turn =>
        obtain ⟨id, inbound⟩ := turn
        obtain ⟨msgs, rest, front, -⟩ := RoundRobin.next_spec step
        have moves : Trims h { h with rcv := { h.rcv with inbound } } := .of_perm (List.Perm.of_eq msgs)
        have inside : id ∈ inbound.msgs := by
          rw [msgs, ← RoundRobin.mem_upcoming, front]
          exact List.mem_cons_self
        obtain ⟨h1, granted, trims, fewer⟩ :=
          grantInformed_complete env now ret (moves.done done) (moves.nodup nodup) inside
        have before := moves.trans trims
        obtain ⟨h', run, later, -⟩ := ih (i + 1) (some .removed) (before.done done) (before.nodup nodup)
        refine ⟨h', ?_, before.trans later, fun _ _ _ => ?_⟩
        · dsimp only
          rw [granted]
          exact run
        · exact lt_of_le_of_lt later.size_le (lt_of_lt_of_le fewer moves.size_le)

theorem sendGrantsSorted_complete (env : Env) (now : Time) (key : UniqReqId → ℤ) (done : h.Done)
    (nodup : h.rcv.inbound.msgs.Nodup) :
    ∃ h', h.sendGrantsSorted env now key = .ok h' ∧ Trims h h' ∧
      (h.grantPacerBusy env.cfg = false → 0 < h.rcv.inbound.size → h'.rcv.inbound.size < h.rcv.inbound.size) := by
  unfold sendGrantsSorted
  split
  · next busy => exact ⟨h, rfl, .refl h, fun free => by cases busy.symm.trans free⟩
  · have perm := env.plat.sortBy_perm key h.rcv.inbound.msgs
    have sorts : Trims h { h with rcv := { h.rcv with inbound := (h.rcv.inbound.reorder _ perm).reset } } :=
      .of_perm perm
    have size : (h.rcv.inbound.reorder _ perm).size = h.rcv.inbound.size := perm.length_eq
    obtain ⟨h', run, trims, fewer⟩ := sortedMsgLoop_complete env now (h.rcv.inbound.reorder _ perm).size 0 none
      (sorts.done done) (sorts.nodup nodup)
    refine ⟨h', run, sorts.trans trims, fun free some_msg => ?_⟩
    apply lt_of_lt_of_le _ sorts.size_le
    apply fewer
    · rwa [size]
    · exact lt_of_lt_of_eq some_msg size.symm
    · rw [sorts.busy]
      exact free

/-- What a pass over complete messages does: it sends nothing and removes messages, one at least when it is due. -/
structure Clears (env : Env) (now : Time) (h h' : Host) : Prop where
  sent : h'.sent = h.sent
  size_le : h'.rcv.inbound.size ≤ h.rcv.inbound.size
  fewer : h.GrantsDue env now → 0 < h.rcv.inbound.size → h'.rcv.inbound.size < h.rcv.inbound.size
  backlog : ¬ now - h.lastGrantTime < 48 / 100000000 → h'.grantPacerBacklog = (h.grantsBegin env now).grantPacerBacklog

theorem Clears.trans {h1 : Host} (clears : Clears env now h h1) (sent : h'.sent = h1.sent)
    (inbound : h'.rcv.inbound.msgs = h1.rcv.inbound.msgs) (backlog : h'.grantPacerBacklog = h1.grantPacerBacklog) :
    Clears env now h h' := by
  have size : h'.rcv.inbound.size = h1.rcv.inbound.size := congrArg List.length inbound
  refine ⟨sent.trans clears.sent, ?_, ?_, fun late => backlog.trans (clears.backlog late)⟩
  · rw [size]
    exact clears.size_le
  · rw [size]
    exact clears.fewer

/-- Where all messages are complete the pass clears them. Under time sharing the last one must be gone. -/
theorem sendGrants_complete (now : Time) (grants : env.cfg.Grants) (done : h.Done) (nodup : h.rcv.inbound.msgs.Nodup)
    (sorts : env.cfg.receiverPolicy = 0 → h.rcv.inbound.msgs = []) :
    ∃ h', h.sendGrants env now = .ok h' ∧ h'.snd = h.snd ∧ Clears env now h h' := by
  obtain ⟨pace, policy⟩ := grants
  have begun : Done (h.grantsBegin env now) := done
  have sorted : ∀ key, ∃ h', (h.grantsBegin env now).sendGrantsSorted env now key = .ok h' ∧ h'.snd = h.snd ∧
      Clears env now h h' := by
    intro key
    obtain ⟨h', run, trims, fewer⟩ := sendGrantsSorted_complete env now key begun nodup
    have snd := congrArg Host.snd trims.same
    have sent := congrArg Host.sent trims.same
    have backlog := congrArg Host.grantPacerBacklog trims.same
    exact ⟨h', run, snd, sent, trims.size_le, fun due => fewer due.2, fun _ => backlog⟩
  unfold sendGrants
  split
  · next early => exact ⟨h, rfl, rfl, rfl, le_refl _, fun due => absurd early due.1, fun late => absurd early late⟩
  · rw [if_neg (by simp [pace])]
    rcases policy with ts | srpt | equal
    · rw [if_pos ts]
      have none : h.rcv.inbound.size = 0 := List.length_eq_zero_iff.mpr (sorts ts)
      have turns : ({ h with lastGrantTime := now }.updateGrantBacklog env now).rcv.inbound.size = 0 := none
      unfold sendGrantsTsMsg
      rw [turns]
      exact ⟨h.grantsBegin env now, rfl, rfl, rfl, le_refl _, fun _ some_msg => by omega, fun _ => rfl⟩
    · rw [if_neg (by omega), if_pos srpt]
      exact sorted _
    · rw [if_neg (by omega), if_neg (by omega), if_pos equal]
      exact sorted _

/-- Behind each of its turns the loop of time sharing steps on, so that it never takes the last message out. -/
theorem tsMsgLoop_some {turns i : ℕ} {ret : Option CreditResult} (nodup : h.rcv.inbound.msgs.Nodup)
    (some_msg : h.rcv.inbound.msgs ≠ []) (run : h.tsMsgLoop env now turns i ret = .ok h') :
    h'.rcv.inbound.msgs ≠ [] := by
  induction turns generalizing i ret h with
  | zero =>
    cases run
    exact some_msg
  | succ turns ih =>
    unfold tsMsgLoop at run
    split at run
    · cases run
      exact some_msg
    · cases front : h.rcv.inbound.peekNext with
      | none =>
        rw [front] at run
        cases run
      | some id =>
        rw [front] at run
        simp only [Lib.bind_eq_ok] at run
        obtain ⟨⟨h1, ret1⟩, granted, run⟩ := run
        have visits := grantInformed_visits nodup granted
        dsimp only at run
        split at run
        · next full =>
          -- without budget nothing was removed
          cases run
          have incomplete : ¬ (h.rcv.msg id).Complete := fun complete =>
            by cases full.symm.trans (grantInformed_removed nodup complete granted)
          have same := visits.upcoming
          rw [if_neg incomplete] at same
          rw [ne_eq, ← RoundRobin.upcoming_eq_nil, same, RoundRobin.upcoming_eq_nil]
          exact some_msg
        · cases step : h1.rcv.inbound.next with
          | none =>
            rw [step] at run
            cases run
          | some turn =>
            obtain ⟨last, inbound⟩ := turn
            rw [step] at run
            have msgs := (RoundRobin.next_spec step).1
            have left : h1.rcv.inbound.msgs ≠ [] := fun none => by
              rw [RoundRobin.next_eq_none.mpr none] at step
              cases step
            have nodup1 : h1.rcv.inbound.msgs.Nodup :=
              (h1.rcv.inbound.upcoming_perm.nodup_iff).mp
                (visits.nodup ((h.rcv.inbound.upcoming_perm.nodup_iff).mpr nodup))
            apply ih _ _ run
            · rw [msgs]
              exact nodup1
            · rw [msgs]
              exact left

theorem sendGrants_some (policy : env.cfg.receiverPolicy = 0) (nodup : h.rcv.inbound.msgs.Nodup)
    (some_msg : h.rcv.inbound.msgs ≠ []) (run : h.sendGrants env now = .ok h') : h'.rcv.inbound.msgs ≠ [] := by
  unfold sendGrants at run
  split at run
  · cases run
    exact some_msg
  · split at run
    · cases run
    · exact tsMsgLoop_some (h := h.grantsBegin env now) nodup some_msg run

end Host

end PhantomPass
