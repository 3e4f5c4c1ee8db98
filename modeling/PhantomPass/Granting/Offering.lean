import PhantomPass.Granting.Clearing
import PhantomPass.Granting.TimeSharing

/-! A granting pass that finds a message with room for its next credit. It sends
a GRANT unless it removes a message; and what sends no GRANT removes messages at most. -/

set_option autoImplicit false

namespace PhantomPass

open Lib (RoundRobin)

namespace Host

variable {env : Env} {h h1 h' : Host} {id : UniqReqId} {now : Time} {ret ret' : Option CreditResult}

inductive Turn (env : Env) (now : Time) (id : UniqReqId) (h : Host) (ret : Option CreditResult) :
    Host → Option CreditResult → Prop
  /-- the size of the message is not known yet -/
  | ignorant : (h.rcv.msg id).receivedMsgInfo = false → Turn env now id h ret h ret
  | removed (inbound : RoundRobin UniqReqId) : (h.rcv.msg id).Complete → h.rcv.inbound.remove id = some inbound →
      Turn env now id h ret { h with rcv := { h.rcv with inbound } } (some .removed)
  | fullyGranted : (h.rcv.msg id).dataBytesExpected = (h.rcv.msg id).dataBytesGranted → ¬ (h.rcv.msg id).Complete →
      Turn env now id h ret h (some .fullyGranted)
  | noBudget : ¬ h.Room env.cfg (h.rcv.msg id) → h.rcv.budgetBytes < (h.rcv.msg id).creditNeeded →
      Turn env now id h ret h (some .noBudget)
  | waits : ¬ h.Room env.cfg (h.rcv.msg id) → Turn env now id h ret h (some .common)
  | grants {h' : Host} : h.Room env.cfg (h.rcv.msg id) → (h.rcv.msg id).receivedMsgInfo = true →
      (h.rcv.msg id).dataBytesGranted < (h.rcv.msg id).dataBytesExpected → h.issueGrant env now id = .ok h' →
      Turn env now id h ret h' (some .common)

theorem grantInformed_cases (run : h.grantInformed env now id ret = .ok (h', ret')) :
    Turn env now id h ret h' ret' := by
  unfold grantInformed assert at run
  dsimp only at run
  split at run
  · next info =>
    simp only [Lib.bind_eq_ok, Lib.pure_eq_ok, Prod.mk.injEq] at run
    obtain ⟨-, -, ⟨h1, result⟩, common, rfl, rfl⟩ := run
    unfold sendCreditPolicyCommon assert at common
    simp only [Lib.bind_eq_ok] at common
    obtain ⟨-, -, -, -, common⟩ := common
    split at common
    · next bytes =>
      simp only [Lib.bind_eq_ok, Lib.pure_eq_ok, Prod.mk.injEq] at common
      obtain ⟨rcv, remove, rfl, rfl⟩ := common
      unfold Receiver.removeInbound at remove
      cases removed : h.rcv.inbound.remove id with
      | none =>
        rw [removed] at remove
        cases remove
      | some inbound =>
        rw [removed, Lib.pure_eq_ok] at remove
        subst remove
        exact .removed inbound ⟨info, bytes⟩ removed
    · next bytes =>
      simp only [Lib.bind_eq_ok, Lib.require_eq_ok, exists_and_left, exists_const] at common
      obtain ⟨-, le, common⟩ := common
      split at common
      · next all =>
        simp only [Lib.pure_eq_ok, Prod.mk.injEq] at common
        obtain ⟨rfl, rfl⟩ := common
        exact .fullyGranted all fun complete => bytes complete.2
      · next needs =>
        have less : (h.rcv.msg id).dataBytesGranted < (h.rcv.msg id).dataBytesExpected :=
          lt_of_le_of_ne le (Ne.symm needs)
        unfold grantCredit assert at common
        simp only [Lib.bind_eq_ok] at common
        obtain ⟨-, -, common⟩ := common
        split at common
        · next full =>
          simp only [Lib.pure_eq_ok, Prod.mk.injEq] at common
          obtain ⟨rfl, rfl⟩ := common
          exact .noBudget full.1 full.2
        · simp only [Lib.bind_eq_ok, Lib.pure_eq_ok, Prod.mk.injEq] at common
          obtain ⟨h2, issue, -, -, rfl, rfl⟩ := common
          by_cases room : h.Room env.cfg (h.rcv.msg id)
          · exact .grants room info less issue
          · unfold issueGrant at issue
            dsimp only at issue
            rw [if_neg room, Lib.pure_eq_ok] at issue
            subst issue
            exact .waits room
  · next ignorant =>
    simp only [Lib.pure_eq_ok, Prod.mk.injEq] at run
    obtain ⟨rfl, rfl⟩ := run
    exact .ignorant ((Bool.not_eq_true _).mp ignorant)

structure Offerable (cfg : Config) (id : UniqReqId) (h : Host) : Prop where
  info : (h.rcv.msg id).receivedMsgInfo = true
  needs : (h.rcv.msg id).dataBytesGranted < (h.rcv.msg id).dataBytesExpected
  room : h.Room cfg (h.rcv.msg id)

theorem Offerable.trims {cfg : Config} (offerable : Offerable cfg id h) (trims : Trims h h') : Offerable cfg id h' := by
  obtain ⟨info, needs, room⟩ := offerable
  have same := trims.msg id
  constructor
  · rw [same]
    exact info
  · rw [same]
    exact needs
  · rw [same, trims.same]
    exact room

/-- Only the list of inbound messages changes, and only complete messages leave it. -/
structure Sheds (h h' : Host) : Prop where
  trims : Trims h h'
  rest : ∀ id ∈ h.rcv.inbound.msgs, ¬ (h.rcv.msg id).Complete → id ∈ h'.rcv.inbound.msgs

namespace Sheds

theorem of_perm {inbound : RoundRobin UniqReqId} (perm : inbound.msgs.Perm h.rcv.inbound.msgs) :
    Sheds h { h with rcv := { h.rcv with inbound } } := ⟨.of_perm perm, fun _ inside _ => perm.mem_iff.mpr inside⟩

theorem refl (h : Host) : Sheds h h := ⟨.refl h, fun _ inside _ => inside⟩

theorem trans (first : Sheds h h1) (second : Sheds h1 h') : Sheds h h' where
  trims := first.trims.trans second.trims
  rest id inside incomplete := by
    apply second.rest id (first.rest id inside incomplete)
    rw [first.trims.msg]
    exact incomplete

end Sheds

/-- Parts of a pass that send no GRANT take complete messages out of the list at most. -/
structure Offers (cfg : Config) (h h' : Host) : Prop where
  grants : Grants cfg h h'
  silent : h'.sent = h.sent → Sheds h h'

theorem Grants.silent {cfg : Config} (first : Grants cfg h h1) (second : Grants cfg h1 h') (silent : h'.sent = h.sent) :
    h1.sent = h.sent ∧ h'.sent = h1.sent := by
  obtain ⟨before, sent1, -⟩ := first.sent
  obtain ⟨after, sent2, -⟩ := second.sent
  rw [sent2, sent1, List.append_assoc, List.append_right_eq_self, List.append_eq_nil_iff] at silent
  rw [sent2, sent1, silent.1, silent.2]
  simp

theorem Offers.refl {cfg : Config} (ok : HalvesOk cfg h) : Offers cfg h h := ⟨.refl ok, fun _ => .refl h⟩

theorem Offers.trans {cfg : Config} (first : Offers cfg h h1) (second : Offers cfg h1 h') : Offers cfg h h' where
  grants := first.grants.trans second.grants
  silent silent := by
    obtain ⟨before, after⟩ := first.grants.silent second.grants silent
    exact (first.silent before).trans (second.silent after)

theorem Offers.reorder (ok : HalvesOk env.cfg h) (inbound : RoundRobin UniqReqId)
    (perm : inbound.msgs.Perm h.rcv.inbound.msgs) :
    Offers env.cfg h { h with rcv := { h.rcv with inbound } } := ⟨reorder_ok ok inbound perm, fun _ => .of_perm perm⟩

section Turn

variable (ok : HalvesOk env.cfg h) (inside : id ∈ h.rcv.inbound.msgs)
    (run : h.grantInformed env now id ret = .ok (h', ret'))

include ok inside run

theorem grantInformed_offers : Offers env.cfg h h' := by
  refine ⟨(grantInformed_ok ok inside run).1, fun silent => ?_⟩
  cases grantInformed_cases run with
  | ignorant => exact .refl h
  | removed inbound complete removed =>
    have msgs := (RoundRobin.remove_spec ok.recv.nodup removed).2
    refine ⟨⟨rfl, ?_⟩, fun other member incomplete => ?_⟩
    · change inbound.msgs.Subperm h.rcv.inbound.msgs
      rw [msgs]
      exact List.erase_sublist.subperm
    · change other ∈ inbound.msgs
      have apart : other ≠ id := fun same => incomplete (same ▸ complete)
      rwa [msgs, List.mem_erase_of_ne apart]
  | fullyGranted => exact .refl h
  | noBudget => exact .refl h
  | waits => exact .refl h
  | grants room info needs issue =>
    obtain ⟨p, sent⟩ := (issueGrant_ok ok inside info needs issue).2.2 room
    rw [sent, List.append_right_eq_self] at silent
    cases silent

theorem grantInformed_grants (offerable : Offerable env.cfg id h) : h'.sent ≠ h.sent := by
  obtain ⟨info, needs, room⟩ := offerable
  cases grantInformed_cases run with
  | ignorant ignorant => exact nomatch info.symm.trans ignorant
  | removed inbound complete => exact absurd complete.2.2 (Nat.ne_of_lt needs)
  | fullyGranted all => exact absurd all.symm (Nat.ne_of_lt needs)
  | noBudget full => exact absurd room full
  | waits full => exact absurd room full
  | grants room info needs issue =>
    obtain ⟨p, sent⟩ := (issueGrant_ok ok inside info needs issue).2.2 room
    rw [sent, ne_eq, List.append_right_eq_self]
    exact List.cons_ne_nil p []

theorem grantInformed_still (silent : h'.sent = h.sent) (kept : h'.rcv.inbound.size = h.rcv.inbound.size) : h' = h := by
  cases grantInformed_cases run with
  | removed inbound complete removed =>
    change inbound.msgs.length = h.rcv.inbound.msgs.length at kept
    rw [(RoundRobin.remove_spec ok.recv.nodup removed).2, List.length_erase_of_mem inside] at kept
    have pos := List.length_pos_of_mem inside
    omega
  | grants room info needs issue => exact absurd silent (grantInformed_grants ok inside run ⟨info, needs, room⟩)
  | ignorant | fullyGranted | noBudget | waits => rfl

omit ok inside in
theorem grantInformed_budget (budget : maxEthernetFrameOnWire ≤ h.rcv.budgetBytes) (before : ret ≠ some .noBudget) :
    ret' ≠ some .noBudget := by
  cases grantInformed_cases run with
  | ignorant => exact before
  | noBudget _ less =>
    have le := (creditNeeded_bounds (h.rcv.msg id)).2
    omega
  | removed | fullyGranted | waits | grants => decide

end Turn

section Loops

theorem tsMsgLoop_offers {turns i : ℕ} (ok : HalvesOk env.cfg h) (run : h.tsMsgLoop env now turns i ret = .ok h') :
    Offers env.cfg h h' := by
  -- the cursor moves over the list between the turns, which offers no one anything
  induction turns generalizing i ret h with
  | zero =>
    cases run
    exact .refl ok
  | succ turns ih =>
    unfold tsMsgLoop at run
    split at run
    · cases run
      exact .refl ok
    · split at run
      · cases run
      · next id peek =>
        have inside : id ∈ h.rcv.inbound.msgs := by
          rw [RoundRobin.peekNext_eq_head] at peek
          exact (RoundRobin.mem_upcoming _ _).mp (List.mem_of_mem_head? peek)
        simp only [Lib.bind_eq_ok] at run
        obtain ⟨⟨h1, ret1⟩, informed, run⟩ := run
        have first := grantInformed_offers ok inside informed
        dsimp only at run
        split at run
        · cases run
          exact first
        · split at run
          · cases run
          · next last inbound step =>
            have moves := Offers.reorder first.grants.ok inbound (List.Perm.of_eq (RoundRobin.next_spec step).1)
            exact (first.trans moves).trans (ih moves.grants.ok run)

theorem sortedMsgLoop_offers {turns i : ℕ} (ok : HalvesOk env.cfg h)
    (run : h.sortedMsgLoop env now turns i ret = .ok h') :
    Offers env.cfg h h' := by
  induction turns generalizing i ret h with
  | zero =>
    cases run
    exact .refl ok
  | succ turns ih =>
    unfold sortedMsgLoop at run
    split at run
    · cases run
      exact .refl ok
    · split at run
      · cases run
      · next id inbound step =>
        obtain ⟨msgs, rest, front, -⟩ := RoundRobin.next_spec step
        have inside : id ∈ inbound.msgs := by
          rw [msgs, ← RoundRobin.mem_upcoming, front]
          exact List.mem_cons_self
        simp only [Lib.bind_eq_ok] at run
        obtain ⟨⟨h1, ret1⟩, informed, run⟩ := run
        have moves := Offers.reorder ok inbound (List.Perm.of_eq msgs)
        have first := moves.trans (grantInformed_offers moves.grants.ok inside informed)
        exact first.trans (ih first.grants.ok run)

theorem sortedMsgLoop_succeeds (implemented : env.cfg.Implemented) (time : 0 < now) (turns i : ℕ)
    (ret : Option CreditResult)
    (grantable : Grantable env.cfg h) : ∃ h', h.sortedMsgLoop env now turns i ret = .ok h' := by
  induction turns generalizing i ret h with
  | zero => exact ⟨h, rfl⟩
  | succ turns ih =>
    unfold sortedMsgLoop
    split
    · exact ⟨h, rfl⟩
    · next goes =>
      cases step : h.rcv.inbound.next with
      | none =>
        have size : h.rcv.inbound.size = 0 := List.length_eq_zero_iff.mpr (RoundRobin.next_eq_none.mp step)
        exact absurd (Or.inl (by omega)) goes
      | some turn =>
        obtain ⟨id, inbound⟩ := turn
        obtain ⟨msgs, rest, front, -⟩ := RoundRobin.next_spec step
        have inside : id ∈ inbound.msgs := by
          rw [msgs, ← RoundRobin.mem_upcoming, front]
          exact List.mem_cons_self
        have moved := grantable.grants (reorder_ok grantable.halves inbound (by rw [msgs]))
        refine Lib.bind_succeeds (grantInformed_succeeds moved inside implemented time) fun result informed => ?_
        obtain ⟨h1, ret1⟩ := result
        exact ih (i + 1) ret1 (moved.grants (grantInformed_ok moved.halves inside informed).1)

/-- A loop that takes its turns, but neither sends nor removes anything. -/
structure Fruitless (env : Env) (turns i : ℕ) (h h' : Host) : Prop where
  free : h.grantPacerBusy env.cfg = false
  within : i + turns ≤ h.rcv.inbound.size
  silent : h'.sent = h.sent
  kept : h'.rcv.inbound.size = h.rcv.inbound.size

namespace Fruitless

variable {turns i : ℕ}

theorem parts (fruitless : Fruitless env turns i h h') (first : Offers env.cfg h h1) (rest : Offers env.cfg h1 h') :
    h1.sent = h.sent ∧ h1.rcv.inbound.size = h.rcv.inbound.size := by
  obtain ⟨before, after⟩ := first.grants.silent rest.grants fruitless.silent
  have size := (first.silent before).trims.size_le
  have size' := (rest.silent after).trims.size_le
  have kept := fruitless.kept
  exact ⟨before, by omega⟩

theorem next {inbound : RoundRobin UniqReqId} (fruitless : Fruitless env (turns + 1) i h h')
    (msgs : inbound.msgs = h.rcv.inbound.msgs) :
    Fruitless env turns (i + 1) { h with rcv := { h.rcv with inbound } } h' := by
  have size : inbound.size = h.rcv.inbound.size := congrArg List.length msgs
  obtain ⟨free, within, silent, kept⟩ := fruitless
  refine ⟨free, ?_, silent, kept.trans size.symm⟩
  change i + 1 + turns ≤ inbound.size
  omega

theorem goes (fruitless : Fruitless env (turns + 1) i h h') :
    ¬ (h.rcv.inbound.size ≤ i ∨ h.grantPacerBusy env.cfg = true) := by
  rintro (small | busy)
  · have := fruitless.within
    omega
  · exact nomatch busy.symm.trans fruitless.free

end Fruitless

theorem none_offerable {turns : ℕ} {inbound : RoundRobin UniqReqId} (step : h.rcv.inbound.next = some (id, inbound))
    (here : ¬ Offerable env.cfg id h) (later : ∀ other ∈ inbound.upcoming.take turns,
    ¬ Offerable env.cfg other { h with rcv := { h.rcv with inbound } }) :
    ∀ other ∈ h.rcv.inbound.upcoming.take (turns + 1), ¬ Offerable env.cfg other h := by
  obtain ⟨msgs, behind, front, back⟩ := RoundRobin.next_spec step
  intro other member offerable
  rw [front, List.take_succ_cons] at member
  rcases List.mem_cons.mp member with rfl | member
  · exact here offerable
  · apply later other _ (offerable.trims (.of_perm (List.Perm.of_eq msgs)))
    rw [back]
    exact ((List.prefix_append behind [id]).take turns).subset member

theorem tsMsgLoop_fruitless {turns i : ℕ} (ok : HalvesOk env.cfg h)
    (budget : maxEthernetFrameOnWire ≤ h.rcv.budgetBytes)
    (before : ret ≠ some .noBudget) (fruitless : Fruitless env turns i h h')
    (run : h.tsMsgLoop env now turns i ret = .ok h') : ∀ id ∈ h.rcv.inbound.upcoming.take turns,
    ¬ Offerable env.cfg id h := by
  induction turns generalizing i ret h with
  | zero => exact fun id none => absurd none List.not_mem_nil
  | succ turns ih =>
    unfold tsMsgLoop at run
    rw [if_neg fruitless.goes] at run
    split at run
    · cases run
    · next id peek =>
      rw [RoundRobin.peekNext_eq_head] at peek
      have inside := (RoundRobin.mem_upcoming _ _).mp (List.mem_of_mem_head? peek)
      simp only [Lib.bind_eq_ok] at run
      obtain ⟨⟨h1, ret1⟩, informed, run⟩ := run
      have after := grantInformed_budget informed budget before
      have first := grantInformed_offers ok inside informed
      dsimp only at run
      rw [if_neg after] at run
      split at run
      · cases run
      · next last inbound step =>
        have msgs := (RoundRobin.next_spec step).1
        have moves := Offers.reorder first.grants.ok inbound (List.Perm.of_eq msgs)
        obtain ⟨silent, kept⟩ := fruitless.parts first (moves.trans (tsMsgLoop_offers moves.grants.ok run))
        obtain rfl := grantInformed_still ok inside informed silent kept
        obtain rfl : last = id := by
          obtain ⟨-, behind, front, -⟩ := RoundRobin.next_spec step
          rw [front] at peek
          exact Option.some.inj peek
        apply none_offerable step
        · exact fun offerable => grantInformed_grants ok inside informed offerable silent
        · exact ih moves.grants.ok budget after (fruitless.next msgs) run

theorem sortedMsgLoop_fruitless {turns i : ℕ} (ok : HalvesOk env.cfg h) (fruitless : Fruitless env turns i h h')
    (run : h.sortedMsgLoop env now turns i ret = .ok h') : ∀ id ∈ h.rcv.inbound.upcoming.take turns,
    ¬ Offerable env.cfg id h := by
  induction turns generalizing i ret h with
  | zero => exact fun id none => absurd none List.not_mem_nil
  | succ turns ih =>
    unfold sortedMsgLoop at run
    rw [if_neg fruitless.goes] at run
    split at run
    · cases run
    · next id inbound step =>
      obtain ⟨msgs, behind, front, -⟩ := RoundRobin.next_spec step
      have inside : id ∈ inbound.msgs := by
        rw [msgs, ← RoundRobin.mem_upcoming, front]
        exact List.mem_cons_self
      simp only [Lib.bind_eq_ok] at run
      obtain ⟨⟨h1, ret1⟩, informed, run⟩ := run
      have moves := Offers.reorder ok inbound (List.Perm.of_eq msgs)
      have first := grantInformed_offers moves.grants.ok inside informed
      have moved := fruitless.next msgs
      obtain ⟨silent, kept⟩ := fruitless.parts (moves.trans first) (sortedMsgLoop_offers first.grants.ok run)
      obtain rfl := grantInformed_still moves.grants.ok inside informed silent
        (kept.trans (congrArg List.length msgs).symm)
      apply none_offerable step
      · intro offerable
        exact grantInformed_grants moves.grants.ok inside informed
          (offerable.trims (.of_perm (List.Perm.of_eq msgs))) silent
      · exact ih moves.grants.ok moved run

end Loops

section Passes

/-- What a pass with a free pacer does for a message that it can grant: a GRANT is sent, or a message removed. -/
def Serves (env : Env) (h h' : Host) : Prop :=
  h.grantPacerBusy env.cfg = false → maxEthernetFrameOnWire ≤ h.rcv.budgetBytes →
    (∃ id ∈ h.rcv.inbound.msgs, Offerable env.cfg id h) → h'.sent = h.sent → h'.rcv.inbound.size < h.rcv.inbound.size

variable (implemented : env.cfg.Implemented) (time : 0 < now) (grantable : Grantable env.cfg h)

include implemented time grantable

theorem sendGrantsTsMsg_offers (last : ∀ id, h.rcv.inbound.msgs = [id] → ¬ (h.rcv.msg id).Complete) :
    ∃ h', h.sendGrantsTsMsg env now = .ok h' ∧ Offers env.cfg h h' ∧ Serves env h h' := by
  obtain ⟨h', run⟩ := tsMsgLoop_succeeds implemented time h.rcv.inbound.size 0 none grantable fun _ => last
  have offers := tsMsgLoop_offers grantable.halves run
  refine ⟨h', run, offers, fun free budget ⟨id, inside, offerable⟩ silent => ?_⟩
  by_contra kept
  have size := (offers.silent silent).trims.size_le
  have fruitless : Fruitless env h.rcv.inbound.size 0 h h' := ⟨free, by omega, silent, by omega⟩
  refine tsMsgLoop_fruitless grantable.halves budget (by decide) fruitless run id ?_ offerable
  rw [RoundRobin.take_upcoming]
  exact (RoundRobin.mem_upcoming _ _).mpr inside

theorem sendGrantsSorted_offers (key : UniqReqId → ℤ) :
    ∃ h', h.sendGrantsSorted env now key = .ok h' ∧ Offers env.cfg h h' ∧ Serves env h h' := by
  unfold sendGrantsSorted
  split
  · next busy => exact ⟨h, rfl, .refl grantable.halves, fun free => by cases busy.symm.trans free⟩
  · have perm := env.plat.sortBy_perm key h.rcv.inbound.msgs
    have sorts := Offers.reorder grantable.halves (h.rcv.inbound.reorder _ perm).reset perm
    have size : (h.rcv.inbound.reorder _ perm).size = h.rcv.inbound.size := perm.length_eq
    obtain ⟨h', run⟩ := sortedMsgLoop_succeeds implemented time (h.rcv.inbound.reorder _ perm).size 0 none
      (grantable.grants sorts.grants)
    have offers := sortedMsgLoop_offers sorts.grants.ok run
    refine ⟨h', run, sorts.trans offers, fun free budget waits silent => ?_⟩
    obtain ⟨id, inside, offerable⟩ := waits
    by_contra kept
    have less := (offers.silent silent).trims.size_le
    have same : (h.rcv.inbound.reorder _ perm).reset.size = h.rcv.inbound.size := size
    have fruitless : Fruitless env (h.rcv.inbound.reorder _ perm).size 0
        { h with rcv := { h.rcv with inbound := (h.rcv.inbound.reorder _ perm).reset } } h' := by
      refine ⟨free, ?_, silent, ?_⟩
      · dsimp only
        omega
      · dsimp only at less ⊢
        omega
    refine sortedMsgLoop_fruitless sorts.grants.ok fruitless run id ?_ (offerable.trims (.of_perm perm))
    change id ∈ (h.rcv.inbound.reorder _ perm).reset.upcoming.take (h.rcv.inbound.reorder _ perm).reset.size
    rw [RoundRobin.take_upcoming]
    exact (RoundRobin.mem_upcoming _ _).mpr (perm.mem_iff.mpr inside)

/-- Nothing was sent by a call of send_grants. -/
structure Declines (env : Env) (now : Time) (h h' : Host) : Prop where
  early : now - h.lastGrantTime < 48 / 100000000 → h' = h
  late : ¬ now - h.lastGrantTime < 48 / 100000000 → Sheds (h.grantsBegin env now) h'
  fewer : h.GrantsDue env now → maxEthernetFrameOnWire ≤ h.rcv.budgetBytes →
    (∃ id ∈ h.rcv.inbound.msgs, Offerable env.cfg id h) → h'.rcv.inbound.size < h.rcv.inbound.size

theorem sendGrants_offers (policies : env.cfg.Grants)
    (last : env.cfg.receiverPolicy = 0 → ∀ id, h.rcv.inbound.msgs = [id] → ¬ (h.rcv.msg id).Complete) :
    ∃ h', h.sendGrants env now = .ok h' ∧ Grants env.cfg h h' ∧ (h'.sent = h.sent → Declines env now h h') := by
  obtain ⟨pace, policy⟩ := policies
  have begun := grantable.begin_ now
  have begins : Grants env.cfg h (h.grantsBegin env now) := pacing_ok grantable.halves ..
  -- what a policy does from there
  have pass : (∃ h', h.sendGrants env now = .ok h' ∧ Offers env.cfg (h.grantsBegin env now) h' ∧
      Serves env (h.grantsBegin env now) h') → ¬ now - h.lastGrantTime < 48 / 100000000 →
      ∃ h', h.sendGrants env now = .ok h' ∧ Grants env.cfg h h' ∧ (h'.sent = h.sent → Declines env now h h') := by
    rintro ⟨h', run, offers, serves⟩ late
    refine ⟨h', run, begins.trans offers.grants, fun silent => ⟨fun early => absurd early late, fun _ =>
      offers.silent silent, ?_⟩⟩
    intro due budget ⟨id, inside, info, needs, room⟩
    exact serves due.2 budget ⟨id, inside, info, needs, room⟩ silent
  by_cases early : now - h.lastGrantTime < 48 / 100000000
  · refine ⟨h, if_pos early, .refl grantable.halves, fun _ => ⟨fun _ => rfl, fun late => absurd early late,
      fun due => ?_⟩⟩
    exact absurd early due.1
  · apply pass _ early
    unfold sendGrants
    dsimp only
    rw [if_neg early, if_neg (by simp [pace])]
    rcases policy with ts | srpt | equal
    · rw [if_pos ts]
      exact sendGrantsTsMsg_offers implemented time begun (last ts)
    · rw [if_neg (by omega), if_pos srpt]
      exact sendGrantsSorted_offers implemented time begun _
    · rw [if_neg (by omega), if_neg (by omega), if_pos equal]
      exact sendGrantsSorted_offers implemented time begun _

end Passes

end Host

end PhantomPass
