import PhantomPass.Refinement.Announce

/-! How the sender chooses: every receiver's policy state names a message that
its pool can pay for, an unannounced one whenever there is one that it can pay
for, and the receiver selected is one that can send. -/

set_option autoImplicit false

namespace PhantomPass

open Lib (RoundRobin Store)

namespace Sender

variable {env : Env} {s s' : Sender} {addr : Addr}

def Affords (s : Sender) (addr : Addr) (id : UniqReqId) : Prop :=
  nextPktBytes (s.msg id).unsentBytes ≤ toUInt64 (s.rcvr addr).availCreditBytes

/-- What the loop of want_to_send has found among the messages it has seen. -/
def Found (s : Sender) (addr : Addr) (seen : List UniqReqId) (ps : PolicyState) : Prop :=
  (ps.canSend = false ∧ ps.msgState = none ∧ ∀ id ∈ seen, ¬ s.Affords addr id) ∨
    ps.canSend = true ∧ ∃ id ∈ seen, ps.msgState = some id ∧ s.Affords addr id ∧
      ps.wantToSendBytes = nextPktBytes (s.msg id).unsentBytes ∧
      ((s.msg id).sentAnouncement = true → ∀ other ∈ seen, s.Affords addr other → (s.msg other).sentAnouncement = true)

/-- A turn changes what is found, never the shares of the receivers. -/
structure SameShare (ps ps' : PolicyState) : Prop where
  deficit : ps'.deficit = ps.deficit
  quantum : ps'.quantum = ps.quantum

theorem wantToSendTurn_ok {ps ps' : PolicyState} {seen : List UniqReqId} {id : UniqReqId}
    (found : s.Found addr seen ps)
    (run : s.wantToSendTurn (toUInt64 (s.rcvr addr).availCreditBytes) id ps = .ok ps') :
    s.Found addr (seen ++ [id]) ps' ∧ SameShare ps ps' := by
  unfold wantToSendTurn assert at run
  simp only [Lib.bind_eq_ok, Lib.require_eq_ok, exists_and_left, exists_const] at run
  obtain ⟨-, -, run⟩ := run
  have last : id ∈ seen ++ [id] := List.mem_append_right _ (List.mem_singleton_self id)
  by_cases afford : nextPktBytes (s.msg id).unsentBytes ≤ toUInt64 (s.rcvr addr).availCreditBytes
  · rw [if_pos afford] at run
    by_cases keep : ps.canSend = true ∧ (s.msg id).sentAnouncement = true
    · rw [if_pos keep, Lib.pure_eq_ok] at run
      subst run
      refine ⟨?_, ⟨rfl, rfl⟩⟩
      rcases found with ⟨no, -⟩ | ⟨can, best, inside, state, affordable, bytes, prior⟩
      · rw [keep.1] at no; cases no
      · refine Or.inr ⟨can, best, List.mem_append_left _ inside, state, affordable, bytes,
          fun announced other member pays => ?_⟩
        rcases List.mem_append.mp member with old | new
        · exact prior announced other old pays
        · rw [List.mem_singleton.mp new]; exact keep.2
    · rw [if_neg keep, Lib.pure_eq_ok] at run
      subst run
      refine ⟨Or.inr ⟨rfl, id, last, rfl, afford, rfl, fun announced other member pays => ?_⟩, ⟨rfl, rfl⟩⟩
      -- an announced message is only taken when no other one could be sent
      rcases found with ⟨-, -, nothing⟩ | ⟨can, -⟩
      · rcases List.mem_append.mp member with old | new
        · exact absurd pays (nothing other old)
        · rw [List.mem_singleton.mp new]; exact announced
      · exact absurd ⟨can, announced⟩ keep
  · rw [if_neg afford, Lib.pure_eq_ok] at run
    subst run
    refine ⟨?_, ⟨rfl, rfl⟩⟩
    rcases found with ⟨no, state, nothing⟩ | ⟨can, best, inside, state, affordable, bytes, prior⟩
    · refine Or.inl ⟨no, state, fun other member => ?_⟩
      rcases List.mem_append.mp member with old | new
      · exact nothing other old
      · rw [List.mem_singleton.mp new]; exact afford
    · refine Or.inr ⟨can, best, List.mem_append_left _ inside, state, affordable, bytes,
        fun announced other member pays => ?_⟩
      rcases List.mem_append.mp member with old | new
      · exact prior announced other old pays
      · rw [List.mem_singleton.mp new] at pays; exact absurd pays afford

theorem wantToSendLoop_ok {ps ps' : PolicyState} {seen queue : List UniqReqId} (found : s.Found addr seen ps)
    (run : s.wantToSendLoop (toUInt64 (s.rcvr addr).availCreditBytes) queue ps = .ok ps') :
    s.Found addr (seen ++ queue) ps' ∧ SameShare ps ps' := by
  induction queue generalizing seen ps with
  | nil =>
    simp only [wantToSendLoop, Lib.pure_eq_ok] at run
    subst run
    rw [List.append_nil]
    exact ⟨found, ⟨rfl, rfl⟩⟩
  | cons id rest ih =>
    simp only [wantToSendLoop, Lib.bind_eq_ok] at run
    obtain ⟨ps1, turn, rest⟩ := run
    obtain ⟨found1, share1⟩ := wantToSendTurn_ok found turn
    obtain ⟨found2, share2⟩ := ih found1 rest
    rw [List.append_assoc, List.singleton_append] at found2
    exact ⟨found2, ⟨share2.deficit.trans share1.deficit, share2.quantum.trans share1.quantum⟩⟩

/-- Choosing sorts the vectors and fills policy states; nothing else changes. -/
structure Chooses (s s' : Sender) : Prop where
  outbound : s'.outbound = s.outbound
  inactive : s'.outboundInactive = s.outboundInactive
  remotes : s'.remotes.keys = s.remotes.keys
  credit : ∀ addr, (s'.rcvr addr).availCreditBytes = (s.rcvr addr).availCreditBytes
  creditData : ∀ addr, (s'.rcvr addr).availCreditDataBytes = (s.rcvr addr).availCreditDataBytes
  queue : ∀ addr, (s'.rcvr addr).outMsgs.msgs.Perm (s.rcvr addr).outMsgs.msgs
  counters : s'.creditReceived = s.creditReceived ∧ s'.creditUsed = s.creditUsed ∧
    s'.creditDataRequested = s.creditDataRequested ∧ s'.creditDataReceived = s.creditDataReceived

namespace Chooses

variable {s1 s2 s3 : Sender}

theorem refl (s : Sender) : Chooses s s :=
    ⟨rfl, rfl, rfl, fun _ => rfl, fun _ => rfl, fun _ => .refl _, rfl, rfl, rfl, rfl⟩

theorem trans (first : Chooses s1 s2) (second : Chooses s2 s3) : Chooses s1 s3 where
  outbound := second.outbound.trans first.outbound
  inactive := second.inactive.trans first.inactive
  remotes := second.remotes.trans first.remotes
  credit addr := (second.credit addr).trans (first.credit addr)
  creditData addr := (second.creditData addr).trans (first.creditData addr)
  queue addr := (second.queue addr).trans (first.queue addr)
  counters := ⟨second.counters.1.trans first.counters.1, second.counters.2.1.trans first.counters.2.1,
    second.counters.2.2.1.trans first.counters.2.2.1, second.counters.2.2.2.trans first.counters.2.2.2⟩

theorem msg (chooses : Chooses s1 s2) (id : UniqReqId) : s2.msg id = s1.msg id := by
  unfold Sender.msg; rw [chooses.outbound]

theorem pool (chooses : Chooses s1 s2) : s2.pool = s1.pool := by
  funext addr
  unfold Sender.pool
  rw [chooses.remotes, chooses.credit]

theorem side (chooses : Chooses s1 s2) (addr : Addr) (out grants : List Packet) :
    s2.side addr out grants = s1.side addr out grants := by
  unfold Sender.side
  rw [chooses.outbound, chooses.pool]

theorem queues (chooses : Chooses s1 s2) (queues : s1.Queues) : s2.Queues where
  inactive_nodup := by rw [chooses.inactive]; exact queues.inactive_nodup
  inactive id := by rw [chooses.inactive, chooses.outbound, chooses.msg]; exact queues.inactive id
  queue_nodup addr known := by
    rw [chooses.remotes] at known
    exact (chooses.queue addr).nodup_iff.mpr (queues.queue_nodup addr known)
  queue addr known id := by
    rw [chooses.remotes] at known
    rw [(chooses.queue addr).mem_iff, chooses.outbound, chooses.msg]
    exact queues.queue addr known id
  remote id inside := by
    rw [chooses.outbound] at inside
    rw [chooses.remotes, chooses.msg]; exact queues.remote id inside

theorem affords (chooses : Chooses s1 s2) (addr : Addr) (id : UniqReqId) : s2.Affords addr id ↔ s1.Affords addr id := by
  unfold Affords
  rw [chooses.msg, chooses.credit]

theorem states (chooses : Chooses s1 s2) (states : Addr → PolicyState) :
    Chooses s1 { s2 with rcverPolicyStates := states } :=
  ⟨chooses.outbound, chooses.inactive, chooses.remotes, chooses.credit, chooses.creditData, chooses.queue,
    chooses.counters⟩

end Chooses

/-- A policy state that can send names a message of the receiver's queue. -/
def PickOk (s : Sender) (addr : Addr) (ps : PolicyState) : Prop := s.Found addr (s.rcvr addr).outMsgs.msgs ps

theorem Chooses.found {s1 s2 : Sender} {ps : PolicyState} {seen seen' : List UniqReqId} (chooses : Chooses s1 s2)
    (perm : seen'.Perm seen) (found : s1.Found addr seen ps) : s2.Found addr seen' ps := by
  unfold Found at *
  simp only [chooses.affords, chooses.msg, perm.mem_iff]
  exact found

theorem Chooses.pickOk {s1 s2 : Sender} {ps : PolicyState} (chooses : Chooses s1 s2) (pick : s1.PickOk addr ps) :
    s2.PickOk addr ps := chooses.found (chooses.queue addr) pick

theorem Chooses.reorder {addr : Addr} (queue : RoundRobin UniqReqId)
    (perm : queue.msgs.Perm (s.rcvr addr).outMsgs.msgs) :
    Chooses s (s.modifyRcvr addr fun rs => { rs with outMsgs := queue }) where
  outbound := rfl
  inactive := rfl
  remotes := rfl
  credit other := by rw [rcvr_modifyRcvr]; split <;> simp_all
  creditData other := by rw [rcvr_modifyRcvr]; split <;> simp_all
  queue other := by
    rw [rcvr_modifyRcvr]
    split
    · next same => rw [same]; exact perm
    · exact .refl _
  counters := ⟨rfl, rfl, rfl, rfl⟩

/-- What want_to_send leaves: a receiver that cannot send has no share. -/
structure Wants (addr : Addr) (s s' : Sender) : Prop where
  chooses : Chooses s s'
  pick : s'.PickOk addr (s'.rcverPolicyStates addr)
  others : ∀ other ≠ addr, s'.rcverPolicyStates other = s.rcverPolicyStates other
  idle : (s'.rcverPolicyStates addr).canSend = false → (s'.rcverPolicyStates addr).deficit = 0
  share : (s'.rcverPolicyStates addr).canSend = true → (s'.rcverPolicyStates addr).deficit =
    (s.rcverPolicyStates addr).deficit

theorem wantToSend_ok (run : s.wantToSend env.plat addr = .ok s') : Wants addr s s' := by
  unfold wantToSend at run
  dsimp only at run
  by_cases empty : (s.rcvr addr).outMsgs.size = 0
  · rw [if_pos empty, Lib.pure_eq_ok] at run
    subst run
    have nothing : (s.rcvr addr).outMsgs.msgs = [] := List.eq_nil_of_length_eq_zero empty
    have chooses := (Chooses.refl s).states (Function.update s.rcverPolicyStates addr
      { s.rcverPolicyStates addr with
        canSend := false, msgState := none, wantToSendBytes := 0, deficit := 0, quantum := 0 })
    constructor
    case chooses => exact chooses
    case pick =>
      refine chooses.pickOk (Or.inl ?_)
      simp only [Function.update_self, nothing]
      exact ⟨trivial, trivial, by simp⟩
    case others => exact fun other apart => Function.update_of_ne apart ..
    case idle => intro _; simp only [Function.update_self]
    case share => intro can; simp only [Function.update_self] at can; cases can
  · rw [if_neg empty] at run
    simp only [Lib.bind_eq_ok, Lib.pure_eq_ok, RoundRobin.msgs_reorder] at run
    obtain ⟨ps, loop, rfl⟩ := run
    have start : s.Found addr []
        { s.rcverPolicyStates addr with canSend := false, msgState := none, wantToSendBytes := 0 } :=
      Or.inl ⟨rfl, rfl, by simp⟩
    obtain ⟨found, share⟩ := wantToSendLoop_ok start loop
    rw [List.nil_append] at found
    have perm := env.plat.sortBy_perm (fun id => ((s.msg id).unsentBytes : ℤ)) (s.rcvr addr).outMsgs.msgs
    have chooses := (Chooses.reorder ((s.rcvr addr).outMsgs.reorder _ perm).reset perm).states
      (Function.update s.rcverPolicyStates addr (if ps.canSend then ps else
        { ps with deficit := 0, wantToSendBytes := 0, quantum := 0, msgState := none }))
    constructor
    case chooses => exact chooses
    case pick =>
      refine chooses.pickOk ?_
      simp only [Function.update_self]
      refine (Chooses.refl s).found perm.symm ?_
      cases can : ps.canSend with
      | true => exact found
      | false =>
        rcases found with ⟨-, -, nothing⟩ | ⟨yes, -⟩
        · exact Or.inl ⟨rfl, rfl, nothing⟩
        · rw [can] at yes; cases yes
    case others => exact fun other apart => Function.update_of_ne apart ..
    case idle => intro cannot; simp only [Function.update_self] at *; split at * <;> simp_all
    case share =>
      intro can
      simp only [Function.update_self] at *
      split at can <;> simp_all [share.deficit]

def PicksOk (s : Sender) (order : List Addr) : Prop := ∀ addr ∈ order, s.PickOk addr (s.rcverPolicyStates addr)

theorem findCanSend_ok {order : List Addr} {pass pass' : PolicyPass}
    (run : findCanSend env order s pass = .ok (s', pass')) :
    Chooses s s' ∧ s'.PicksOk order ∧ ∀ addr ∉ order, s'.rcverPolicyStates addr = s.rcverPolicyStates addr := by
  induction order generalizing s pass with
  | nil =>
    simp only [findCanSend, Lib.pure_eq_ok, Prod.mk.injEq] at run
    obtain ⟨rfl, -⟩ := run
    exact ⟨.refl s, by simp [PicksOk], fun _ _ => rfl⟩
  | cons addr rest ih =>
    unfold findCanSend assert at run
    simp only [Lib.bind_eq_ok] at run
    obtain ⟨s1, wants, pass1, -, -, -, loop⟩ := run
    have first := wantToSend_ok wants
    obtain ⟨chooses, picks, untouched⟩ := ih loop
    refine ⟨first.chooses.trans chooses, fun other member => ?_, fun other outside => ?_⟩
    · by_cases again : other ∈ rest
      · exact picks other again
      · rw [(List.mem_cons.mp member).resolve_right again] at *
        rw [untouched addr again]
        exact chooses.pickOk first.pick
    · rw [List.mem_cons, not_or] at outside
      rw [untouched other outside.2, first.others other outside.1]

def SamePick (ps ps' : PolicyState) : Prop :=
  ps'.canSend = ps.canSend ∧ ps'.msgState = ps.msgState ∧ ps'.wantToSendBytes = ps.wantToSendBytes

theorem SamePick.refl (ps : PolicyState) : SamePick ps ps := ⟨rfl, rfl, rfl⟩

theorem SamePick.trans {ps1 ps2 ps3 : PolicyState} (first : SamePick ps1 ps2) (second : SamePick ps2 ps3) :
    SamePick ps1 ps3 := ⟨second.1.trans first.1, second.2.1.trans first.2.1, second.2.2.trans first.2.2⟩

theorem PickOk.samePick {ps ps' : PolicyState} (pick : s.PickOk addr ps) (same : SamePick ps ps') :
    s.PickOk addr ps' := by
  unfold PickOk Found at *
  rw [same.1, same.2.1, same.2.2]
  exact pick

theorem samePick_update {states : Addr → PolicyState} {addr : Addr} {ps : PolicyState}
    (same : SamePick (states addr) ps)
    (other : Addr) : SamePick (states other) (Function.update states addr ps other) := by
  by_cases here : other = addr
  · subst here; rw [Function.update_self]; exact same
  · rw [Function.update_of_ne here]; exact .refl _

theorem addDeficits_ok {high highFlow : Addr} {highQuantum lowQuantum : ℚ} {order : List Addr}
    {states states' : Addr → PolicyState}
    (run : addDeficits high highFlow highQuantum lowQuantum order states = .ok states') (addr : Addr) :
    SamePick (states addr) (states' addr) := by
  induction order generalizing states with
  | nil =>
    simp only [addDeficits, Lib.pure_eq_ok] at run
    subst run
    exact .refl _
  | cons next rest ih =>
    unfold addDeficits assert at run
    dsimp only at run
    by_cases can : (states next).canSend = true
    · rw [if_pos can] at run
      simp only [Lib.bind_eq_ok] at run
      obtain ⟨-, -, -, -, -, -, run⟩ := run
      refine (samePick_update ?_ addr).trans (ih run)
      exact ⟨rfl, rfl, rfl⟩
    · rw [if_neg can] at run
      simp only [Lib.bind_eq_ok] at run
      obtain ⟨-, -, run⟩ := run
      exact ih run

theorem updatePolicyState_ok (run : s.updatePolicyState env = .ok s') :
    Chooses s s' ∧ ∀ addr ∈ s'.remotes.keys, s'.PickOk addr (s'.rcverPolicyStates addr) := by
  unfold updatePolicyState at run
  simp only [Lib.bind_eq_ok] at run
  obtain ⟨-, -, ⟨s1, pass⟩, find, run⟩ := run
  obtain ⟨chooses, picks, -⟩ := findCanSend_ok find
  have known : ∀ addr ∈ s1.remotes.keys, s1.PickOk addr (s1.rcverPolicyStates addr) := fun addr member =>
    picks addr ((env.plat.walk_perm _).mem_iff.mpr (chooses.remotes ▸ member))
  dsimp only at run
  by_cases none_can : pass.numCanSend = 0
  · rw [if_pos none_can, Lib.pure_eq_ok] at run
    subst run
    exact ⟨chooses, known⟩
  · rw [if_neg none_can] at run
    split at run
    · cases run
    · cases run
    · next high highFlow _ _ =>
      unfold assert at run
      simp only [Lib.bind_eq_ok, Lib.pure_eq_ok] at run
      obtain ⟨-, -, -, -, -, -, -, -, -, -, states, deficits, rfl⟩ := run
      refine ⟨chooses.states states, fun addr member => ?_⟩
      refine ((Chooses.refl s1).states states).pickOk ((known addr member).samePick ?_)
      refine SamePick.trans ?_ (addDeficits_ok deficits addr)
      rw [if_pos (show addr ∈ s1.remotes.keys from member)]
      exact ⟨rfl, rfl, rfl⟩

theorem highestDeficit_ok {states : Addr → PolicyState} {order : List Addr} {ret ret' : Option Addr} {low high : ℚ}
    (run : highestDeficit states order ret low = .ok (ret', high)) {addr : Addr} (selected : ret' = some addr) :
    ret = some addr ∨ addr ∈ order ∧ (states addr).canSend = true := by
  induction order generalizing ret low with
  | nil =>
    simp only [highestDeficit, Lib.pure_eq_ok, Prod.mk.injEq] at run
    exact Or.inl (run.1.trans selected)
  | cons next rest ih =>
    unfold highestDeficit assert at run
    dsimp only at run
    by_cases can : (states next).canSend = true
    · rw [if_pos can] at run
      by_cases more : low < (states next).deficit
      · rw [if_pos more] at run
        simp only [Lib.bind_eq_ok] at run
        obtain ⟨-, -, -, -, run⟩ := run
        rcases ih run with here | ⟨later, yes⟩
        · cases here; exact Or.inr ⟨List.mem_cons_self, can⟩
        · exact Or.inr ⟨List.mem_cons_of_mem _ later, yes⟩
      · rw [if_neg more] at run
        rcases ih run with here | ⟨later, yes⟩
        · exact Or.inl here
        · exact Or.inr ⟨List.mem_cons_of_mem _ later, yes⟩
    · rw [if_neg can] at run
      simp only [Lib.bind_eq_ok] at run
      obtain ⟨-, -, run⟩ := run
      rcases ih run with here | ⟨later, yes⟩
      · exact Or.inl here
      · exact Or.inr ⟨List.mem_cons_of_mem _ later, yes⟩

theorem addQuanta_ok {order : List Addr} {states states' : Addr → PolicyState}
    (run : addQuanta order states = .ok states') (addr : Addr) : SamePick (states addr) (states' addr) := by
  induction order generalizing states with
  | nil =>
    simp only [addQuanta, Lib.pure_eq_ok] at run
    subst run
    exact .refl _
  | cons next rest ih =>
    unfold addQuanta assert at run
    dsimp only at run
    by_cases can : (states next).canSend = true
    · rw [if_pos can] at run
      simp only [Lib.bind_eq_ok] at run
      obtain ⟨-, -, run⟩ := run
      refine (samePick_update ?_ addr).trans (ih run)
      exact ⟨rfl, rfl, rfl⟩
    · rw [if_neg can] at run
      exact ih run

theorem selectRounds_ok {order : List Addr} {rounds : ℕ} {states states' : Addr → PolicyState} {ret : Option Addr}
    (run : selectRounds order rounds states = .ok (ret, states')) :
    (∀ addr, SamePick (states addr) (states' addr)) ∧ ∀ addr, ret = some addr → addr ∈ order ∧
    (states addr).canSend = true := by
  induction rounds generalizing states with
  | zero => simp [selectRounds] at run
  | succ rounds ih =>
    unfold selectRounds assert at run
    simp only [Lib.bind_eq_ok] at run
    obtain ⟨⟨selected, highest⟩, first, run⟩ := run
    cases selected with
    | none =>
      simp only [Lib.pure_eq_ok, Prod.mk.injEq] at run
      obtain ⟨rfl, rfl⟩ := run
      exact ⟨fun _ => .refl _, by simp⟩
    | some addr =>
      dsimp only at run
      by_cases low : highest < 1
      · rw [if_pos low] at run
        simp only [Lib.bind_eq_ok] at run
        obtain ⟨states1, quanta, run⟩ := run
        obtain ⟨same, selected⟩ := ih run
        refine ⟨fun other => (addQuanta_ok quanta other).trans (same other), fun other here => ?_⟩
        obtain ⟨member, can⟩ := selected other here
        exact ⟨member, (addQuanta_ok quanta other).1 ▸ can⟩
      · rw [if_neg low] at run
        simp only [Lib.bind_eq_ok, Lib.pure_eq_ok, Prod.mk.injEq] at run
        obtain ⟨-, -, rfl, rfl⟩ := run
        refine ⟨samePick_update ⟨rfl, rfl, rfl⟩, fun other here => ?_⟩
        cases here
        exact (highestDeficit_ok first rfl).resolve_left (by simp)

theorem selectMsgToSend_ok {selected : Option Addr} (run : s.selectMsgToSend env.plat = .ok (selected, s'))
    (picks : ∀ addr ∈ s.remotes.keys, s.PickOk addr (s.rcverPolicyStates addr)) :
    Chooses s s' ∧ ∀ addr, selected = some addr → addr ∈ s'.remotes.keys ∧ (s'.rcverPolicyStates addr).canSend = true ∧
      s'.PickOk addr (s'.rcverPolicyStates addr) := by
  unfold selectMsgToSend at run
  simp only [Lib.bind_eq_ok, Lib.pure_eq_ok, Prod.mk.injEq] at run
  obtain ⟨⟨ret, states⟩, rounds, rfl, rfl⟩ := run
  obtain ⟨same, selected⟩ := selectRounds_ok rounds
  have chooses := (Chooses.refl s).states states
  refine ⟨chooses, fun addr here => ?_⟩
  obtain ⟨member, can⟩ := selected addr here
  have known : addr ∈ s.remotes.keys := (env.plat.walk_perm _).mem_iff.mp member
  exact ⟨known, (same addr).1.trans can, chooses.pickOk ((picks addr known).samePick (same addr))⟩

end Sender

end PhantomPass
