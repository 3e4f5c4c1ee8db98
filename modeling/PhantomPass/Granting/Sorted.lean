import PhantomPass.Deployment
import PhantomPass.Granting.Turns
import PhantomPass.Network.Links
import PhantomPass.Pacing.Runs

/-! The granting policies that sort: which messages a pass considers when it
removes messages from the list that bounds its loop. -/

set_option autoImplicit false

namespace PhantomPass

open Lib (RoundRobin Store)

namespace Host

/-- The loop of the sorting policies, with the messages that it has passed to
send_credit_policy_common. -/
def sortedMsgPass (env : Env) (now : Time) : ℕ → ℕ → Option CreditResult → List UniqReqId → Host →
    Checked (Host × List UniqReqId)
  | 0, _, _, passed, h => return (h, passed)
  | turns + 1, i, ret, passed, h =>
    if h.rcv.inbound.size ≤ i ∨ h.grantPacerBusy env.cfg then return (h, passed)
    else
      match h.rcv.inbound.next with
      | none => throw (.thrown .inboundNext "there is no next() because the array is empty")
      | some (id, inbound) => do
        let informed := (h.rcv.msg id).receivedMsgInfo
        let (h, ret) ← { h with rcv := { h.rcv with inbound } }.grantInformed env now id ret
        sortedMsgPass env now turns (i + 1) ret (if informed then passed ++ [id] else passed) h

theorem sorted_perm (env : Env) (key : UniqReqId → ℤ) (h : Host) :
    (env.plat.sortBy key h.rcv.inbound.msgs).Perm h.rcv.inbound.msgs :=
  env.plat.sortBy_perm ..

/-- A pass of a sorting policy, with the messages that it considers. -/
def sortedPass (env : Env) (now : Time) (key : UniqReqId → ℤ) (h : Host) : Checked (Host × List UniqReqId) :=
  if h.grantPacerBusy env.cfg then return (h, [])
  else
    let sorted := h.rcv.inbound.reorder (env.plat.sortBy key h.rcv.inbound.msgs) (sorted_perm env key h)
    { h with rcv := { h.rcv with inbound := sorted.reset } }.sortedMsgPass env now sorted.size 0 none []

/-- What send_grants_srpt_msg sorts by. -/
def srptKey (h : Host) (id : UniqReqId) : ℤ :=
  toUInt64 ((h.rcv.msg id).dataBytesExpected - (h.rcv.msg id).dataBytesReceived : ℤ)

/-- What send_grants_equal_bif_msg sorts by. -/
def equalBifKey (h : Host) (id : UniqReqId) : ℤ := -(h.rcv.sender (h.rcv.msg id).remoteAddr).srpbBytes

variable {env : Env} {h h' : Host} {now : Time}

theorem sortedMsgPass_fst (turns i : ℕ) (ret : Option CreditResult) (passed : List UniqReqId) (h : Host) :
    Prod.fst <$> h.sortedMsgPass env now turns i ret passed = h.sortedMsgLoop env now turns i ret := by
  induction turns generalizing i ret passed h with
  | zero => rfl
  | succ turns ih =>
    unfold sortedMsgPass sortedMsgLoop
    split
    · rfl
    · cases h.rcv.inbound.next with
      | none => rfl
      | some step =>
        obtain ⟨id, inbound⟩ := step
        dsimp only
        rw [map_bind]
        congr 1
        funext result
        exact ih ..

theorem sortedPass_fst (key : UniqReqId → ℤ) (h : Host) :
    Prod.fst <$> h.sortedPass env now key = h.sendGrantsSorted env now key := by
  unfold sortedPass sendGrantsSorted
  split
  · rfl
  · exact sortedMsgPass_fst ..

section Loop

variable {msg : UniqReqId → InboundMsgState} {rest kept passed passed' : List UniqReqId} {removed : ℕ}

def informed (msg : UniqReqId → InboundMsgState) (ids : List UniqReqId) : List UniqReqId :=
  ids.filter fun id => (msg id).receivedMsgInfo

def completed (msg : UniqReqId → InboundMsgState) (ids : List UniqReqId) : ℕ :=
  ids.countP fun id => decide (msg id).Complete

/-- Behind each message whose size is known there are at least as many messages
as are removed before the walk comes to it. -/
def InTime (msg : UniqReqId → InboundMsgState) (removed : ℕ) (ids : List UniqReqId) : Prop :=
  ∀ before id after, ids = before ++ id :: after → (msg id).receivedMsgInfo = true →
    removed + completed msg before ≤ after.length

theorem inTime_of_none_complete {ids : List UniqReqId} (none_complete : completed msg ids = 0) : InTime msg 0 ids := by
  intro before id after split _
  rw [split, completed, List.countP_append] at none_complete
  unfold completed
  omega

theorem informed_cons (id : UniqReqId) (rest : List UniqReqId) :
    informed msg (id :: rest) = (if (msg id).receivedMsgInfo then [id] else []) ++ informed msg rest := by
  unfold informed
  rw [List.filter_cons]
  split <;> rfl

theorem completed_cons (id : UniqReqId) (rest : List UniqReqId) :
    completed msg (id :: rest) = completed msg rest + if (msg id).Complete then 1 else 0 := by
  unfold completed
  rw [List.countP_cons]
  simp only [decide_eq_true_eq]

theorem inTime_cons {id : UniqReqId} (room : removed ≤ rest.length) :
    InTime msg removed (id :: rest) ↔ InTime msg (removed + if (msg id).Complete then 1 else 0) rest := by
  constructor
  · intro inTime before other after split info
    have enough := inTime (id :: before) other after (by rw [split, List.cons_append]) info
    rw [completed_cons] at enough
    omega
  · intro inTime before other after split info
    cases before with
    | nil =>
      obtain ⟨-, rfl⟩ := List.cons.inj split
      exact room
    | cons first before =>
      obtain ⟨rfl, split'⟩ := List.cons.inj split
      have enough := inTime before other after split' info
      rw [completed_cons]
      omega

theorem inTime_late (late : rest.length ≤ removed) : InTime msg removed rest ↔ informed msg rest = [] := by
  constructor
  · intro inTime
    refine List.filter_eq_nil_iff.mpr fun id inside info => ?_
    obtain ⟨before, after, split⟩ := List.append_of_mem inside
    have enough := inTime before id after split info
    have length := congrArg List.length split
    rw [List.length_append, List.length_cons] at length
    omega
  · intro none before id after split info
    have inside : id ∈ informed msg rest := List.mem_filter.mpr ⟨by rw [split]; simp, info⟩
    rw [none] at inside
    exact absurd inside List.not_mem_nil

theorem sortedMsgPass_iff {turns i : ℕ} {ret : Option CreditResult} (upcoming : h.rcv.inbound.upcoming = rest ++ kept)
    (nodup : (rest ++ kept).Nodup) (states : ∀ id ∈ rest, h.rcv.msg id = msg id) (enough : rest.length ≤ turns)
    (visited : i = kept.length + removed)
    (run : h.sortedMsgPass env now turns i ret passed = .ok (h', passed')) (room : h'.grantPacerBusy env.cfg = false) :
    ∃ more, passed' = passed ++ more ∧ (more = informed msg rest ↔ InTime msg removed rest) := by
  -- `rest` is what the cursor has not come to yet, `kept` what it passed and left in the list
  induction turns generalizing rest kept i ret passed h removed with
  | zero =>
    rw [sortedMsgPass, Lib.pure_eq_ok, Prod.mk.injEq] at run
    have none : rest = [] := List.eq_nil_of_length_eq_zero (Nat.le_zero.mp enough)
    subst none
    exact ⟨[], by rw [run.2, List.append_nil], iff_of_true rfl ((inTime_late (Nat.zero_le _)).mpr rfl)⟩
  | succ turns ih =>
    have size : h.rcv.inbound.size = rest.length + kept.length := by
      rw [← RoundRobin.length_upcoming, upcoming, List.length_append]
    unfold sortedMsgPass at run
    split at run
    · next stops =>
      rw [Lib.pure_eq_ok, Prod.mk.injEq] at run
      obtain ⟨rfl, rfl⟩ := run
      have small := stops.resolve_right (by rw [room]; exact Bool.false_ne_true)
      refine ⟨[], (List.append_nil _).symm, ?_⟩
      rw [inTime_late (by omega), eq_comm]
    · next goes =>
      split at run
      · cases run
      · next first inbound step =>
        obtain ⟨-, tail, head, moved⟩ := RoundRobin.next_spec step
        cases rest with
        | nil =>
          exact absurd (Or.inl (by rw [size, visited, List.length_nil]; omega)) goes
        | cons id rest =>
          rw [upcoming, List.cons_append] at head
          obtain ⟨rfl, rfl⟩ := List.cons.inj head
          simp only [Lib.bind_eq_ok] at run
          obtain ⟨⟨h1, ret1⟩, granted, run⟩ := run
          have away : id ∉ rest ++ kept := (List.nodup_cons.mp nodup).1
          have perm : (rest ++ kept ++ [id]).Perm (id :: rest ++ kept) := List.perm_append_comm
          have again : (rest ++ kept ++ [id]).Nodup := perm.nodup_iff.mpr nodup
          have once : inbound.msgs.Nodup := by
            rw [← inbound.upcoming_perm.nodup_iff, moved]
            exact again
          have visits := grantInformed_visits once granted
          have here : h.rcv.msg id = msg id := states id List.mem_cons_self
          have before : h1.rcv.inbound.upcoming =
              if (msg id).Complete then (rest ++ kept ++ [id]).erase id else rest ++ kept ++ [id] := by
            rw [visits.upcoming, ← here, ← moved]
            rfl
          have still : ∀ other ∈ rest, h1.rcv.msg other = msg other := by
            intro other inside
            rw [visits.others other fun same => away (List.mem_append_left _ (same ▸ inside))]
            exact states other (List.mem_cons_of_mem _ inside)
          have few : removed ≤ rest.length := by
            have large : ¬ h.rcv.inbound.size ≤ i := fun small => goes (Or.inl small)
            rw [size, visited, List.length_cons] at large
            omega
          have left : ∃ kept', h1.rcv.inbound.upcoming = rest ++ kept' ∧ (rest ++ kept').Nodup ∧
              i + 1 = kept'.length + (removed + if (msg id).Complete then 1 else 0) := by
            split at before
            · next complete =>
              rw [List.erase_append_right _ away, List.erase_cons_head, List.append_nil] at before
              exact ⟨kept, before, (List.nodup_cons.mp nodup).2, by rw [if_pos complete, visited]; omega⟩
            · next incomplete =>
              rw [List.append_assoc] at before again
              refine ⟨kept ++ [id], before, again, ?_⟩
              rw [if_neg incomplete, visited, List.length_append, List.length_singleton]
              omega
          obtain ⟨kept', upcoming', nodup', visited'⟩ := left
          obtain ⟨more, passes, iff⟩ := ih upcoming' nodup' still (Nat.le_of_succ_le_succ enough) visited' run
          refine ⟨(if (msg id).receivedMsgInfo then [id] else []) ++ more, ?_, ?_⟩
          · rw [passes, here]
            split
            · rw [List.append_assoc]
            · rfl
          · rw [informed_cons, List.append_cancel_left_eq, inTime_cons few, iff]

end Loop

/-- A pass that ends with room considers every message of which it knows the
size, once and in their order, exactly when each comes in time. -/
theorem sortedPass_iff {key : UniqReqId → ℤ} {passed : List UniqReqId} (nodup : h.rcv.inbound.msgs.Nodup)
    (run : h.sortedPass env now key = .ok (h', passed)) (room : h'.grantPacerBusy env.cfg = false) :
    passed = informed h.rcv.msg (env.plat.sortBy key h.rcv.inbound.msgs) ↔
      InTime h.rcv.msg 0 (env.plat.sortBy key h.rcv.inbound.msgs) := by
  unfold sortedPass at run
  split at run
  · next busy =>
    rw [Lib.pure_eq_ok, Prod.mk.injEq] at run
    rw [run.1, room] at busy
    cases busy
  · have perm := env.plat.sortBy_perm key h.rcv.inbound.msgs
    have once : (env.plat.sortBy key h.rcv.inbound.msgs).Nodup := perm.nodup_iff.mpr nodup
    let sorted := (h.rcv.inbound.reorder _ perm).reset
    have start : sorted.upcoming = env.plat.sortBy key h.rcv.inbound.msgs ++ [] := by
      rw [List.append_nil, RoundRobin.upcoming_reset, RoundRobin.msgs_reorder]
    have same : ∀ id ∈ env.plat.sortBy key h.rcv.inbound.msgs, h.rcv.msg id = h.rcv.msg id := fun _ _ => rfl
    obtain ⟨more, passes, iff⟩ := sortedMsgPass_iff (h := { h with rcv := { h.rcv with inbound := sorted } }) start
      (by rw [List.append_nil]; exact once) same (le_refl _) (show 0 = ([] : List UniqReqId).length + 0
        from rfl) run room
    rw [passes, List.nil_append]
    exact iff

end Host

namespace Net

variable {env : Env} {net : Net} {a : Addr}

/-- The sorting policies do what their passes do, which consider every message
exactly when the removals of a pass let each come in time; in every run a host
lists a message once. -/
theorem sorted_passes_iff (env : Env) :
    (∀ now (h : Host), Prod.fst <$> h.sortedPass env now h.srptKey = h.sendGrantsSrptMsg env now ∧
      Prod.fst <$> h.sortedPass env now h.equalBifKey = h.sendGrantsEqualBifMsg env now) ∧
    (∀ net, Reachable env net → ∀ a, (net.host a).rcv.inbound.msgs.Nodup) ∧
    ∀ now key (h h' : Host) passed, h.rcv.inbound.msgs.Nodup → h.sortedPass env now key = .ok (h', passed) →
      h'.grantPacerBusy env.cfg = false →
        (passed = Host.informed h.rcv.msg (env.plat.sortBy key h.rcv.inbound.msgs) ↔
          Host.InTime h.rcv.msg 0 (env.plat.sortBy key h.rcv.inbound.msgs)) := by
  refine ⟨fun now h => ⟨h.sortedPass_fst .., h.sortedPass_fst ..⟩, ?_, ?_⟩
  · intro net reach a
    exact (reach.ok.host a).halves.recv.nodup
  · intro now key h h' passed nodup run room
    exact Host.sortedPass_iff nodup run room

def twoAsk : List (Net → Event) :=
  [fun _ => .request 0 1 0 0 0 200, fun _ => .request 0 1 0 0 0 100, fun _ => .tick (1 / 1000000), fun _ => .poll 0,
    deliverFirst, deliverFirst, fun _ => .tick (1 / 1000000)]

/-- None of two messages is complete, and the pass considers both. -/
theorem sorted_passes_iff_twoAsk : ∃ net h' passed, Reachable tenFrames net ∧ passed.length = 2 ∧
    ((net.host 1).grantsBegin tenFrames net.clock).sortedPass tenFrames net.clock (net.host 1).srptKey =
      .ok (h', passed) ∧
    passed = Host.informed (net.host 1).rcv.msg
      (tenFrames.plat.sortBy (net.host 1).srptKey (net.host 1).rcv.inbound.msgs) := by
  have ran : ((init tenFrames.cfg).run tenFrames twoAsk).map (fun net =>
      (Host.completed (net.host 1).rcv.msg (tenFrames.plat.sortBy (net.host 1).srptKey (net.host 1).rcv.inbound.msgs),
        (do
          let (h', passed) ← ((net.host 1).grantsBegin tenFrames net.clock).sortedPass tenFrames net.clock
            (net.host 1).srptKey
          return (h'.grantPacerBusy tenFrames.cfg, passed.length) : Checked (Bool × ℕ)))) =
      some (0, .ok (false, 2)) := by decide +kernel
  obtain ⟨net, run, pass⟩ := Option.map_eq_some_iff.mp ran
  obtain ⟨none_complete, result⟩ := Prod.mk.inj pass
  simp only [Lib.bind_eq_ok, Lib.pure_eq_ok, Prod.mk.injEq] at result
  obtain ⟨⟨h', passed⟩, passes, room, two⟩ := result
  have reach : Reachable tenFrames net := Reach.run .init (fun _ _ _ => trivial) run
  have nodup := (sorted_passes_iff tenFrames).2.1 net reach 1
  have considers := (sorted_passes_iff tenFrames).2.2 net.clock (net.host 1).srptKey
    ((net.host 1).grantsBegin tenFrames net.clock) h' passed nodup passes room
  exact ⟨net, h', passed, reach, two, passes, considers.mpr (Host.inTime_of_none_complete none_complete)⟩

/-- A short message takes the credit of a long one, so that all of it has
arrived when it is granted credit of its own. -/
def overtaken : List (Net → Event) :=
  [fun _ => .request 0 1 0 0 0 3000, fun _ => .tick (1 / 1000000), fun _ => .poll 0, deliverFirst,
    fun _ => .tick (1 / 1000000), fun _ => .poll 1, fun _ => .request 0 1 0 0 0 100, deliverFirst,
    fun _ => .tick (1 / 1000000), fun _ => .poll 0, deliverFirst, deliverFirst,
    fun _ => .tick (1 / 1000000), fun _ => .poll 1, fun _ => .tick (1 / 1000000)]

/-- The pass removes the short message, and the loop ends before the long one. -/
theorem overtaken_unconsidered : ¬ ∀ (env : Env) (net : Net) (a : Addr) (h' : Host) (passed : List UniqReqId),
    Reachable env net →
    ((net.host a).grantsBegin env net.clock).sortedPass env net.clock (net.host a).srptKey = .ok (h', passed) →
    h'.grantPacerBusy env.cfg = false →
      passed = Host.informed (net.host a).rcv.msg
      (env.plat.sortBy (net.host a).srptKey (net.host a).rcv.inbound.msgs) := by
  intro claimed
  have ran : ((init tenFrames.cfg).run tenFrames overtaken).map (fun net =>
      ((do
        let (h', passed) ← ((net.host 1).grantsBegin tenFrames net.clock).sortedPass tenFrames net.clock
          (net.host 1).srptKey
        return (h'.grantPacerBusy tenFrames.cfg, passed)),
        Host.informed (net.host 1).rcv.msg (tenFrames.plat.sortBy (net.host 1).srptKey
          (net.host 1).rcv.inbound.msgs))) =
      some (.ok (false, [⟨0, 0, 1⟩]), [⟨0, 0, 1⟩, ⟨0, 0, 0⟩]) := by decide +kernel
  obtain ⟨net, run, pass⟩ := Option.map_eq_some_iff.mp ran
  obtain ⟨result, all⟩ := Prod.mk.inj pass
  simp only [Lib.bind_eq_ok, Lib.pure_eq_ok, Prod.mk.injEq] at result
  obtain ⟨⟨h', passed⟩, passes, room, rfl⟩ := result
  have considers := claimed tenFrames net 1 h' _ (Reach.run .init (fun _ _ _ => trivial) run) passes room
  rw [all] at considers
  exact absurd considers (by decide)

end Net

end PhantomPass
