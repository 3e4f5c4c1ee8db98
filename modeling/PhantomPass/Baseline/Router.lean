import Mathlib
import PhantomPass.Config
import PhantomPass.Lib.Runs

/-! R2p2Router in JBSQ mode: a request goes to the worker with the shortest
queue that has room, or waits. Requests are dispatched as they should, until a
feedback finds no more waiting requests than it makes room for. -/

set_option autoImplicit false

namespace PhantomPass.Baseline

abbrev Worker := Addr × ℤ

structure ServerState where
  servedReqs : ℤ := 0
  pendingReqs : ℤ := 0
  n : ℤ := 3
  deriving DecidableEq

/-- A request that was sent to a worker, whether it had to wait, and what the
router knew of the worker. -/
structure Forwarded where
  pkt : Packet
  worker : Worker
  waited : Bool
  state : ServerState
  deriving DecidableEq

/-- The router. Requests spend the same time in it before they are handled, so
that they are handled in the order in which they came. The histories are kept
beside the state; the code reads none of them. -/
structure Router where
  serverState : Worker → ServerState := fun _ => {}
  scheduled : List Packet := []
  pendingPkts : List Packet := []
  received : List Packet := []
  handled : List Packet := []
  queued : List Packet := []
  forwarded : List Forwarded := []
  reported : List (Worker × ℤ) := []

namespace Router

variable (workers : List Worker) (s : Router)

/-- The bound that find_worker_shortest_q starts its search with. -/
def shortestQLength : ℤ := 1000000000

/-- One turn of the scan: the shortest queue so far, and its worker. -/
def shorter (best : ℤ × Option Worker) (worker : Worker) : ℤ × Option Worker :=
  let state := s.serverState worker
  -- the first of several shortest queues wins
  if state.pendingReqs < best.1 ∧ state.pendingReqs < state.n then (state.pendingReqs, some worker) else best

def findWorkerShortestQ (_clientAddr : Addr) : Option Worker :=
  (workers.foldl s.shorter (shortestQLength, none)).2

def forwardRequest (pkt : Packet) (worker : Worker) (waited : Bool) : Router :=
  let state := s.serverState worker
  { s with
    serverState := Function.update s.serverState worker { state with pendingReqs := state.pendingReqs + 1 }
    forwarded := s.forwarded ++ [⟨pkt, worker, waited, state⟩] }

/-- forward_queued_pkts: before each search it reads the client of the first
waiting packet; its own test for an empty queue comes after that. -/
def forwardQueuedPkts : List Packet → Router → Checked Router
  | [], _ => throw (.undefined .forwardQueuedPkts "pending_pkts_.front()")
  | pkt :: rest, s =>
    match s.findWorkerShortestQ workers pkt.hdr.clAddr with
    | some worker => forwardQueuedPkts rest ({ s with pendingPkts := rest }.forwardRequest pkt worker true)
    | none => return s

/-- recv of a REQUEST: it is handled after router_latency_s_. -/
def recvRequest (pkt : Packet) : Router :=
  { s with scheduled := s.scheduled ++ [pkt], received := s.received ++ [pkt] }

def recvFeedback (worker : Worker) (reqsServed n : ℤ) : Checked Router :=
  if worker ∉ workers then throw (.thrown .routerRecv "server_tup_to_server_state_.at()")
  else
    let state := s.serverState worker
    -- the feedback counts all requests served so far
    let pendingReqs := state.pendingReqs - reqsServed + state.servedReqs
    if pendingReqs < 0 then throw (.thrown .routerRecv "Number of pending requirements is negative")
    else
      let s := { s with
        serverState := Function.update s.serverState worker ⟨reqsServed, pendingReqs, n⟩
        reported := s.reported ++ [(worker, reqsServed)] }
      forwardQueuedPkts workers s.pendingPkts s

def handle : Router :=
  match s.scheduled with
  | [] => s
  | pkt :: rest =>
    let s := { s with scheduled := rest, handled := s.handled ++ [pkt] }
    match s.findWorkerShortestQ workers pkt.hdr.clAddr with
    | none => { s with pendingPkts := s.pendingPkts ++ [pkt], queued := s.queued ++ [pkt] }
    | some worker => s.forwardRequest pkt worker false

inductive Event
  | request (pkt : Packet)
  | handle
  | feedback (worker : Worker) (reqsServed n : ℤ)

def forwardedTo (worker : Worker) : ℤ := s.forwarded.countP fun x => x.worker = worker

def lastReported (worker : Worker) : ℤ :=
  (((s.reported.filter fun x => x.1 = worker).getLast?).map Prod.snd).getD 0

def Enabled : Event → Prop
  | .request _ => True
  | .handle => s.scheduled ≠ []
  | .feedback worker reqsServed _ => worker ∈ workers ∧ reqsServed ≤ s.forwardedTo worker

instance (e : Event) : Decidable (s.Enabled workers e) := by
  cases e <;> unfold Enabled <;> infer_instance

def fire : Event → Checked Router
  | .request pkt => return s.recvRequest pkt
  | .handle => return s.handle workers
  | .feedback worker reqsServed n => s.recvFeedback workers worker reqsServed n

def Step (s : Router) (e : Event) (t : Router) : Prop := s.Enabled workers e ∧ s.fire workers e = .ok t

def Full (state : ServerState) : Prop := min state.n shortestQLength ≤ state.pendingReqs

instance (state : ServerState) : Decidable (Full state) := inferInstanceAs (Decidable (_ ≤ _))

section Search

variable {workers} {s}

theorem shorter_of_full {best : ℤ × Option Worker} {worker : Worker} (within : best.1 ≤ shortestQLength)
    (full : Full (s.serverState worker)) : s.shorter best worker = best := by
  refine if_neg fun room => ?_
  have := min_le_iff.mp full
  omega

/-- The scan keeps what it has found, and finds a worker that is not full if there is one. -/
theorem foldl_shorter (best : ℤ × Option Worker) (within : best.1 ≤ shortestQLength)
    (found : best.2 = none → best.1 = shortestQLength) :
    ((workers.foldl s.shorter best).2 = none ↔ best.2 = none ∧ ∀ w ∈ workers, Full (s.serverState w)) ∧
    ∀ w, (workers.foldl s.shorter best).2 = some w → best.2 = some w ∨ (w ∈ workers ∧ ¬ Full (s.serverState w)) := by
  -- the scan over the workers, from the best one found so far
  induction workers generalizing best with
  | nil => exact ⟨by simp, fun w same => Or.inl same⟩
  | cons worker workers ih =>
    rw [List.foldl_cons]
    by_cases full : Full (s.serverState worker)
    · rw [shorter_of_full within full]
      obtain ⟨none_iff, some_from⟩ := ih best within found
      refine ⟨by rw [none_iff, List.forall_mem_cons]; simp [full], fun w same => ?_⟩
      exact (some_from w same).imp_right fun later => ⟨List.mem_cons_of_mem _ later.1, later.2⟩
    · have room := lt_min_iff.mp (not_le.mp full)
      by_cases shorter : (s.serverState worker).pendingReqs < best.1
      · -- this worker is the best so far
        have now_ : s.shorter best worker = ((s.serverState worker).pendingReqs, some worker) :=
          if_pos ⟨shorter, room.1⟩
        rw [now_]
        obtain ⟨none_iff, some_from⟩ := ih ((s.serverState worker).pendingReqs, some worker) room.2.le (by simp)
        refine ⟨by rw [none_iff]; simp [full], fun w same => ?_⟩
        rcases some_from w same with here | later
        · cases here
          exact Or.inr ⟨List.mem_cons_self, full⟩
        · exact Or.inr ⟨List.mem_cons_of_mem _ later.1, later.2⟩
      · -- a worker that is shorter was found before
        have kept : s.shorter best worker = best := if_neg fun h => shorter h.1
        have before : best.2 ≠ none := fun none => shorter (by rw [found none]; exact room.2)
        rw [kept]
        obtain ⟨none_iff, some_from⟩ := ih best within found
        refine ⟨by rw [none_iff]; simp [before], fun w same => ?_⟩
        exact (some_from w same).imp_right fun later => ⟨List.mem_cons_of_mem _ later.1, later.2⟩

theorem find_eq_none (clientAddr : Addr) :
    s.findWorkerShortestQ workers clientAddr = none ↔ ∀ w ∈ workers, Full (s.serverState w) := by
  rw [findWorkerShortestQ, (foldl_shorter (shortestQLength, none) le_rfl fun _ => rfl).1]
  exact and_iff_right rfl

theorem find_eq_some {clientAddr : Addr} {w : Worker} (found : s.findWorkerShortestQ workers clientAddr = some w) :
    w ∈ workers ∧ ¬ Full (s.serverState w) := by
  have scan := (foldl_shorter (shortestQLength, none) le_rfl fun _ => rfl).2 w found
  exact scan.resolve_left (by simp)

end Search

/-- What the counters, the queue and the histories say of each other. -/
structure Books : Prop where
  pending : ∀ w, (s.serverState w).pendingReqs = s.forwardedTo w - (s.serverState w).servedReqs
  served : ∀ w, (s.serverState w).servedReqs = s.lastReported w
  order : s.received = s.handled ++ s.scheduled
  once : s.handled.Perm (s.forwarded.map Forwarded.pkt ++ s.pendingPkts)
  waiting : s.queued = (s.forwarded.filter Forwarded.waited).map Forwarded.pkt ++ s.pendingPkts
  arrival : s.queued.Sublist s.handled
  room : ∀ x ∈ s.forwarded, x.state.pendingReqs < x.state.n

def Busy : Prop := s.pendingPkts ≠ [] → ∀ w ∈ workers, Full (s.serverState w)

section Step

variable {workers} {s}

theorem Books.init : Books {} :=
  ⟨fun _ => rfl, fun _ => rfl, rfl, .nil, rfl, .slnil, fun _ none => absurd none List.not_mem_nil⟩

@[simp] theorem serverState_forward_self (s : Router) (pkt : Packet) (w : Worker) (waited : Bool) :
    (s.forwardRequest pkt w waited).serverState w =
      { s.serverState w with pendingReqs := (s.serverState w).pendingReqs + 1 } := Function.update_self ..

theorem serverState_forward_of_ne (s : Router) (pkt : Packet) {w v : Worker} (waited : Bool) (other : v ≠ w) :
    (s.forwardRequest pkt w waited).serverState v = s.serverState v := Function.update_of_ne other ..

@[simp] theorem queued_forward (s : Router) (pkt : Packet) (w : Worker) (waited : Bool) :
    (s.forwardRequest pkt w waited).queued = s.queued := rfl

theorem forwardedTo_forward (pkt : Packet) (w v : Worker) (waited : Bool) :
    (s.forwardRequest pkt w waited).forwardedTo v = s.forwardedTo v + if w = v then 1 else 0 := by
  unfold forwardRequest forwardedTo
  rw [List.countP_append, List.countP_singleton]
  by_cases same : w = v <;> simp [same]

theorem pending_forward (pending : ∀ v, (s.serverState v).pendingReqs = s.forwardedTo v - (s.serverState v).servedReqs)
    (pkt : Packet) (w : Worker) (waited : Bool) (v : Worker) :
    ((s.forwardRequest pkt w waited).serverState v).pendingReqs =
      (s.forwardRequest pkt w waited).forwardedTo v - ((s.forwardRequest pkt w waited).serverState v).servedReqs := by
  rw [forwardedTo_forward]
  have before := pending v
  by_cases same : w = v
  · subst same
    simp only [serverState_forward_self, if_true]
    omega
  · rw [serverState_forward_of_ne s pkt waited (Ne.symm same), if_neg same]
    omega

theorem servedReqs_forward (pkt : Packet) (w : Worker) (waited : Bool) (v : Worker) :
    ((s.forwardRequest pkt w waited).serverState v).servedReqs = (s.serverState v).servedReqs := by
  by_cases same : v = w
  · rw [same, serverState_forward_self]
  · rw [serverState_forward_of_ne s pkt waited same]

theorem room_of_not_full {state : ServerState} (room : ¬ Full state) : state.pendingReqs < state.n :=
  (lt_min_iff.mp (not_le.mp room)).1

theorem Books.forward_waiting (books : Books s) {pkt : Packet} {rest : List Packet}
    (queue : s.pendingPkts = pkt :: rest) {w : Worker} (room : ¬ Full (s.serverState w)) : Books
    ({ s with pendingPkts := rest }.forwardRequest pkt w true) where
  pending := pending_forward books.pending pkt w true
  served v := (servedReqs_forward pkt w true v).trans (books.served v)
  order := books.order
  once := by
    refine books.once.trans ?_
    rw [queue]
    simp [forwardRequest]
  waiting := by
    rw [queued_forward, books.waiting, queue]
    simp [forwardRequest]
  arrival := books.arrival
  room x inside := by
    rcases List.mem_append.mp inside with old | new
    · exact books.room x old
    · rw [List.mem_singleton.mp new]
      exact room_of_not_full room

theorem Books.handle (books : Books s) (busy : Busy workers s) :
    Books (s.handle workers) ∧ Busy workers (s.handle workers) := by
  unfold Router.handle
  split
  · exact ⟨books, busy⟩
  · next pkt rest scheduled =>
    have order : s.received = (s.handled ++ [pkt]) ++ rest := by
      rw [books.order, scheduled, List.append_assoc, List.singleton_append]
    have handled := books.once.append (List.Perm.refl [pkt])
    dsimp only
    split
    · next none =>
      refine ⟨⟨books.pending, books.served, order, ?_, ?_, ?_, books.room⟩, fun _ =>
        (find_eq_none pkt.hdr.clAddr).mp none⟩
      · rw [List.append_assoc] at handled
        exact handled
      · dsimp only
        rw [books.waiting, List.append_assoc]
      · exact books.arrival.append (List.Sublist.refl [pkt])
    · next w found =>
      obtain ⟨inside, room⟩ := find_eq_some found
      have empty : s.pendingPkts = [] := by
        by_contra waiting
        exact room (busy waiting w inside)
      refine ⟨⟨pending_forward books.pending pkt w false, fun v => (servedReqs_forward pkt w false v).trans
        (books.served v),
        order, ?_, ?_, books.arrival.trans (List.sublist_append_left ..), fun x old => ?_⟩,
        fun waiting => absurd empty waiting⟩
      · rw [empty, List.append_nil] at handled
        simpa [forwardRequest, empty] using handled
      · rw [queued_forward, books.waiting]
        simp [forwardRequest]
      · rcases List.mem_append.mp old with old | new
        · exact books.room x old
        · rw [List.mem_singleton.mp new]
          exact room_of_not_full room

def roomOf (state : ServerState) : ℕ := (min state.n shortestQLength - state.pendingReqs).toNat

/-- The waiting requests fill the room of the one worker that has some, if they
are more; else the front of an empty queue is read. -/
theorem forwardQueuedPkts_spec (queue : List Packet) (books : Books s) (same : s.pendingPkts = queue) {w : Worker}
    (inside : w ∈ workers) (others : queue ≠ [] → ∀ v ∈ workers, v ≠ w → Full (s.serverState v)) :
    if roomOf (s.serverState w) < queue.length then
      ∃ t, forwardQueuedPkts workers queue s = .ok t ∧ Books t ∧ (∀ v ∈ workers, Full (t.serverState v)) ∧
        (∀ v, (t.serverState v).n = (s.serverState v).n)
    else forwardQueuedPkts workers queue s = .error (.undefined .forwardQueuedPkts "pending_pkts_.front()") := by
  -- one waiting request a turn, until the worker with room is full or the queue is empty
  induction queue generalizing s with
  | nil =>
    exact rfl
  | cons pkt rest ih =>
    have others := others (List.cons_ne_nil _ _)
    by_cases full : Full (s.serverState w)
    · have all : ∀ v ∈ workers, Full (s.serverState v) := by
        intro v member
        by_cases here : v = w
        · exact here ▸ full
        · exact others v member here
      have none_left : roomOf (s.serverState w) = 0 := Int.toNat_eq_zero.mpr (sub_nonpos.mpr full)
      rw [if_pos (by rw [none_left]; exact Nat.succ_pos _)]
      refine ⟨s, ?_, books, all, fun _ => rfl⟩
      rw [forwardQueuedPkts, (find_eq_none _).mpr all]
      rfl
    · have some_worker : s.findWorkerShortestQ workers pkt.hdr.clAddr = some w := by
        cases found : s.findWorkerShortestQ workers pkt.hdr.clAddr with
        | none => exact absurd ((find_eq_none _).mp found w inside) full
        | some v =>
          obtain ⟨member, room⟩ := find_eq_some found
          by_contra other
          exact room (others v member fun here => other (congrArg some here))
      have one_less : roomOf (s.serverState w) =
          roomOf (({ s with pendingPkts := rest }.forwardRequest pkt w true).serverState w) + 1 := by
        have less := not_le.mp full
        simp only [roomOf, serverState_forward_self]
        omega
      have kept : ∀ v, v ≠ w →
          ({ s with pendingPkts := rest }.forwardRequest pkt w true).serverState v = s.serverState v :=
        fun v other => serverState_forward_of_ne _ pkt true other
      have later := ih (books.forward_waiting same full) rfl fun _ v member other =>
        (kept v other).symm ▸ others v member other
      rw [forwardQueuedPkts, some_worker]
      by_cases enough : roomOf (s.serverState w) < (pkt :: rest).length
      · rw [if_pos enough]
        rw [if_pos (by rw [List.length_cons] at enough; omega)] at later
        obtain ⟨t, run, books, all, ns⟩ := later
        refine ⟨t, run, books, all, fun v => (ns v).trans ?_⟩
        by_cases here : v = w
        · rw [here, serverState_forward_self]
        · rw [kept v here]
      · rw [if_neg enough]
        rw [if_neg (by rw [List.length_cons] at enough; omega)] at later
        exact later

theorem recvFeedback_spec (books : Books s) (busy : Busy workers s) {w : Worker} {reqsServed n : ℤ}
    (inside : w ∈ workers) (within : reqsServed ≤ s.forwardedTo w) :
    if (min n shortestQLength - (s.forwardedTo w - reqsServed)).toNat < s.pendingPkts.length then
      ∃ t, s.recvFeedback workers w reqsServed n = .ok t ∧ Books t ∧ (∀ v ∈ workers, Full (t.serverState v)) ∧
        ∀ v, (t.serverState v).n = n ∨ (t.serverState v).n = (s.serverState v).n
    else s.recvFeedback workers w reqsServed n = .error (.undefined .forwardQueuedPkts "pending_pkts_.front()") := by
  have count : (s.serverState w).pendingReqs - reqsServed + (s.serverState w).servedReqs =
    s.forwardedTo w - reqsServed := by
    have := books.pending w
    omega
  let told : Router := { s with
    serverState := Function.update s.serverState w ⟨reqsServed, s.forwardedTo w - reqsServed, n⟩
    reported := s.reported ++ [(w, reqsServed)] }
  have run : s.recvFeedback workers w reqsServed n = forwardQueuedPkts workers s.pendingPkts told := by
    unfold recvFeedback
    rw [if_neg (not_not.mpr inside)]
    simp only [count, if_neg (not_lt.mpr (sub_nonneg.mpr within)), told]
  have here : told.serverState w = ⟨reqsServed, s.forwardedTo w - reqsServed, n⟩ := Function.update_self ..
  have there : ∀ v, v ≠ w → told.serverState v = s.serverState v := fun v other => Function.update_of_ne other ..
  have written : Books told := by
    refine ⟨fun v => ?_, fun v => ?_, books.order, books.once, books.waiting, books.arrival, books.room⟩
    · by_cases same : v = w
      · rw [same, here]
        rfl
      · rw [there v same]
        exact books.pending v
    · by_cases same : v = w
      · rw [same, here]
        simp [lastReported, told]
      · rw [there v same, books.served v]
        simp [lastReported, told, Ne.symm same]
  have spec := forwardQueuedPkts_spec s.pendingPkts written rfl inside
    fun waiting v member other => (there v other).symm ▸ busy waiting v member
  rw [roomOf, here, ← run] at spec
  split at spec
  · next fewer =>
    obtain ⟨t, done, books, all, ns⟩ := spec
    rw [if_pos fewer]
    refine ⟨t, done, books, all, fun v => ?_⟩
    by_cases same : v = w
    · left
      rw [same, ns w, here]
    · right
      rw [ns v, there v same]
  · next more =>
    rw [if_neg more]
    exact spec

theorem Step.keeps {e : Event} {t : Router} (books : Books s) (busy : Busy workers s) (step : Step workers s e t) :
    Books t ∧ Busy workers t := by
  obtain ⟨enabled, run⟩ := step
  cases e with
  | request pkt =>
    cases run
    refine ⟨⟨books.pending, books.served, ?_, books.once, books.waiting, books.arrival, books.room⟩, busy⟩
    simp [recvRequest, books.order]
  | handle =>
    cases run
    exact books.handle busy
  | feedback w reqsServed n =>
    have spec := recvFeedback_spec (n := n) books busy enabled.1 enabled.2
    split at spec
    · obtain ⟨t', done, books, all, -⟩ := spec
      cases done.symm.trans run
      exact ⟨books, fun _ => all⟩
    · cases spec.symm.trans run

theorem handle_n (v : Worker) : ((s.handle workers).serverState v).n = (s.serverState v).n := by
  unfold Router.handle
  split
  · rfl
  · dsimp only
    split
    · rfl
    · next w _ =>
      by_cases same : v = w
      · rw [same, serverState_forward_self]
      · rw [serverState_forward_of_ne _ _ _ same]

/-- A worker says to have room for no more requests than the search compares with. -/
def Event.Small : Event → Prop
  | .feedback _ _ n => n ≤ shortestQLength
  | _ => True

instance : DecidablePred Event.Small := fun e => by
  cases e <;> unfold Event.Small <;> infer_instance

theorem Step.small {e : Event} {t : Router} (books : Books s) (busy : Busy workers s)
    (small : ∀ v, (s.serverState v).n ≤ shortestQLength) (event : e.Small) (step : Step workers s e t) :
    ∀ v, (t.serverState v).n ≤ shortestQLength := by
  obtain ⟨enabled, run⟩ := step
  cases e with
  | request pkt =>
    cases run
    exact small
  | handle =>
    cases run
    exact fun v => (handle_n v).trans_le (small v)
  | feedback w reqsServed n =>
    have spec := recvFeedback_spec (n := n) books busy enabled.1 enabled.2
    split at spec
    · obtain ⟨t', done, -, -, ns⟩ := spec
      cases done.symm.trans run
      intro v
      rcases ns v with here | there
      · exact here.trans_le event
      · exact there.trans_le (small v)
    · cases spec.symm.trans run

end Step

def move (e : Event) : Option Router := if s.Enabled workers e then (s.fire workers e).toOption else none

theorem move_step (s : Router) (e : Event) (t : Router) (moves : s.move workers e = some t) : Step workers s e t := by
  unfold move at moves
  split at moves
  · next enabled => exact ⟨enabled, Lib.toOption_eq_some.mp moves⟩
  · cases moves

def request (reqId : ℕ) : Packet :=
  { hdr := { msgType := .request, reqId }, src := 1, dst := 0, size := 84, padding := 0, flowid := 0,
    prio := 0, ect := true
    seqno := reqId }

end Router

end PhantomPass.Baseline
