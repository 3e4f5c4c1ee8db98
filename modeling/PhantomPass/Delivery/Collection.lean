import Mathlib
import PhantomPass.Delivery.RpcInvariant
import PhantomPass.Deployment
import PhantomPass.Lib.Runs

/-! R2p2Server with the timer of its garbage collection. What it keeps of a request
goes with the second collection behind the response, so that it is there for as
long as the request is answered and one period longer. -/

set_option autoImplicit false

namespace PhantomPass

open Lib (Store)

namespace Rpc

/-- R2p2Server::send_response, up to where the response goes to the transport. -/
def sendResponse (payload : ℕ) (tuple : RequestIdTuple) (now : Time) (rpc : Rpc) : Checked Rpc :=
  match rpc.pendingRequests.find tuple.uniqReqId with
  | none => throw (.undefined .sendResponse "no state for the request")
  | some state => return { rpc with
      pendingRequests := rpc.pendingRequests.insert tuple.uniqReqId { state with replySent := true }
      respSent := rpc.respSent ++ [(payload, { tuple with ts := now })] }

/-- R2p2Application::send_response for the oldest request of a thread. -/
def appSendResponse (thread : ℤ) (payload : ℕ) (now : Time) (rpc : Rpc) : Checked Rpc :=
  match rpc.pendingTasks thread with
  | [] => throw (.undefined .sendResponse "pending_tasks_.front()")
  | tuple :: rest => do
    let rpc ← rpc.sendResponse payload tuple now
    return { rpc with pendingTasks := Function.update rpc.pendingTasks thread rest }

end Rpc

/-- gc_freq_sec_ -/
def gcFreqSec : ℚ := 1000 / 1000 / 1000

theorem gcFreqSec_pos : 0 < gcFreqSec := by norm_num [gcFreqSec]

/-- A server, with the time at which its timer is due. The packets that arrived are
kept beside the state; the code does not read them. -/
structure Serving where
  rpc : Rpc := {}
  now : Time := 0
  garbageTimer : Time := gcFreqSec
  arrived : List (Hdr × ℕ) := []

namespace Serving

variable (cfg : Config) (addr : Addr) (behind : UniqReqId → ℕ) (s : Serving)

/-- A packet of a request, the response to the oldest request of a thread, or the timer. -/
inductive Event
  | request (now : Time) (hdr : Hdr) (payload : ℕ)
  | reply (now : Time) (thread : ℤ) (payload : ℕ)
  | collect

def pkts (id : UniqReqId) : List (Hdr × ℕ) := s.arrived.filter fun x => x.1.uniqReqId = id

def Due (now : Time) : Prop := s.now ≤ now ∧ now ≤ s.garbageTimer

/-- A request is one first packet, which says how many are behind it, and these, in any order. -/
def Enabled : Event → Prop
  | .request now hdr _ => s.Due now ∧ hdr.msgType = .request ∧
      if hdr.first then hdr.pktId = behind hdr.uniqReqId ∧ (s.pkts hdr.uniqReqId).countP (fun x => x.1.first) = 0
      else (s.pkts hdr.uniqReqId).countP (fun x => !x.1.first) < behind hdr.uniqReqId
  | .reply now thread _ => s.Due now ∧ s.rpc.pendingTasks thread ≠ []
  | .collect => True

instance (e : Event) : Decidable (s.Enabled behind e) := by
  cases e <;> unfold Enabled Due <;> infer_instance

def fire : Event → Checked Serving
  | .request now hdr payload => do
    let rpc ← s.rpc.handleRequestPkt cfg addr hdr payload
    return { s with now, rpc, arrived := s.arrived ++ [(hdr, payload)] }
  | .reply now thread payload => do
    let rpc ← s.rpc.appSendResponse thread payload now
    return { s with now, rpc }
  | .collect => return { s with
      now := s.garbageTimer, garbageTimer := s.garbageTimer + gcFreqSec, rpc := s.rpc.garbageCollectState }

def Step (s : Serving) (e : Event) (t : Serving) : Prop := s.Enabled behind e ∧ s.fire cfg addr e = .ok t

def Whole (id : UniqReqId) : Prop := (s.pkts id).length = behind id + 1

instance (id : UniqReqId) : Decidable (s.Whole behind id) := inferInstanceAs (Decidable (_ = _))

def Answered (id : UniqReqId) (time : Time) : Prop :=
    ∃ e ∈ s.rpc.respSent, e.2.uniqReqId = id ∧ e.2.ts + gcFreqSec ≤ time

/-- The state of a request counts its packets. It is old only a period behind the response. -/
structure Counts (id : UniqReqId) (st : ServerRequestState) : Prop where
  received : st.reqPktsReceived = (s.pkts id).length
  expected : st.reqPktsExpected = if (s.pkts id).countP (fun x => x.1.first) = 0 then -1 else (behind id : ℤ) + 1
  aged : st.oldState = true → st.replySent = true
  replied : st.replySent = true → s.Whole behind id ∧ ∃ e ∈ s.rpc.respSent, e.2.uniqReqId = id ∧ e.2.ts ≤ s.now ∧
    (st.oldState = true → e.2.ts + gcFreqSec ≤ s.garbageTimer)

structure Kept : Prop where
  timer : s.now ≤ s.garbageTimer
  firsts : ∀ id, (s.pkts id).countP (fun x => x.1.first) ≤ 1
  others : ∀ id, (s.pkts id).countP (fun x => !x.1.first) ≤ behind id
  absent : ∀ id, s.rpc.pendingRequests.find id = none → s.pkts id = [] ∨ (s.Whole behind id ∧ s.Answered id s.now)
  present : ∀ id st, s.rpc.pendingRequests.find id = some st → s.Counts behind id st
  recvd : ∀ id, (s.rpc.reqRecvd.filter fun e => e.2.uniqReqId = id).length = if s.Whole behind id then 1 else 0
  tasks : ∀ thread, ∀ tuple ∈ s.rpc.pendingTasks thread, tuple.srThreadId = thread ∧
    (∃ n, (n, tuple) ∈ s.rpc.reqRecvd) ∧
    ∃ st, s.rpc.pendingRequests.find tuple.uniqReqId = some st ∧ st.replySent = false
  tasks_nodup : ∀ thread, ((s.rpc.pendingTasks thread).map RequestIdTuple.uniqReqId).Nodup

variable {cfg} {addr} {behind} {s} {t : Serving}

theorem Kept.init : Kept behind {} where
  timer := gcFreqSec_pos.le
  firsts _ := Nat.zero_le _
  others _ := Nat.zero_le _
  absent _ _ := Or.inl rfl
  present id st found := by simp [Store.find] at found
  recvd id := by
    rw [if_neg]
    · rfl
    · simp [Whole, pkts]
  tasks := by simp
  tasks_nodup _ := List.nodup_nil

theorem length_pkts (id : UniqReqId) :
    (s.pkts id).length = (s.pkts id).countP (fun x => x.1.first) + (s.pkts id).countP fun x => !x.1.first := by
  rw [List.length_eq_countP_add_countP fun x : Hdr × ℕ => x.1.first]
  simp

theorem Kept.whole (kept : Kept behind s) {id : UniqReqId} (whole : s.Whole behind id) :
    (s.pkts id).countP (fun x => x.1.first) = 1 ∧ (s.pkts id).countP (fun x => !x.1.first) = behind id := by
  have sum := length_pkts (s := s) id
  have firsts := kept.firsts id
  have others := kept.others id
  unfold Whole at whole
  omega

theorem Kept.whole_of_recvd (kept : Kept behind s) {e : ℕ × RequestIdTuple} (recvd : e ∈ s.rpc.reqRecvd)
    {id : UniqReqId} (name : e.2.uniqReqId = id) : s.Whole behind id := by
  by_contra part
  have none := kept.recvd id
  rw [if_neg part, List.length_eq_zero_iff, List.filter_eq_nil_iff] at none
  exact none e recvd (decide_eq_true name)

section Request

variable {hdr : Hdr} {payload : ℕ}

theorem pkts_append (arrived : t.arrived = s.arrived ++ [(hdr, payload)]) (id : UniqReqId) :
    t.pkts id = if hdr.uniqReqId = id then s.pkts id ++ [(hdr, payload)] else s.pkts id := by
  unfold pkts
  rw [arrived, List.filter_append]
  split
  · next same => simp [same]
  · next other => simp [other]

theorem afterRequest_fields (hdr : Hdr) (payload : ℕ) (rpc : Rpc) :
    (rpc.afterRequest hdr payload).pendingRequests = rpc.pendingRequests.insert hdr.uniqReqId
    (rpc.counted hdr payload) ∧
    (rpc.afterRequest hdr payload).respSent = rpc.respSent ∧
    (rpc.afterRequest hdr payload).reqRecvd = rpc.reqRecvd ++
      (if (rpc.counted hdr payload).Ready then [((rpc.counted hdr payload).reqBytesReceived, hdr.requestIdTuple)] else
      []) ∧
    ∀ thread, (rpc.afterRequest hdr payload).pendingTasks thread = rpc.pendingTasks thread ++
      if (rpc.counted hdr payload).Ready ∧ thread = hdr.srThreadId then [hdr.requestIdTuple] else [] := by
  unfold Rpc.afterRequest
  dsimp only
  split
  · next whole =>
    refine ⟨rfl, rfl, rfl, fun thread => ?_⟩
    unfold Rpc.handRequest
    dsimp only
    rw [Function.update_apply]
    by_cases here : thread = hdr.requestIdTuple.srThreadId
    · rw [if_pos here, if_pos ⟨whole, here⟩, here]
    · rw [if_neg here, if_neg fun h => here h.2, List.append_nil]
  · next part =>
    refine ⟨rfl, rfl, (List.append_nil _).symm, fun thread => ?_⟩
    rw [if_neg fun h => part h.1, List.append_nil]

theorem Counts.later {id : UniqReqId} {st : ServerRequestState} (counts : s.Counts behind id st)
    (pkts : t.pkts id = s.pkts id)
    (now : s.now ≤ t.now) (timer : t.garbageTimer = s.garbageTimer) (sent : ∀ e ∈ s.rpc.respSent, e ∈ t.rpc.respSent) :
    t.Counts behind id st := by
  obtain ⟨received, expected, aged, replied⟩ := counts
  refine ⟨by rw [pkts]; exact received, by rw [pkts]; exact expected, aged, fun old => ?_⟩
  obtain ⟨whole, e, inside, same, before, aged⟩ := replied old
  refine ⟨?_, e, sent e inside, same, before.trans now, fun aging => (aged aging).trans_eq timer.symm⟩
  unfold Whole
  rw [pkts]
  exact whole

theorem Kept.part (kept : Kept behind s) {now : Time} (enabled : s.Enabled behind (.request now hdr payload)) :
    ¬ s.Whole behind hdr.uniqReqId := by
  obtain ⟨-, -, fits⟩ := enabled
  intro whole
  obtain ⟨first, others⟩ := kept.whole whole
  split at fits
  · exact absurd fits.2 (by omega)
  · omega

/-- The state that counts the next packet; a request without one has had none. -/
theorem Kept.pending (kept : Kept behind s) {id : UniqReqId} (part : ¬ s.Whole behind id) :
    ((s.rpc.pendingRequests.find id).getD {}).reqPktsReceived = (s.pkts id).length ∧
      ((s.rpc.pendingRequests.find id).getD {}).reqPktsExpected =
        (if (s.pkts id).countP (fun x => x.1.first) = 0 then -1 else (behind id : ℤ) + 1) ∧
      ((s.rpc.pendingRequests.find id).getD {}).replySent = false ∧
      ((s.rpc.pendingRequests.find id).getD {}).oldState = false := by
  cases found : s.rpc.pendingRequests.find id with
  | none =>
    rw [(kept.absent _ found).resolve_right fun gone => part gone.1]
    exact ⟨rfl, rfl, rfl, rfl⟩
  | some st =>
    obtain ⟨received, expected, aged, replied⟩ := kept.present _ st found
    have unsent : ¬ st.replySent = true := fun sent => part (replied sent).1
    exact ⟨received, expected, eq_false_of_ne_true unsent, eq_false_of_ne_true (mt aged unsent)⟩

theorem Kept.counted (kept : Kept behind s) {now : Time} (enabled : s.Enabled behind (.request now hdr payload))
    (here : t.pkts hdr.uniqReqId = s.pkts hdr.uniqReqId ++ [(hdr, payload)]) :
    t.Counts behind hdr.uniqReqId (s.rpc.counted hdr payload) ∧ (s.rpc.counted hdr payload).replySent = false := by
  obtain ⟨received, expected, unsent, fresh⟩ := kept.pending (kept.part enabled)
  obtain ⟨-, -, fits⟩ := enabled
  have none_sent : (s.rpc.counted hdr payload).replySent = false := unsent
  refine ⟨⟨?_, ?_, fun old => ?_, fun old => ?_⟩, unsent⟩
  · rw [here, List.length_append, List.length_singleton, Nat.cast_succ, ← received]
    rfl
  · rw [here, List.countP_append, List.countP_singleton]
    change (if hdr.first = true then hdr.pktId + 1 else _) = _
    split at fits
    · next first => rw [if_pos first, if_pos first, if_neg (Nat.succ_ne_zero _), fits.1]
    · next rest => rw [if_neg rest, if_neg rest, expected, Nat.add_zero]
  · cases fresh.symm.trans old
  · cases none_sent.symm.trans old

theorem Kept.apart (kept : Kept behind s) {now : Time} (enabled : s.Enabled behind (.request now hdr payload))
    (thread : ℤ) : ∀ tuple ∈ s.rpc.pendingTasks thread, tuple.uniqReqId ≠ hdr.uniqReqId := by
  intro tuple waits same
  obtain ⟨-, ⟨n, recvd⟩, -⟩ := kept.tasks thread tuple waits
  exact kept.part enabled (kept.whole_of_recvd recvd same)

theorem Kept.request (kept : Kept behind s) {now : Time} (enabled : s.Enabled behind (.request now hdr payload))
    (run : s.fire cfg addr (.request now hdr payload) = .ok t) : Kept behind t := by
  have part := kept.part enabled
  have apart := kept.apart enabled
  have due := enabled.1
  have type := enabled.2.1
  have fits := enabled.2.2
  simp only [fire, Lib.bind_eq_ok, Lib.pure_eq_ok] at run
  obtain ⟨rpc, handled, rfl⟩ := run
  obtain ⟨-, -, rfl⟩ := (Rpc.handleRequestPkt_iff type).mp handled
  obtain ⟨requests, sent, handed, waiting⟩ := afterRequest_fields hdr payload s.rpc
  let t : Serving := { s with now, rpc := s.rpc.afterRequest hdr payload, arrived := s.arrived ++ [(hdr, payload)] }
  have arrived : t.arrived = s.arrived ++ [(hdr, payload)] := rfl
  have pkts := pkts_append arrived
  have here : t.pkts hdr.uniqReqId = s.pkts hdr.uniqReqId ++ [(hdr, payload)] := by rw [pkts, if_pos rfl]
  have elsewhere : ∀ {id}, id ≠ hdr.uniqReqId → t.pkts id = s.pkts id := fun other => by
    rw [pkts, if_neg (Ne.symm other)]
  have find : ∀ id, t.rpc.pendingRequests.find id =
      if id = hdr.uniqReqId then some (s.rpc.counted hdr payload) else s.rpc.pendingRequests.find id := by
    intro id
    rw [show t.rpc.pendingRequests = _ from requests]
    split
    · next same => rw [same, Store.find_insert_self]
    · next other => rw [Store.find_insert_of_ne _ _ other]
  have firsts : ∀ id, (t.pkts id).countP (fun x => x.1.first) ≤ 1 := by
    intro id
    by_cases same : id = hdr.uniqReqId
    · rw [same, here, List.countP_append, List.countP_singleton]
      split at fits
      · next first => rw [fits.2, if_pos first]
      · next rest => rw [if_neg rest]; exact kept.firsts _
    · rw [elsewhere same]
      exact kept.firsts id
  have others : ∀ id, (t.pkts id).countP (fun x => !x.1.first) ≤ behind id := by
    intro id
    by_cases same : id = hdr.uniqReqId
    · rw [same, here, List.countP_append, List.countP_singleton]
      split at fits
      · next first => rw [if_neg (by simp [first])]; exact kept.others _
      · next rest => rw [if_pos (by simp [rest])]; exact fits
    · rw [elsewhere same]
      exact kept.others id
  obtain ⟨counts, unsent⟩ := kept.counted enabled here
  have ready : (s.rpc.counted hdr payload).Ready ↔ t.Whole behind hdr.uniqReqId := by
    have sum := length_pkts (s := t) hdr.uniqReqId
    have most := others hdr.uniqReqId
    unfold ServerRequestState.Ready Whole
    rw [counts.expected, counts.received]
    split <;> omega
  have tuple : hdr.requestIdTuple.uniqReqId = hdr.uniqReqId := rfl
  refine ⟨due.2, firsts, others, fun id none => ?_, fun id st found => ?_, fun id => ?_, fun thread task waits => ?_,
    fun thread => ?_⟩
  · rw [find] at none
    split at none
    · cases none
    · next other =>
      have pkts : t.pkts id = s.pkts id := elsewhere other
      rcases kept.absent id none with fresh | ⟨whole, e, inside, name, aged⟩
      · exact Or.inl (pkts.trans fresh)
      · refine Or.inr ⟨?_, e, sent ▸ inside, name, aged.trans due.1⟩
        unfold Whole
        rw [pkts]
        exact whole
  · rw [find] at found
    split at found
    · next same =>
      cases found
      exact same ▸ counts
    · next other => exact (kept.present id st found).later (elsewhere other) due.1 rfl fun e inside => sent ▸ inside
  · by_cases same : id = hdr.uniqReqId
    · subst same
      have before := kept.recvd hdr.uniqReqId
      rw [if_neg part] at before
      change ((s.rpc.afterRequest hdr payload).reqRecvd.filter _).length = if t.Whole behind hdr.uniqReqId then 1 else 0
      rw [handed, List.filter_append, List.length_append, before, ← if_congr ready rfl rfl]
      split
      · simp [tuple]
      · rfl
    · have whole : t.Whole behind id ↔ s.Whole behind id := by unfold Whole; rw [elsewhere same]
      change ((s.rpc.afterRequest hdr payload).reqRecvd.filter _).length = if t.Whole behind id then 1 else 0
      rw [if_congr whole rfl rfl, ← kept.recvd id, handed, List.filter_append, List.length_append]
      split
      · simp [tuple, Ne.symm same]
      · rfl
  · change task ∈ (s.rpc.afterRequest hdr payload).pendingTasks thread at waits
    rw [waiting] at waits
    rcases List.mem_append.mp waits with old | new
    · obtain ⟨there, ⟨n, entry⟩, st, found, unanswered⟩ := kept.tasks thread task old
      refine ⟨there, ⟨n, ?_⟩, st, ?_, unanswered⟩
      · change (n, task) ∈ (s.rpc.afterRequest hdr payload).reqRecvd
        rw [handed]
        exact List.mem_append_left _ entry
      · rw [find, if_neg (apart thread task old)]
        exact found
    · split at new
      · next whole =>
        rw [List.mem_singleton.mp new]
        refine ⟨whole.2.symm, ⟨(s.rpc.counted hdr payload).reqBytesReceived, ?_⟩, _, (find _).trans (if_pos tuple),
          unsent⟩
        change _ ∈ (s.rpc.afterRequest hdr payload).reqRecvd
        rw [handed, if_pos whole.1]
        exact List.mem_append_right _ (List.mem_singleton_self _)
      · cases new
  · change (((s.rpc.afterRequest hdr payload).pendingTasks thread).map RequestIdTuple.uniqReqId).Nodup
    rw [waiting, List.map_append]
    refine List.nodup_append.mpr ⟨kept.tasks_nodup thread, ?_, fun id old id' new same => ?_⟩
    · split
      · exact List.nodup_singleton _
      · exact List.nodup_nil
    · obtain ⟨task, waits, name⟩ := List.mem_map.mp old
      split at new
      · exact apart thread task waits (name.trans (same.trans (List.mem_singleton.mp new)))
      · cases new

end Request

theorem Kept.unique (kept : Kept behind s) {e e' : ℕ × RequestIdTuple} (recvd : e ∈ s.rpc.reqRecvd)
    (recvd' : e' ∈ s.rpc.reqRecvd) (same : e.2.uniqReqId = e'.2.uniqReqId) : e = e' := by
  have one := kept.recvd e'.2.uniqReqId
  rw [if_pos (kept.whole_of_recvd recvd' rfl)] at one
  obtain ⟨only, filtered⟩ := List.length_eq_one_iff.mp one
  have first : e ∈ [only] := filtered ▸ List.mem_filter.mpr ⟨recvd, decide_eq_true same⟩
  have second : e' ∈ [only] := filtered ▸ List.mem_filter.mpr ⟨recvd', decide_eq_true rfl⟩
  exact (List.mem_singleton.mp first).trans (List.mem_singleton.mp second).symm

theorem Kept.answers (kept : Kept behind s) {thread : ℤ} {tuple : RequestIdTuple} {rest : List RequestIdTuple}
    (tasks : s.rpc.pendingTasks thread = tuple :: rest) (now : Time) (payload : ℕ) :
    ∃ st, s.rpc.pendingRequests.find tuple.uniqReqId = some st ∧ st.replySent = false ∧
      s.rpc.appSendResponse thread payload now = .ok { s.rpc with
        pendingRequests := s.rpc.pendingRequests.insert tuple.uniqReqId { st with replySent := true }
        respSent := s.rpc.respSent ++ [(payload, { tuple with ts := now })]
        pendingTasks := Function.update s.rpc.pendingTasks thread rest } := by
  obtain ⟨-, -, st, found, unanswered⟩ := kept.tasks thread tuple (tasks ▸ List.mem_cons_self)
  refine ⟨st, found, unanswered, ?_⟩
  unfold Rpc.appSendResponse Rpc.sendResponse
  rw [tasks]
  simp only [found]
  rfl

theorem Kept.reply (kept : Kept behind s) {now : Time} {thread : ℤ} {payload : ℕ}
    (enabled : s.Enabled behind (.reply now thread payload))
    (run : s.fire cfg addr (.reply now thread payload) = .ok t) :
    Kept behind t := by
  obtain ⟨⟨later, early⟩, some_task⟩ := enabled
  obtain ⟨tuple, rest, tasks⟩ := List.exists_cons_of_ne_nil some_task
  obtain ⟨st, found, unanswered, done⟩ := kept.answers tasks now payload
  simp only [fire, done, Lib.ok_bind, Lib.pure_eq_ok] at run
  subst run
  obtain ⟨at_thread, ⟨n, recvd⟩, -⟩ := kept.tasks thread tuple (tasks ▸ List.mem_cons_self)
  have whole : s.Whole behind tuple.uniqReqId := kept.whole_of_recvd recvd rfl
  have nodup := kept.tasks_nodup thread
  rw [tasks, List.map_cons, List.nodup_cons] at nodup
  -- what waits is another request: the same one was handed over once, for one thread
  have still : ∀ other, ∀ task ∈ Function.update s.rpc.pendingTasks thread rest other,
      task ∈ s.rpc.pendingTasks other ∧ task.uniqReqId ≠ tuple.uniqReqId := by
    intro other task waits
    by_cases same : other = thread
    · rw [same, Function.update_self] at waits
      exact ⟨same ▸ tasks ▸ List.mem_cons_of_mem _ waits, fun name => nodup.1 (name ▸ List.mem_map_of_mem waits)⟩
    · rw [Function.update_of_ne same] at waits
      refine ⟨waits, fun name => ?_⟩
      obtain ⟨there, ⟨n', recvd'⟩, -⟩ := kept.tasks other task waits
      have one := kept.unique recvd' recvd name
      exact same (there.symm.trans ((congrArg (fun e => e.2.srThreadId) one).trans at_thread))
  refine ⟨early, kept.firsts, kept.others, fun id none => ?_, fun id st' found' => ?_, kept.recvd,
    fun other task waits => ?_,
    fun other => ?_⟩
  · have apart : id ≠ tuple.uniqReqId := by
      intro same
      rw [same, Store.find_insert_self] at none
      cases none
    rw [Store.find_insert_of_ne _ _ apart] at none
    refine (kept.absent id none).imp_right fun answered => ?_
    obtain ⟨whole, e, inside, name, aged⟩ := answered
    exact ⟨whole, e, List.mem_append_left _ inside, name, aged.trans later⟩
  · by_cases same : id = tuple.uniqReqId
    · subst same
      rw [Store.find_insert_self] at found'
      cases found'
      obtain ⟨received, expected, aged, -⟩ := kept.present _ st found
      refine ⟨received, expected, fun _ => rfl, fun _ => ⟨whole, _, List.mem_append_right _ (List.mem_singleton_self _),
        rfl, le_refl now, fun old => ?_⟩⟩
      cases unanswered.symm.trans (aged old)
    · rw [Store.find_insert_of_ne _ _ same] at found'
      exact (kept.present id st' found').later rfl later rfl fun e inside => List.mem_append_left _ inside
  · obtain ⟨waits, apart⟩ := still other task waits
    obtain ⟨there, entry, st', found', unanswered'⟩ := kept.tasks other task waits
    exact ⟨there, entry, st', (Store.find_insert_of_ne _ _ apart).trans found', unanswered'⟩
  · by_cases same : other = thread
    · subst same
      change ((Function.update s.rpc.pendingTasks other rest other).map RequestIdTuple.uniqReqId).Nodup
      rw [Function.update_self]
      exact nodup.2
    · change ((Function.update s.rpc.pendingTasks thread rest other).map RequestIdTuple.uniqReqId).Nodup
      rw [Function.update_of_ne same]
      exact kept.tasks_nodup other

theorem Kept.collect (kept : Kept behind s) (run : s.fire cfg addr .collect = .ok t) : Kept behind t := by
  cases run
  have period : s.garbageTimer ≤ s.garbageTimer + gcFreqSec := le_add_of_nonneg_right gcFreqSec_pos.le
  have find := s.rpc.find_garbageCollectState
  refine ⟨period, kept.firsts, kept.others, fun id none => ?_, fun id st found => ?_, kept.recvd,
    fun thread task waits => ?_,
    kept.tasks_nodup⟩
  · rw [find] at none
    cases before : s.rpc.pendingRequests.find id with
    | none =>
      refine (kept.absent id before).imp_right fun ⟨whole, e, inside, name, aged⟩ => ?_
      exact ⟨whole, e, inside, name, aged.trans kept.timer⟩
    | some st =>
      rw [before, Option.bind_some] at none
      split at none
      · next both =>
        obtain ⟨whole, e, inside, name, -, aged⟩ := (kept.present id st before).replied both.1
        exact Or.inr ⟨whole, e, inside, name, aged both.2⟩
      · cases none
  · rw [find] at found
    obtain ⟨old, before, found⟩ := Option.bind_eq_some_iff.mp found
    obtain ⟨received, expected, aged, replied⟩ := kept.present id old before
    split at found
    · cases found
    · next young =>
      split at found
      · next sent =>
        cases found
        obtain ⟨whole, e, inside, name, time, -⟩ := replied sent
        refine ⟨received, expected, fun _ => sent, fun _ =>
          ⟨whole, e, inside, name, time.trans kept.timer, fun _ => ?_⟩⟩
        exact add_le_add_left (time.trans kept.timer) gcFreqSec
      · next unsent =>
        cases found
        exact ⟨received, expected, aged, fun sent => absurd sent unsent⟩
  · obtain ⟨there, entry, st, found, unanswered⟩ := kept.tasks thread task waits
    refine ⟨there, entry, st, ?_, unanswered⟩
    rw [find, found, Option.bind_some, if_neg (by simp [unanswered]), if_neg (by simp [unanswered])]

theorem Step.keeps {e : Event} (kept : Kept behind s) (step : Step cfg addr behind s e t) : Kept behind t := by
  obtain ⟨enabled, run⟩ := step
  cases e with
  | request now hdr payload => exact kept.request enabled run
  | reply now thread payload => exact kept.reply enabled run
  | collect => exact kept.collect run

/-- After every run: the state of each request of which a packet arrived is there, or
the request was answered a period ago at least; the application can answer each
request that waits; and it was handed no request twice. -/
theorem collection_safe {trace : List (Serving × Event)} (run : Lib.Run (Step cfg addr behind) {} trace s) :
    (∀ x ∈ s.arrived, (s.rpc.pendingRequests.find x.1.uniqReqId).isSome ∨ s.Answered x.1.uniqReqId s.now) ∧
    (∀ now thread payload, s.Enabled behind (.reply now thread payload) →
      ∃ t, s.fire cfg addr (.reply now thread payload) = .ok t) ∧
    (s.rpc.reqRecvd.map fun e => e.2.uniqReqId).Nodup := by
  have kept : Kept behind s := run.keeps (Kept behind) .init fun _ _ _ kept step => Step.keeps kept step
  refine ⟨fun x inside => ?_, fun now thread payload enabled => ?_, ?_⟩
  · cases found : s.rpc.pendingRequests.find x.1.uniqReqId with
    | some st => exact Or.inl rfl
    | none =>
      rcases kept.absent _ found with none | ⟨-, answered⟩
      · exact absurd (List.mem_filter.mpr ⟨inside, decide_eq_true rfl⟩) (none ▸ List.not_mem_nil)
      · exact Or.inr answered
  · obtain ⟨tuple, rest, tasks⟩ := List.exists_cons_of_ne_nil enabled.2
    obtain ⟨st, -, -, done⟩ := kept.answers tasks now payload
    exact Lib.bind_succeeds ⟨_, done⟩ fun _ _ => ⟨_, rfl⟩
  · refine List.nodup_iff_count_le_one.mpr fun id => ?_
    have once := kept.recvd id
    have count : (s.rpc.reqRecvd.map fun e => e.2.uniqReqId).count id =
        (s.rpc.reqRecvd.filter fun e => e.2.uniqReqId = id).length := by
      rw [List.count, List.countP_map, List.countP_eq_length_filter]
      rfl
    rw [count, once]
    split <;> decide

def move (cfg : Config) (addr : Addr) (behind : UniqReqId → ℕ) (s : Serving) (e : Event) : Option Serving :=
  if s.Enabled behind e then (s.fire cfg addr e).toOption else none

theorem move_step (s : Serving) (e : Event) (t : Serving) (moves : move cfg addr behind s e = some t) :
    Step cfg addr behind s e t := by
  unfold move at moves
  split at moves
  · next enabled => exact ⟨enabled, Lib.toOption_eq_some.mp moves⟩
  · cases moves

def half (first : Bool) : Hdr := { msgType := .request, first, pktId := 1, clAddr := 1, msgCreationTime := 10 }

/-- A request whose first packet comes last, with a collection between the two, is answered, another one comes, and the
collection after the next takes it away. -/
def lastFirst : List Event :=
  [.request 0 (half false) 1458, .collect, .request gcFreqSec (half true) 14, .reply gcFreqSec 0 4,
    .request gcFreqSec { half true with reqId := 1 } 14, .collect,
    .request (2 * gcFreqSec) { half false with reqId := 1 } 1458, .collect]

/-- The first request was answered a period ago, and the second one waits to be. -/
theorem collection_safe_last_first : ∃ s : Serving, (half true).uniqReqId ∈ s.arrived.map (fun x => x.1.uniqReqId) ∧
    s.rpc.pendingRequests.find (half true).uniqReqId = none ∧ s.Answered (half true).uniqReqId s.now ∧
    (s.rpc.pendingTasks 0).length = 1 ∧
    ∃ t, s.fire (.small 3000 0 0 0 0 (by decide) (by decide)) 0 (.reply s.now 0 4) = .ok t := by
  have two : (Lib.Run.exec (move (.small 3000 0 0 0 0 (by decide) (by decide)) 0 fun _ => 1) {} lastFirst).any
        (fun out => (half true).uniqReqId ∈ out.2.arrived.map (fun x => x.1.uniqReqId) ∧
          (out.2.rpc.pendingRequests.find (half true).uniqReqId).isNone ∧ (out.2.rpc.pendingTasks 0).length = 1 ∧
          out.2.Enabled (fun _ => 1) (.reply out.2.now 0 4)) = true := by
    decide +kernel
  obtain ⟨⟨trace, s⟩, run, met⟩ := (Option.any_eq_true _ _).mp two
  obtain ⟨came, gone, one, enabled⟩ := of_decide_eq_true met
  obtain ⟨there, answers, -⟩ := collection_safe (Lib.Run.of_exec move_step run)
  obtain ⟨x, inside, name⟩ := List.mem_map.mp came
  refine ⟨s, came, Option.isNone_iff_eq_none.mp gone, ?_, one, answers s.now 0 4 enabled⟩
  rw [← name] at gone ⊢
  refine (there x inside).resolve_left fun present => ?_
  rw [Option.isNone_iff_eq_none.mp gone] at present
  cases present

end Serving

end PhantomPass
