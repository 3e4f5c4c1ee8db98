import Mathlib
import PhantomPass.Config
import PhantomPass.Lib.Runs
import PhantomPass.Lib.Store

/-! PfabricApplication at a client: one pool of free connections and one queue of
requests for each server. A request waits only while its pool is empty, and the
reply that frees a connection hands it to the first request that waits. -/

set_option autoImplicit false

namespace PhantomPass.Baseline

abbrev Agent := ℕ

/-- RequestIdTuple as this application fills it in; an address that it leaves unset is 0. -/
structure PfabricReq where
  appLevelId : ℕ
  clAddr : Addr := 0
  srAddr : Addr := 0
  clThreadId : ℤ
  srThreadId : ℤ
  msgBytes : ℤ
  isRequest : Bool
  ts : Time
  deriving DecidableEq

structure MsgState where
  totalSizeB : ℤ
  bytesRecvd : ℤ
  deriving DecidableEq

/-- The server, its thread and the connection of a request that was sent. -/
structure SrvrInfo where
  srvrAddr : Addr
  srvrThrd : ℤ
  agent : Agent
  deriving DecidableEq

/-- A request handed to an agent, with the busy agents it found. -/
structure Advanced where
  srvrAddr : Addr
  req : PfabricReq
  agent : Agent
  busy : ℕ → Option SrvrInfo

structure Client where
  localAddr : Addr
  threadId : ℤ

/-- The application. Which requests came and were handed to agents, and how many
bytes of each reply it took, are kept beside the state; the code reads neither. -/
structure PfabricApplication where
  reqsSent : ℕ := 0
  freeAgentPool : Addr → Option (List Agent) := fun _ => none
  queuedReqs : Lib.Store Addr (List PfabricReq) := .empty []
  queuedRequests : ℤ := 0
  busyAgent : ℕ → Option SrvrInfo := fun _ => none
  replyState : ℕ → Option MsgState := fun _ => none
  warmupPhase : ℤ := 0
  arrived : List (Addr × PfabricReq) := []
  advanced : List Advanced := []
  received : ℕ → ℤ := fun _ => 0

def toServer (srvr : Addr) (reqs : List (Addr × PfabricReq)) : List PfabricReq :=
  (reqs.filter fun x => x.1 = srvr).map Prod.snd

/-- send_response: the size of a reply. -/
def nextRespSize (drawn : ℤ) : ℤ := if drawn < 2 then 2 else drawn

theorem nextRespSize_pos (drawn : ℤ) : 0 < nextRespSize drawn := by
  unfold nextRespSize
  split <;> omega

namespace PfabricApplication

variable (cl : Client) (daddr : Agent → Addr) (s : PfabricApplication)

def pool (srvr : Addr) : List Agent := (s.freeAgentPool srvr).getD []

def queue (srvr : Addr) : List PfabricReq := (s.queuedReqs.find srvr).getD []

def attachAgent (agent : Agent) : Checked PfabricApplication :=
  if agent = 0 then throw (.thrown .pfabricAttachAgent "No such agent")
  else
    let pool := s.pool (daddr agent) ++ [agent]
    return { s with freeAgentPool := Function.update s.freeAgentPool (daddr agent) (some pool) }

def attachAgents : List Agent → PfabricApplication → Checked PfabricApplication
  | [], s => return s
  | agent :: rest, s => do
    let s ← s.attachAgent daddr agent
    attachAgents rest s

/-- The client's address goes with a request when it is forwarded. -/
def stamp (req : PfabricReq) : PfabricReq := { req with clAddr := cl.localAddr }

def advance (req : PfabricReq) (srvr : Addr) (agent : Agent) (rest : List Agent) : PfabricApplication :=
  { s with
    freeAgentPool := Function.update s.freeAgentPool srvr (some rest)
    busyAgent := Function.update s.busyAgent req.appLevelId (some ⟨srvr, 0, agent⟩)
    advanced := s.advanced ++ [⟨srvr, stamp cl req, agent, s.busyAgent⟩] }

def forwardRequest (req : PfabricReq) (srvr : Addr) : Checked PfabricApplication :=
  match (s.pool srvr).getLast? with
  | none => throw (.undefined .pfabricForwardRequest "pool->back()")
  | some agent => do
    assert .pfabricForwardRequest "agent != nullptr" (agent ≠ 0)
    assert .pfabricForwardRequest "req_id.is_request_" (req.isRequest = true)
    return s.advance cl req srvr agent (s.pool srvr).dropLast

def newRequest (size : ℤ) (now : Time) : PfabricReq where
  appLevelId := s.reqsSent
  clThreadId := cl.threadId
  srThreadId := 0
  msgBytes := max size 4
  isRequest := true
  ts := now

/-- send_incast: the tuple of its request. -/
def incastRequest (target : Addr) (size : ℤ) (now : Time) : PfabricReq where
  appLevelId := s.reqsSent
  clAddr := cl.localAddr
  srAddr := target
  clThreadId := cl.threadId
  srThreadId := 0
  msgBytes := size
  isRequest := true
  ts := now

/-- send_request from where the server is known; its queue is made with the first
request. A request that takes another off the queue does not count it off. -/
def sendRequest (req : PfabricReq) (srvr : Addr) : Checked PfabricApplication :=
  match s.freeAgentPool srvr with
  | none => throw (.thrown .pfabricSendRequest "dstid_to_free_agent_pool_.at()")
  | some pool =>
    let s : PfabricApplication := { s with reqsSent := s.reqsSent + 1, arrived := s.arrived ++ [(srvr, req)] }
    if pool = [] then
      return { s with
        queuedReqs := s.queuedReqs.insert srvr (s.queue srvr ++ [req]), queuedRequests := s.queuedRequests + 1 }
    else
      match s.queue srvr with
      | [] => ({ s with queuedReqs := s.queuedReqs.insert srvr [] } : PfabricApplication).forwardRequest cl req srvr
      | first :: rest =>
        ({ s with queuedReqs := s.queuedReqs.insert srvr (rest ++ [req]) } :
          PfabricApplication).forwardRequest cl first srvr

/-- A connection is free: the first request that waits for one takes it. -/
def serveQueue (srvr : Addr) : Checked PfabricApplication :=
  match s.queue srvr with
  | [] => return s
  | first :: rest =>
    ({ s with queuedReqs := s.queuedReqs.insert srvr rest, queuedRequests := s.queuedRequests - 1 } :
      PfabricApplication).forwardRequest
      cl first srvr

def replyComplete (id : ℕ) : Checked PfabricApplication :=
  match s.busyAgent id with
  | none => throw (.thrown .pfabricRecvMsg "req_id_to_busy_agent_.at()")
  | some info =>
    match s.freeAgentPool info.srvrAddr with
    | none => throw (.thrown .pfabricRecvMsg "dstid_to_free_agent_pool_.at()")
    | some pool => do
      let s : PfabricApplication := { s with
        busyAgent := Function.update s.busyAgent id none
        freeAgentPool := Function.update s.freeAgentPool info.srvrAddr (some (pool ++ [info.agent])) }
      let s ← s.serveQueue cl info.srvrAddr
      return { s with replyState := Function.update s.replyState id none }

/-- recv_msg of a part of a reply; clients get no requests. -/
def recvMsg (payload : ℤ) (req : PfabricReq) : Checked PfabricApplication :=
  if s.warmupPhase = 1 then return s
  else do
    assert .pfabricRecvMsg "req_id_tup.ts_ > 0" (0 < req.ts)
    let id := req.appLevelId
    let state : MsgState := match s.replyState id with
      | none => ⟨req.msgBytes, payload⟩
      | some state => { state with bytesRecvd := state.bytesRecvd + payload }
    let s : PfabricApplication := { s with
      replyState := Function.update s.replyState id (some state)
      received := Function.update s.received id (s.received id + payload) }
    if state.bytesRecvd = state.totalSizeB then s.replyComplete cl id
    else if state.totalSizeB < state.bytesRecvd then throw (.thrown .pfabricRecvMsg "exit(EXIT_FAILURE)")
    else return s

inductive Event
  | sendRequest (srvr : Addr) (size : ℤ) (now : Time)
  | sendIncast (target : Addr) (size : ℤ) (now : Time)
  | recvMsg (payload : ℤ) (req : PfabricReq)
  | stopWarmup

def Sent (id : ℕ) : Prop := ∃ x ∈ s.advanced, x.req.appLevelId = id

/-- Replies are to requests that were sent; the parts of a reply add up to its size. -/
def Enabled (drawn : ℕ → ℤ) : Event → Prop
  | .recvMsg payload req => s.Sent req.appLevelId ∧ req.isRequest = false ∧
      req.msgBytes = nextRespSize (drawn req.appLevelId) ∧ 0 ≤ payload ∧
        s.received req.appLevelId + payload ≤ req.msgBytes
  | _ => True

def fire : Event → Checked PfabricApplication
  | .sendRequest srvr size now => s.sendRequest cl (s.newRequest cl size now) srvr
  | .sendIncast target size now => s.sendRequest cl (s.incastRequest cl target size now) target
  | .recvMsg payload req => s.recvMsg cl payload req
  | .stopWarmup => return { s with warmupPhase := 0 }

instance (drawn : ℕ → ℤ) (e : Event) : Decidable (s.Enabled drawn e) := by
  cases e <;> unfold Enabled Sent <;> infer_instance

def Step (drawn : ℕ → ℤ) (s : PfabricApplication) (e : Event) (t : PfabricApplication) : Prop :=
  s.Enabled drawn e ∧ s.fire cl e = .ok t

def advancedTo (srvr : Addr) : List PfabricReq := (s.advanced.filter fun x => x.srvrAddr = srvr).map Advanced.req

/-- Every connection is in the pool of its server, or busy with one request. -/
structure Connections (agents : List Agent) : Prop where
  nodup : ∀ srvr, (s.pool srvr).Nodup
  mem : ∀ srvr, ∀ a ∈ s.pool srvr, a ∈ agents ∧ daddr a = srvr
  known : ∀ a ∈ agents, s.freeAgentPool (daddr a) ≠ none
  busy : ∀ id info, s.busyAgent id = some info →
    info.agent ∈ agents ∧ daddr info.agent = info.srvrAddr ∧ info.agent ∉ s.pool info.srvrAddr
  one : ∀ i j info info', s.busyAgent i = some info → s.busyAgent j = some info' → info.agent = info'.agent → i = j
  place : ∀ a ∈ agents, a ∈ s.pool (daddr a) ∨ ∃ id info, s.busyAgent id = some info ∧ info.agent = a
  found : ∀ x ∈ s.advanced, x.agent ∈ agents ∧ daddr x.agent = x.srvrAddr ∧
    ∀ id info, x.busy id = some info → info.agent ≠ x.agent

/-- Requests leave in the order in which they came; those held are between the queue and an agent. -/
structure Requests (held : List (Addr × PfabricReq)) : Prop where
  ids : (s.arrived.map fun x => x.2.appLevelId) = List.range s.reqsSent
  order : ∀ srvr, (toServer srvr s.arrived).map (stamp cl) =
    s.advancedTo srvr ++ (toServer srvr held ++ s.queue srvr).map (stamp cl)
  requests : ∀ x ∈ s.arrived, x.2.isRequest = true
  counter : s.queuedRequests = s.queuedReqs.total fun _ reqs => (reqs.length : ℤ)
  waits : ∀ srvr, s.queue srvr ≠ [] → (s.pool srvr).length ≤ (toServer srvr held).length

/-- The reply to the request of this number is not due, on its way or taken. -/
inductive Answer (drawn : ℕ → ℤ) (id : ℕ) : Prop
  | unsent : ¬ s.Sent id → s.busyAgent id = none → s.received id = 0 → Answer drawn id
  | coming (info : SrvrInfo) : s.busyAgent id = some info →
      (∃ x ∈ s.advanced, x.req.appLevelId = id ∧ x.srvrAddr = info.srvrAddr ∧ x.agent = info.agent) →
      s.received id < nextRespSize (drawn id) → Answer drawn id
  | taken : s.Sent id → s.busyAgent id = none → s.received id = nextRespSize (drawn id) → Answer drawn id

/-- The state of a reply counts its bytes; an empty part may follow the last one. -/
def Counted (drawn : ℕ → ℤ) (id : ℕ) : Prop :=
  s.replyState id = none ∧ (s.received id = 0 ∨ s.received id = nextRespSize (drawn id)) ∨
    ∃ bytes, s.replyState id = some ⟨nextRespSize (drawn id), bytes⟩ ∧
      (bytes = s.received id ∧ bytes < nextRespSize (drawn id) ∨ bytes = 0 ∧ s.received id = nextRespSize (drawn id))

structure Books (drawn : ℕ → ℤ) (agents : List Agent) (held : List (Addr × PfabricReq)) : Prop where
  nonnull : ∀ a ∈ agents, a ≠ 0
  conn : Connections daddr s agents
  reqs : Requests cl s held
  answers : ∀ id, Answer s drawn id

section Lists

variable {srvr : Addr} {req : PfabricReq} {reqs : List (Addr × PfabricReq)}

theorem mem_toServer : req ∈ toServer srvr reqs ↔ (srvr, req) ∈ reqs := by
  unfold toServer
  simp

theorem toServer_append (reqs' : List (Addr × PfabricReq)) :
    toServer srvr (reqs ++ reqs') = toServer srvr reqs ++ toServer srvr reqs' := by
  unfold toServer
  rw [List.filter_append, List.map_append]

theorem toServer_self : toServer srvr [(srvr, req)] = [req] := by
  unfold toServer
  simp

theorem toServer_of_ne {other : Addr} (ne : other ≠ srvr) : toServer srvr [(other, req)] = [] := by
  unfold toServer
  simp [ne]

end Lists

variable {cl} {daddr} {s} {drawn : ℕ → ℤ} {agents : List Agent} {srvr : Addr} {req : PfabricReq}
    {t : PfabricApplication}

theorem Requests.fresh (reqs : Requests cl s [(srvr, req)]) : ¬ s.Sent req.appLevelId := by
  rintro ⟨x, inside, same⟩
  have nodup : (s.arrived.map fun y => y.2.appLevelId).Nodup := by
    rw [reqs.ids]
    exact List.nodup_range
  have came : ∀ v r, r ∈ (toServer v s.arrived).map (stamp cl) → ∃ r', (v, r') ∈ s.arrived ∧ stamp cl r' = r := by
    intro v r there
    obtain ⟨r', there, stamped⟩ := List.mem_map.mp there
    exact ⟨r', mem_toServer.mp there, stamped⟩
  have sent : x.req ∈ s.advancedTo x.srvrAddr := List.mem_map.mpr ⟨x, List.mem_filter.mpr ⟨inside, by simp⟩, rfl⟩
  have held : stamp cl req ∈ (toServer srvr [(srvr, req)] ++ s.queue srvr).map (stamp cl) := by
    rw [toServer_self]
    exact List.mem_cons_self
  -- the two are one arrival, of which the server's list holds one
  obtain ⟨r, first, stamped⟩ := came x.srvrAddr x.req (by rw [reqs.order]; exact List.mem_append_left _ sent)
  obtain ⟨r', second, stamped'⟩ := came srvr (stamp cl req) (by rw [reqs.order]; exact List.mem_append_right _ held)
  have number : r.appLevelId = r'.appLevelId := by
    have left : (stamp cl r).appLevelId = x.req.appLevelId := congrArg PfabricReq.appLevelId stamped
    have right : (stamp cl r').appLevelId = (stamp cl req).appLevelId := congrArg PfabricReq.appLevelId stamped'
    exact left.trans (same.trans right.symm)
  have equal : (x.srvrAddr, r) = (srvr, r') := List.inj_on_of_nodup_map nodup first second number
  have here : x.srvrAddr = srvr := congrArg Prod.fst equal
  have apart : (((toServer srvr s.arrived).map (stamp cl)).map PfabricReq.appLevelId).Nodup := by
    have sub : (((toServer srvr s.arrived).map (stamp cl)).map PfabricReq.appLevelId).Sublist
        (s.arrived.map fun y => y.2.appLevelId) := by
      unfold toServer
      rw [List.map_map, List.map_map]
      exact List.filter_sublist.map _
    exact sub.nodup nodup
  rw [reqs.order, List.map_append] at apart
  exact (List.nodup_append.mp apart).2.2 _ (List.mem_map_of_mem (here ▸ sent)) _ (List.mem_map_of_mem held) same

theorem Requests.isRequest (reqs : Requests cl s [(srvr, req)]) : req.isRequest = true := by
  have held : stamp cl req ∈ (toServer srvr s.arrived).map (stamp cl) := by
    rw [reqs.order, toServer_self]
    exact List.mem_append_right _ List.mem_cons_self
  obtain ⟨r, there, stamped⟩ := List.mem_map.mp held
  have same : (stamp cl r).isRequest = (stamp cl req).isRequest := congrArg PfabricReq.isRequest stamped
  exact same.symm.trans (reqs.requests _ (mem_toServer.mp there))

theorem pool_update (srvr v : Addr) (pool : List Agent) (f : PfabricApplication)
    (pools : f.freeAgentPool = Function.update s.freeAgentPool srvr (some pool)) :
    f.pool v = if v = srvr then pool else s.pool v := by
  unfold PfabricApplication.pool
  rw [pools, Function.update_apply]
  split <;> rfl

section Advance

variable {agent : Agent} {rest : List Agent}

theorem pool_advance (v : Addr) : (s.advance cl req srvr agent rest).pool v = if v = srvr then rest else s.pool v :=
  pool_update srvr v rest _ rfl

theorem Connections.advance (conn : Connections daddr s agents) (pool : s.pool srvr = rest ++ [agent])
    (idle : s.busyAgent req.appLevelId = none) : Connections daddr (s.advance cl req srvr agent rest) agents := by
  have nodup := conn.nodup srvr
  rw [pool] at nodup
  have here : agent ∈ s.pool srvr := by rw [pool]; exact List.mem_append_right _ (List.mem_singleton_self _)
  have own := conn.mem srvr agent here
  have less : ∀ v, ∀ a ∈ (s.advance cl req srvr agent rest).pool v, a ∈ s.pool v := by
    intro v a inside
    rw [pool_advance] at inside
    split at inside
    · next same => rw [same, pool]; exact List.mem_append_left _ inside
    · exact inside
  -- a connection in the pool is not busy
  have apart : ∀ id info, s.busyAgent id = some info → info.agent ≠ agent := by
    intro id info busy same
    obtain ⟨-, dst, outside⟩ := conn.busy id info busy
    rw [same] at outside dst
    exact outside (by rw [← dst, own.2]; exact here)
  refine ⟨fun v => ?_, fun v a inside => conn.mem v a (less v a inside), fun a inside => ?_, fun id info busy => ?_,
    fun i j info info' first second same => ?_, fun a inside => ?_, fun x inside => ?_⟩
  · rw [pool_advance]
    split
    · exact (List.nodup_append.mp nodup).1
    · exact conn.nodup v
  · unfold PfabricApplication.advance
    dsimp only
    rw [Function.update_apply]
    split
    · exact Option.some_ne_none _
    · exact conn.known a inside
  · unfold PfabricApplication.advance at busy
    dsimp only at busy
    rw [Function.update_apply] at busy
    split at busy
    · cases busy
      refine ⟨own.1, own.2, fun inside => ?_⟩
      rw [pool_advance, if_pos rfl] at inside
      exact (List.nodup_append.mp nodup).2.2 _ inside _ (List.mem_singleton_self _) rfl
    · obtain ⟨attached, dst, outside⟩ := conn.busy id info busy
      exact ⟨attached, dst, fun inside => outside (less _ _ inside)⟩
  · unfold PfabricApplication.advance at first second
    dsimp only at first second
    rw [Function.update_apply] at first second
    split at first <;> split at second
    · next left right => rw [left, right]
    · cases first
      exact absurd same.symm (apart _ _ second)
    · cases second
      exact absurd same (apart _ _ first)
    · exact conn.one i j info info' first second same
  · rcases conn.place a inside with free | ⟨id, info, busy, same⟩
    · by_cases taken : a = agent
      · refine Or.inr ⟨req.appLevelId, ⟨srvr, 0, agent⟩, ?_, taken.symm⟩
        exact Function.update_self ..
      · left
        rw [pool_advance]
        split
        · next dst =>
          rw [dst, pool] at free
          exact (List.mem_append.mp free).resolve_right fun last => taken (List.mem_singleton.mp last)
        · exact free
    · refine Or.inr ⟨id, info, ?_, same⟩
      have other : id ≠ req.appLevelId := by
        intro same
        rw [same, idle] at busy
        cases busy
      exact (Function.update_of_ne other ..).trans busy
  · rcases List.mem_append.mp inside with old | new
    · exact conn.found x old
    · rw [List.mem_singleton.mp new]
      exact ⟨own.1, own.2, apart⟩

theorem advancedTo_advance (v : Addr) : (s.advance cl req srvr agent rest).advancedTo v =
    s.advancedTo v ++ (toServer v [(srvr, req)]).map (stamp cl) := by
  unfold advancedTo PfabricApplication.advance
  dsimp only
  rw [List.filter_append, List.map_append]
  by_cases same : srvr = v
  · rw [same, toServer_self]
    simp
  · rw [toServer_of_ne same]
    simp [same]

theorem Requests.advance (reqs : Requests cl s [(srvr, req)]) (pool : s.pool srvr = rest ++ [agent]) :
    Requests cl (s.advance cl req srvr agent rest) [] := by
  refine ⟨reqs.ids, fun v => ?_, reqs.requests, reqs.counter, fun v waiting => ?_⟩
  · have order := reqs.order v
    rw [List.map_append, ← List.append_assoc] at order
    rw [advancedTo_advance]
    exact order
  · have before := reqs.waits v waiting
    rw [pool_advance]
    split
    · next same =>
      rw [same, pool, toServer_self, List.length_append] at before
      exact Nat.le_of_succ_le_succ before
    · next other =>
      rw [toServer_of_ne (Ne.symm other)] at before
      exact before

theorem sent_advance (id : ℕ) : (s.advance cl req srvr agent rest).Sent id ↔ s.Sent id ∨ req.appLevelId = id := by
  unfold Sent PfabricApplication.advance
  simp [or_and_right, exists_or, stamp]

theorem Answer.advance {id : ℕ} (answer : Answer s drawn id) (fresh : ¬ s.Sent req.appLevelId) :
    Answer (s.advance cl req srvr agent rest) drawn id := by
  have busy : (s.advance cl req srvr agent rest).busyAgent id =
      if id = req.appLevelId then some ⟨srvr, 0, agent⟩ else s.busyAgent id := Function.update_apply ..
  by_cases same : id = req.appLevelId
  · subst same
    rw [if_pos rfl] at busy
    have nothing : s.received req.appLevelId = 0 := by
      cases answer with
      | unsent _ _ nothing => exact nothing
      | coming info _ sent _ =>
        obtain ⟨x, inside, number, -⟩ := sent
        exact absurd ⟨x, inside, number⟩ fresh
      | taken sent _ _ => exact absurd sent fresh
    refine .coming _ busy ⟨_, List.mem_append_right _ (List.mem_singleton_self _), rfl, rfl, rfl⟩ ?_
    exact nothing.trans_lt (nextRespSize_pos _)
  · rw [if_neg same] at busy
    have sent : (s.advance cl req srvr agent rest).Sent id ↔ s.Sent id :=
      (sent_advance id).trans (or_iff_left fun here => same here.symm)
    cases answer with
    | unsent none idle nothing => exact .unsent (mt sent.mp none) (busy.trans idle) nothing
    | coming info here sent part =>
      obtain ⟨x, inside, facts⟩ := sent
      exact .coming info (busy.trans here) ⟨x, List.mem_append_left _ inside, facts⟩ part
    | taken done idle whole => exact .taken (sent.mpr done) (busy.trans idle) whole

end Advance

theorem Books.forward (books : Books cl daddr s drawn agents [(srvr, req)]) (free : s.pool srvr ≠ []) :
    ∃ t, s.forwardRequest cl req srvr = .ok t ∧ Books cl daddr t drawn agents [] ∧ t.replyState = s.replyState ∧
      t.received = s.received := by
  obtain ⟨nonnull, conn, reqs, answers⟩ := books
  have pool : s.pool srvr = (s.pool srvr).dropLast ++ [(s.pool srvr).getLast free] :=
    (List.dropLast_append_getLast free).symm
  have fresh := reqs.fresh
  have idle : s.busyAgent req.appLevelId = none := by
    cases answers req.appLevelId with
    | unsent _ idle _ => exact idle
    | coming info _ sent _ =>
      obtain ⟨x, inside, number, -⟩ := sent
      exact absurd ⟨x, inside, number⟩ fresh
    | taken _ idle _ => exact idle
  have attached := (conn.mem srvr _ (List.getLast_mem free)).1
  refine ⟨s.advance cl req srvr ((s.pool srvr).getLast free) (s.pool srvr).dropLast, ?_,
    ⟨nonnull, conn.advance pool idle, reqs.advance pool, fun id => (answers id).advance fresh⟩, rfl, rfl⟩
  unfold forwardRequest assert
  rw [List.getLast?_eq_some_getLast free]
  simp only [Lib.bind_eq_ok, Lib.require_eq_ok, Lib.pure_eq_ok, exists_and_left, exists_const]
  exact ⟨nonnull _ attached, reqs.isRequest, trivial⟩

theorem queue_insert (v : Addr) (reqs : List PfabricReq) (f : PfabricApplication)
    (queues : f.queuedReqs = s.queuedReqs.insert srvr reqs) : f.queue v = if v = srvr then reqs else s.queue v := by
  unfold queue
  rw [queues]
  split
  · next same =>
    rw [same, Lib.Store.find_insert_self]
    rfl
  · next other => rw [Lib.Store.find_insert_of_ne _ _ other]

theorem total_insert (reqs : List PfabricReq) : ((s.queuedReqs.insert srvr reqs).total fun _ reqs =>
    (reqs.length : ℤ)) =
    (s.queuedReqs.total fun _ reqs => (reqs.length : ℤ)) + reqs.length - (s.queue srvr).length := by
  rw [Lib.Store.total_insert_or]
  unfold queue Lib.Store.find
  split <;> simp

theorem Requests.arrive (reqs : Requests cl s []) (number : req.appLevelId = s.reqsSent)
    (isRequest : req.isRequest = true)
    (held : List (Addr × PfabricReq)) (waiting : List PfabricReq) {f : PfabricApplication}
    (split : toServer srvr held ++ waiting = s.queue srvr ++ [req]) (others : ∀ v, v ≠ srvr → toServer v held = [])
    (sent : f.reqsSent = s.reqsSent + 1) (arrived : f.arrived = s.arrived ++ [(srvr, req)])
    (advanced : f.advanced = s.advanced) (pools : f.freeAgentPool = s.freeAgentPool)
    (queues : f.queuedReqs = s.queuedReqs.insert srvr waiting)
    (counter : f.queuedRequests = s.queuedRequests + waiting.length - (s.queue srvr).length)
    (room : waiting ≠ [] → (s.pool srvr).length ≤ (toServer srvr held).length) : Requests cl f held := by
  have queue := fun v => queue_insert v waiting f queues
  have pool : ∀ v, f.pool v = s.pool v := fun v => by unfold PfabricApplication.pool; rw [pools]
  refine ⟨?_, fun v => ?_, fun x inside => ?_, ?_, fun v nonempty => ?_⟩
  · rw [arrived, sent, List.map_append, reqs.ids, List.range_succ, List.map_singleton, number]
  · have left : f.advancedTo v = s.advancedTo v := by unfold advancedTo; rw [advanced]
    have order := reqs.order v
    rw [arrived, toServer_append, List.map_append, order, left, queue, List.append_assoc, ← List.map_append]
    by_cases same : v = srvr
    · subst same
      rw [if_pos rfl, split, toServer_self]
      rfl
    · rw [if_neg same, others v same, toServer_of_ne (Ne.symm same), List.append_nil]
      rfl
  · rw [arrived] at inside
    rcases List.mem_append.mp inside with old | new
    · exact reqs.requests x old
    · rw [List.mem_singleton.mp new]
      exact isRequest
  · rw [counter, queues, total_insert, reqs.counter]
  · rw [queue] at nonempty
    rw [pool]
    by_cases same : v = srvr
    · rw [if_pos same] at nonempty
      rw [same]
      exact room nonempty
    · rw [if_neg same] at nonempty
      exact (reqs.waits v nonempty).trans (Nat.zero_le _)

theorem Connections.congr (conn : Connections daddr s agents) (pools : t.freeAgentPool = s.freeAgentPool)
    (busy : t.busyAgent = s.busyAgent) (advanced : t.advanced = s.advanced) : Connections daddr t agents := by
  have pool : ∀ v, t.pool v = s.pool v := fun v => by unfold PfabricApplication.pool; rw [pools]
  refine ⟨fun v => ?_, fun v a => ?_, ?_, fun id info => ?_, ?_, fun a inside => ?_, ?_⟩
  · rw [pool]
    exact conn.nodup v
  · rw [pool]
    exact conn.mem v a
  · rw [pools]
    exact conn.known
  · rw [busy, pool]
    exact conn.busy id info
  · rw [busy]
    exact conn.one
  · rw [busy, pool]
    exact conn.place a inside
  · rw [advanced]
    exact conn.found

theorem Answer.congr {id : ℕ} (answer : Answer s drawn id) (busy : t.busyAgent = s.busyAgent)
    (advanced : t.advanced = s.advanced) (received : t.received = s.received) : Answer t drawn id := by
  have sent : t.Sent id ↔ s.Sent id := by unfold Sent; rw [advanced]
  cases answer with
  | unsent none idle nothing => exact .unsent (mt sent.mp none) (busy ▸ idle) (received ▸ nothing)
  | coming info here sent part => exact .coming info (busy ▸ here) (advanced ▸ sent) (received ▸ part)
  | taken done idle whole => exact .taken (sent.mpr done) (busy ▸ idle) (received ▸ whole)

theorem Books.sendRequest (books : Books cl daddr s drawn agents []) (number : req.appLevelId = s.reqsSent)
    (isRequest : req.isRequest = true) (run : s.sendRequest cl req srvr = .ok t) :
    Books cl daddr t drawn agents [] ∧ t.replyState = s.replyState ∧ t.received = s.received := by
  unfold PfabricApplication.sendRequest at run
  split at run
  · cases run
  · next pool known =>
    have here : s.pool srvr = pool := by unfold PfabricApplication.pool; rw [known]; rfl
    have queue : ({ s with reqsSent := s.reqsSent + 1, arrived := s.arrived ++ [(srvr, req)] } :
      PfabricApplication).queue srvr =
      s.queue srvr := rfl
    simp only [queue] at run
    split at run
    · next empty =>
      rw [Lib.pure_eq_ok] at run
      subst run
      refine ⟨⟨books.nonnull, books.conn.congr rfl rfl rfl, ?_, fun id => (books.answers id).congr rfl rfl rfl⟩, rfl,
        rfl⟩
      refine books.reqs.arrive number isRequest [] (s.queue srvr ++ [req]) rfl (fun _ _ =>
        rfl) rfl rfl rfl rfl rfl ?_ ?_
      · simp only [List.length_append, List.length_singleton]
        push_cast
        omega
      · intro _
        rw [here, empty]
        exact Nat.zero_le _
    · next some_free =>
      have none_waits : s.queue srvr = [] := by
        by_contra waiting
        exact some_free (here ▸ List.length_eq_zero_iff.mp (Nat.le_zero.mp (books.reqs.waits srvr waiting)))
      rw [none_waits] at run
      dsimp only at run
      let f : PfabricApplication := { s with
        reqsSent := s.reqsSent + 1, arrived := s.arrived ++ [(srvr, req)], queuedReqs := s.queuedReqs.insert srvr [] }
      have held : Books cl daddr f drawn agents [(srvr, req)] := by
        refine ⟨books.nonnull, books.conn.congr rfl rfl rfl, ?_, fun id => (books.answers id).congr rfl rfl rfl⟩
        refine books.reqs.arrive number isRequest [(srvr, req)] [] ?_ ?_ rfl rfl rfl rfl rfl ?_ (absurd rfl)
        · rw [toServer_self, none_waits]
          rfl
        · exact fun v other => toServer_of_ne (Ne.symm other)
        · simp [f, none_waits]
      obtain ⟨t', done, books, states, received⟩ := held.forward (here ▸ some_free : f.pool srvr ≠ [])
      cases done.symm.trans run
      exact ⟨books, states, received⟩

section Reply

variable {id : ℕ} {info : SrvrInfo}

theorem Connections.free (conn : Connections daddr s agents) (here : s.busyAgent id = some info)
    (pools : t.freeAgentPool = Function.update s.freeAgentPool info.srvrAddr
    (some (s.pool info.srvrAddr ++ [info.agent])))
    (idle : t.busyAgent = Function.update s.busyAgent id none) (advanced : t.advanced = s.advanced) :
    Connections daddr t agents := by
  obtain ⟨attached, dst, outside⟩ := conn.busy id info here
  have pool := fun v => pool_update info.srvrAddr v _ t pools
  have busy : ∀ j, t.busyAgent j = if j = id then none else s.busyAgent j :=
    fun j => by rw [idle, Function.update_apply]
  have still : ∀ j info', t.busyAgent j = some info' → j ≠ id ∧ s.busyAgent j = some info' := by
    intro j info' there
    rw [busy] at there
    split at there
    · cases there
    · next other => exact ⟨other, there⟩
  -- the connection leaves the busy ones for the pool of its server
  refine ⟨fun v => ?_, fun v a inside => ?_, fun a inside => ?_, fun j info' there => ?_,
    fun i j info' info'' first second => conn.one i j _ _ (still i _ first).2 (still j _ second).2,
      fun a inside => ?_, ?_⟩
  · rw [pool]
    split
    · refine List.nodup_append.mpr ⟨conn.nodup _, List.nodup_singleton _, fun a inside b last same => ?_⟩
      rw [List.mem_singleton.mp last] at same
      exact outside (same ▸ inside)
    · exact conn.nodup v
  · rw [pool] at inside
    split at inside
    · next same =>
      rcases List.mem_append.mp inside with old | new
      · exact same ▸ conn.mem _ a old
      · rw [List.mem_singleton.mp new, same]
        exact ⟨attached, dst⟩
    · exact conn.mem v a inside
  · rw [pools, Function.update_apply]
    split
    · exact Option.some_ne_none _
    · exact conn.known a inside
  · obtain ⟨other, there⟩ := still j info' there
    obtain ⟨attached', dst', outside'⟩ := conn.busy j info' there
    refine ⟨attached', dst', fun inside => ?_⟩
    rw [pool] at inside
    split at inside
    · next same =>
      rw [← same] at inside
      rcases List.mem_append.mp inside with old | new
      · exact outside' old
      · exact other (conn.one j id info' info there here (List.mem_singleton.mp new))
    · exact outside' inside
  · rcases conn.place a inside with free | ⟨j, info', there, same⟩
    · left
      rw [pool]
      split
      · next at_ => exact List.mem_append_left _ (at_ ▸ free)
      · exact free
    · by_cases closing : j = id
      · left
        rw [closing, here] at there
        cases there
        rw [pool, ← same, if_pos dst]
        exact List.mem_append_right _ (List.mem_singleton_self _)
      · exact Or.inr ⟨j, info', by rw [busy, if_neg closing]; exact there, same⟩
  · rw [advanced]
    exact conn.found

theorem Answer.close {j : ℕ} (answer : Answer s drawn j) (sent : s.Sent id)
    (idle : t.busyAgent = Function.update s.busyAgent id none) (advanced : t.advanced = s.advanced)
    (received : t.received = Function.update s.received id (nextRespSize (drawn id))) :
    Answer t drawn j := by
  have same : t.Sent j ↔ s.Sent j := by unfold Sent; rw [advanced]
  by_cases closing : j = id
  · subst closing
    refine .taken (same.mpr sent) ?_ ?_
    · rw [idle, Function.update_self]
    · rw [received, Function.update_self]
  · have busy : t.busyAgent j = s.busyAgent j := by rw [idle, Function.update_of_ne closing]
    have bytes : t.received j = s.received j := by rw [received, Function.update_of_ne closing]
    cases answer with
    | unsent none idle nothing => exact .unsent (mt same.mp none) (busy.trans idle) (bytes.trans nothing)
    | coming info here sent part => exact .coming info (busy.trans here) (advanced ▸ sent) (bytes.trans_lt part)
    | taken done idle whole => exact .taken (same.mpr done) (busy.trans idle) (bytes.trans whole)

/-- The first request that waits is taken off the queue for the one connection that is free. -/
theorem Requests.release {first : PfabricReq} {rest : List PfabricReq} (reqs : Requests cl s [])
    (queue : s.queue srvr = first :: rest) (sent : t.reqsSent = s.reqsSent) (arrived : t.arrived = s.arrived)
    (advanced : t.advanced = s.advanced) (queues : t.queuedReqs = s.queuedReqs.insert srvr rest)
    (counter : t.queuedRequests = s.queuedRequests - 1) (one : (t.pool srvr).length ≤ 1)
    (others : ∀ v, v ≠ srvr → t.pool v = s.pool v) : Requests cl t [(srvr, first)] := by
  have left := fun v => queue_insert v rest t queues
  refine ⟨?_, fun v => ?_, arrived ▸ reqs.requests, ?_, fun v waiting => ?_⟩
  · rw [arrived, sent]
    exact reqs.ids
  · have same : t.advancedTo v = s.advancedTo v := by unfold advancedTo; rw [advanced]
    rw [arrived, reqs.order, same, left]
    by_cases here : v = srvr
    · rw [here, if_pos rfl, toServer_self, queue]
      rfl
    · rw [if_neg here, toServer_of_ne (Ne.symm here)]
      rfl
  · rw [counter, queues, total_insert, reqs.counter, queue, List.length_cons]
    push_cast
    omega
  · rw [left] at waiting
    by_cases here : v = srvr
    · rw [here, toServer_self]
      exact one
    · rw [if_neg here] at waiting
      rw [others v here, toServer_of_ne (Ne.symm here)]
      exact reqs.waits v waiting

/-- A reply is whole: its connection is free, or goes to the first request that waits for one. -/
theorem Books.replyComplete (books : Books cl daddr s drawn agents []) (here : s.busyAgent id = some info)
    (states : ℕ → Option MsgState) : ∃ t,
      ({ s with replyState := states, received := Function.update s.received id (nextRespSize (drawn id)) } :
        PfabricApplication).replyComplete cl id = .ok t ∧ Books cl daddr t drawn agents [] ∧
      t.replyState = Function.update states id none ∧
      t.received = Function.update s.received id (nextRespSize (drawn id)) := by
  have sent : s.Sent id := by
    cases books.answers id with
    | unsent _ idle _ => cases idle.symm.trans here
    | coming _ _ sent _ =>
      obtain ⟨x, inside, number, -⟩ := sent
      exact ⟨x, inside, number⟩
    | taken sent _ _ => exact sent
  obtain ⟨attached, dst, -⟩ := books.conn.busy id info here
  obtain ⟨pool, known⟩ := Option.ne_none_iff_exists'.mp (dst ▸ books.conn.known _ attached)
  have same : s.pool info.srvrAddr = pool := by unfold PfabricApplication.pool; rw [known]; rfl
  let f : PfabricApplication := { s with
    replyState := states, received := Function.update s.received id (nextRespSize (drawn id))
    busyAgent := Function.update s.busyAgent id none
    freeAgentPool := Function.update s.freeAgentPool info.srvrAddr (some (pool ++ [info.agent])) }
  have conn : Connections daddr f agents := books.conn.free here (by rw [same]) rfl rfl
  have answers : ∀ j, Answer f drawn j := fun j => (books.answers j).close sent rfl rfl rfl
  have served : ∃ t, f.serveQueue cl info.srvrAddr = .ok t ∧ Books cl daddr t drawn agents [] ∧ t.replyState = states ∧
      t.received = f.received := by
    have pools : ∀ v, f.pool v = if v = info.srvrAddr then pool ++ [info.agent] else s.pool v := fun v =>
      pool_update info.srvrAddr v _ f rfl
    unfold serveQueue
    cases waiting : f.queue info.srvrAddr with
    | nil =>
      refine ⟨f, rfl, ⟨books.nonnull, conn, ⟨books.reqs.ids, books.reqs.order, books.reqs.requests, books.reqs.counter,
        fun v more => ?_⟩, answers⟩, rfl, rfl⟩
      rw [pools]
      split
      · next at_ => exact absurd (at_ ▸ waiting) more
      · exact books.reqs.waits v more
    | cons first rest =>
      have none_free : pool = [] := by
        have room := books.reqs.waits info.srvrAddr (ne_of_eq_of_ne waiting (List.cons_ne_nil _ _))
        rw [same] at room
        exact List.length_eq_zero_iff.mp (Nat.le_zero.mp room)
      let g : PfabricApplication := { f with
        queuedReqs := f.queuedReqs.insert info.srvrAddr rest, queuedRequests := f.queuedRequests - 1 }
      have freed : g.pool info.srvrAddr = [info.agent] := by
        rw [show g.pool info.srvrAddr = f.pool info.srvrAddr from rfl, pools, if_pos rfl, none_free]
        rfl
      have held : Books cl daddr g drawn agents [(info.srvrAddr, first)] := by
        refine ⟨books.nonnull, conn.congr rfl rfl rfl, ?_, fun j => (answers j).congr rfl rfl rfl⟩
        refine books.reqs.release waiting rfl rfl rfl rfl rfl (by rw [freed]; exact le_refl 1) fun v other => ?_
        exact (pools v).trans (if_neg other)
      exact held.forward (by rw [freed]; exact List.cons_ne_nil _ _)
  obtain ⟨t, done, after, kept, received⟩ := served
  refine ⟨{ t with replyState := Function.update t.replyState id none }, ?_, ?_, ?_, received⟩
  · unfold PfabricApplication.replyComplete
    simp only [here, known]
    rw [show (serveQueue cl _ info.srvrAddr) = Except.ok t from done]
    rfl
  · exact ⟨after.nonnull, after.conn.congr rfl rfl rfl, ⟨after.reqs.ids, after.reqs.order, after.reqs.requests,
      after.reqs.counter, after.reqs.waits⟩, fun j => (after.answers j).congr rfl rfl rfl⟩
  · rw [← kept]

theorem Counted.note (counted : Counted s drawn id) {payload : ℤ} (nonneg : 0 ≤ payload)
    (fits : s.received id + payload ≤ nextRespSize (drawn id)) {msgBytes : ℤ}
    (size : msgBytes = nextRespSize (drawn id)) :
    ∃ bytes, (match s.replyState id with
        | none => (⟨msgBytes, payload⟩ : MsgState)
        | some state => { state with bytesRecvd := state.bytesRecvd + payload }) = ⟨nextRespSize (drawn id), bytes⟩ ∧
      (s.received id < nextRespSize (drawn id) ∧ bytes = s.received id + payload ∨
        s.received id = nextRespSize (drawn id) ∧ payload = 0 ∧ bytes = 0) := by
  have pos := nextRespSize_pos (drawn id)
  rcases counted with ⟨none, bytes⟩ | ⟨bytes, state, here⟩
  · rw [none]
    refine ⟨payload, by rw [size], ?_⟩
    rcases bytes with zero | whole
    · exact Or.inl (by omega)
    · exact Or.inr (by omega)
  · rw [state]
    refine ⟨bytes + payload, rfl, ?_⟩
    rcases here with ⟨same, part⟩ | ⟨zero, whole⟩
    · exact Or.inl (by omega)
    · exact Or.inr (by omega)

theorem Answer.note {j : ℕ} {payload : ℤ} (answer : Answer s drawn j) (sent : s.Sent id) (nonneg : 0 ≤ payload)
    (part : s.received id + payload < nextRespSize (drawn id) ∨ payload = 0) (busy : t.busyAgent = s.busyAgent)
    (advanced : t.advanced = s.advanced)
    (received : t.received = Function.update s.received id (s.received id + payload)) :
    Answer t drawn j := by
  rcases part with part | zero
  · by_cases here : j = id
    · subst here
      have bytes : t.received j = s.received j + payload := by rw [received, Function.update_self]
      cases answer with
      | unsent none _ _ => exact absurd sent none
      | coming info here sent _ => exact .coming info (busy ▸ here) (advanced ▸ sent) (bytes.trans_lt part)
      | taken _ _ whole =>
        rw [whole] at part
        exact absurd part (not_lt.mpr (le_add_of_nonneg_right nonneg))
    · have bytes : t.received j = s.received j := by rw [received, Function.update_of_ne here]
      have same : t.Sent j ↔ s.Sent j := by unfold Sent; rw [advanced]
      cases answer with
      | unsent none idle nothing => exact .unsent (mt same.mp none) (busy ▸ idle) (bytes.trans nothing)
      | coming info here sent part => exact .coming info (busy ▸ here) (advanced ▸ sent) (bytes.trans_lt part)
      | taken done idle whole => exact .taken (same.mpr done) (busy ▸ idle) (bytes.trans whole)
  · refine answer.congr busy advanced ?_
    rw [received, zero, add_zero, Function.update_eq_self]

theorem Books.recvMsg (books : Books cl daddr s drawn agents []) (counted : ∀ id, Counted s drawn id) {payload : ℤ}
    (enabled : s.Enabled drawn (.recvMsg payload req)) :
    s.recvMsg cl payload req = .error (.assertion .pfabricRecvMsg "req_id_tup.ts_ > 0") ∨
      ∃ t, s.recvMsg cl payload req = .ok t ∧ Books cl daddr t drawn agents [] ∧ ∀ id, Counted t drawn id := by
  obtain ⟨sent, -, size, nonneg, fits⟩ := enabled
  rw [size] at fits
  unfold PfabricApplication.recvMsg
  by_cases warm : s.warmupPhase = 1
  · rw [if_pos warm]
    exact Or.inr ⟨s, rfl, books, counted⟩
  · rw [if_neg warm]
    by_cases time : 0 < req.ts
    · right
      obtain ⟨bytes, state, progress⟩ := (counted req.appLevelId).note nonneg fits size
      have passed : assert .pfabricRecvMsg "req_id_tup.ts_ > 0" (0 < req.ts) = .ok ⟨⟩ := Lib.require_true _ time
      rw [passed, Lib.ok_bind]
      dsimp only
      rw [state]
      dsimp only
      have pos := nextRespSize_pos (drawn req.appLevelId)
      have elsewhere : ∀ {t : PfabricApplication} {j : ℕ}, j ≠ req.appLevelId → t.replyState j = s.replyState j →
          t.received j = s.received j → Counted t drawn j := by
        intro t j _ states bytes
        unfold Counted
        rw [states, bytes]
        exact counted j
      -- the last bytes of a reply complete it and free its connection
      by_cases whole : bytes = nextRespSize (drawn req.appLevelId)
      · rw [if_pos whole]
        obtain ⟨part, sum⟩ : s.received req.appLevelId < nextRespSize (drawn req.appLevelId) ∧
            s.received req.appLevelId + payload = nextRespSize (drawn req.appLevelId) := by
          rcases progress with ⟨part, sum⟩ | ⟨-, -, zero⟩
          · exact ⟨part, sum.symm.trans whole⟩
          · omega
        cases books.answers req.appLevelId with
        | unsent none _ _ => exact absurd sent none
        | taken _ _ done => exact absurd done part.ne
        | coming info here _ _ =>
          obtain ⟨t, done, after, states, received⟩ := books.replyComplete here
            (Function.update s.replyState req.appLevelId (some ⟨nextRespSize (drawn req.appLevelId), bytes⟩))
          rw [sum]
          refine ⟨t, done, after, fun j => ?_⟩
          by_cases at_ : j = req.appLevelId
          · left
            rw [at_, states, received, Function.update_self, Function.update_self]
            exact ⟨rfl, Or.inr rfl⟩
          · refine elsewhere at_ ?_ ?_
            · rw [states, Function.update_of_ne at_, Function.update_of_ne at_]
            · rw [received, Function.update_of_ne at_]
      · have less : bytes < nextRespSize (drawn req.appLevelId) := by omega
        rw [if_neg whole, if_neg (not_lt.mpr less.le)]
        refine ⟨_, rfl, ⟨books.nonnull, books.conn.congr rfl rfl rfl, ⟨books.reqs.ids, books.reqs.order,
          books.reqs.requests,
          books.reqs.counter, books.reqs.waits⟩, fun j => (books.answers j).note sent nonneg (by omega) rfl rfl rfl⟩,
            fun j => ?_⟩
        by_cases at_ : j = req.appLevelId
        · right
          subst at_
          dsimp only
          rw [Function.update_self, Function.update_self]
          exact ⟨bytes, rfl, by omega⟩
        · exact elsewhere at_ (Function.update_of_ne at_ ..) (Function.update_of_ne at_ ..)
    · left
      have fails : assert .pfabricRecvMsg "req_id_tup.ts_ > 0" (0 < req.ts) =
          .error (.assertion .pfabricRecvMsg "req_id_tup.ts_ > 0") := if_neg time
      rw [fails]
      rfl

end Reply

section Attach

variable {agent : Agent}

theorem Requests.queue_nil (reqs : Requests cl s []) (quiet : s.arrived = []) (v : Addr) : s.queue v = [] := by
  have order := reqs.order v
  rw [quiet] at order
  have none := List.append_eq_nil_iff.mp order.symm
  exact (List.append_eq_nil_iff.mp (List.map_eq_nil_iff.mp none.2)).2

theorem Connections.attach (conn : Connections daddr s agents) (new : agent ∉ agents)
    (pools : t.freeAgentPool = Function.update s.freeAgentPool (daddr agent) (some (s.pool (daddr agent) ++ [agent])))
    (busy : t.busyAgent = s.busyAgent) (advanced : t.advanced = s.advanced) : Connections daddr t
    (agents ++ [agent]) := by
  have pool := fun v => pool_update (daddr agent) v _ t pools
  have old : ∀ {a}, a ∈ agents → a ∈ agents ++ [agent] := List.mem_append_left _
  refine ⟨fun v => ?_, fun v a inside => ?_, fun a inside => ?_, fun id info here => ?_, busy ▸ conn.one,
    fun a inside => ?_,
    fun x inside => ?_⟩
  · rw [pool]
    split
    · refine List.nodup_append.mpr ⟨conn.nodup _, List.nodup_singleton _, fun a inside b last same => ?_⟩
      rw [List.mem_singleton.mp last] at same
      exact new (same ▸ (conn.mem _ a inside).1)
    · exact conn.nodup v
  · rw [pool] at inside
    split at inside
    · next same =>
      rcases List.mem_append.mp inside with before | last
      · obtain ⟨attached, dst⟩ := conn.mem _ a before
        exact ⟨old attached, dst.trans same.symm⟩
      · rw [List.mem_singleton.mp last]
        exact ⟨List.mem_append_right _ (List.mem_singleton_self _), same.symm⟩
    · obtain ⟨attached, dst⟩ := conn.mem v a inside
      exact ⟨old attached, dst⟩
  · rw [pools, Function.update_apply]
    split
    · exact Option.some_ne_none _
    · next other =>
      rcases List.mem_append.mp inside with before | last
      · exact conn.known a before
      · exact absurd (congrArg daddr (List.mem_singleton.mp last)) other
  · rw [busy] at here
    obtain ⟨attached, dst, outside⟩ := conn.busy id info here
    refine ⟨old attached, dst, fun inside => ?_⟩
    rw [pool] at inside
    split at inside
    · next same =>
      rcases List.mem_append.mp inside with before | last
      · exact outside (same ▸ before)
      · exact new (List.mem_singleton.mp last ▸ attached)
    · exact outside inside
  · rw [busy]
    rcases List.mem_append.mp inside with before | last
    · refine (conn.place a before).imp_left fun free => ?_
      rw [pool]
      split
      · next same => exact List.mem_append_left _ (same ▸ free)
      · exact free
    · left
      rw [List.mem_singleton.mp last, pool, if_pos rfl]
      exact List.mem_append_right _ (List.mem_singleton_self _)
  · rw [advanced] at inside
    obtain ⟨attached, rest⟩ := conn.found x inside
    exact ⟨old attached, rest⟩

theorem Books.attach (books : Books cl daddr s drawn agents []) (quiet : s.arrived = []) (new : agent ∉ agents)
    (run : s.attachAgent daddr agent = .ok t) : Books cl daddr t drawn (agents ++ [agent]) [] ∧ t.arrived = [] ∧
      t.replyState = s.replyState ∧ t.received = s.received := by
  unfold attachAgent at run
  split at run
  · cases run
  · next nonnull =>
    rw [Lib.pure_eq_ok] at run
    subst run
    refine ⟨⟨fun a inside => ?_, books.conn.attach new rfl rfl rfl, ⟨books.reqs.ids, books.reqs.order,
      books.reqs.requests,
      books.reqs.counter, fun v waiting => absurd (books.reqs.queue_nil quiet v) waiting⟩,
      fun id => (books.answers id).congr rfl rfl rfl⟩, quiet, rfl, rfl⟩
    rcases List.mem_append.mp inside with before | last
    · exact books.nonnull a before
    · rw [List.mem_singleton.mp last]
      exact nonnull

theorem Books.attachAgents (books : Books cl daddr s drawn agents []) (quiet : s.arrived = []) {more : List Agent}
    (distinct : (agents ++ more).Nodup) (run : attachAgents daddr more s = .ok t) :
    Books cl daddr t drawn (agents ++ more) [] ∧ t.replyState = s.replyState ∧ t.received = s.received := by
  induction more generalizing s agents with
  | nil =>
    cases run
    rw [List.append_nil]
    exact ⟨books, rfl, rfl⟩
  | cons agent more ih =>
    rw [PfabricApplication.attachAgents, Lib.bind_eq_ok] at run
    obtain ⟨s', one, rest⟩ := run
    have new : agent ∉ agents := fun inside => (List.nodup_append.mp distinct).2.2 _ inside _ List.mem_cons_self rfl
    obtain ⟨after, still, states, received⟩ := books.attach quiet new one
    rw [List.append_cons] at distinct ⊢
    obtain ⟨done, states', received'⟩ := ih after still distinct rest
    exact ⟨done, states'.trans states, received'.trans received⟩

end Attach

def idle (warmupPhase : ℤ) : PfabricApplication := { warmupPhase }

theorem Books.idle (warmupPhase : ℤ) : Books cl daddr (idle warmupPhase) drawn [] [] where
  nonnull := by simp
  conn := by
    refine ⟨fun _ => List.nodup_nil, ?_, ?_, ?_, ?_, ?_, ?_⟩ <;> simp [PfabricApplication.idle, pool]
  reqs := ⟨rfl, fun _ => rfl, by simp [PfabricApplication.idle], rfl, fun _ waiting => absurd rfl waiting⟩
  answers _ := .unsent (by simp [Sent, PfabricApplication.idle]) rfl rfl

theorem Step.keeps {e : Event} (books : Books cl daddr s drawn agents [] ∧ ∀ id, Counted s drawn id)
    (step : Step cl drawn s e t) : Books cl daddr t drawn agents [] ∧ ∀ id, Counted t drawn id := by
  obtain ⟨books, counted⟩ := books
  obtain ⟨enabled, run⟩ := step
  have still : t.replyState = s.replyState → t.received = s.received → ∀ id, Counted t drawn id := by
    intro states received id
    unfold Counted
    rw [states, received]
    exact counted id
  cases e with
  | sendRequest srvr size now =>
    obtain ⟨after, states, received⟩ := books.sendRequest rfl rfl run
    exact ⟨after, still states received⟩
  | sendIncast target size now =>
    obtain ⟨after, states, received⟩ := books.sendRequest rfl rfl run
    exact ⟨after, still states received⟩
  | recvMsg payload req =>
    rcases books.recvMsg counted enabled with fails | ⟨t', done, after⟩
    · cases fails.symm.trans run
    · cases done.symm.trans run
      exact after
  | stopWarmup =>
    cases run
    exact ⟨⟨books.nonnull, books.conn.congr rfl rfl rfl, ⟨books.reqs.ids, books.reqs.order, books.reqs.requests,
      books.reqs.counter, books.reqs.waits⟩, fun id => (books.answers id).congr rfl rfl rfl⟩, still rfl rfl⟩

/-- After every run of a client: a connection is once in the pool of its server,
or busy with exactly one request to it, whose reply is not whole; requests wait
only at servers with no free connection, and are as many as the counter says;
they leave in the order of their arrival, each once, on a connection that was
idle; and of the checks on a reply only that of its time can fail. -/
theorem connection_pool {warmupPhase : ℤ} {first : PfabricApplication} (distinct : agents.Nodup)
    (attached : attachAgents daddr agents (idle warmupPhase) = .ok first) {trace : List (PfabricApplication × Event)}
    (run : Lib.Run (Step cl drawn) first trace s) :
    (∀ a ∈ agents,
      ((∀ srvr, (s.pool srvr).count a = if srvr = daddr a then 1 else 0) ∧
        ∀ id info, s.busyAgent id = some info → info.agent ≠ a) ∨
      ((∀ srvr, a ∉ s.pool srvr) ∧ ∃! id, ∃ info, s.busyAgent id = some info ∧ info.agent = a ∧
      info.srvrAddr = daddr a ∧
        (∃ x ∈ s.advanced, x.req.appLevelId = id ∧ x.srvrAddr = daddr a ∧ x.agent = a) ∧
        s.received id < nextRespSize (drawn id))) ∧
    (∀ srvr, s.queue srvr ≠ [] → s.pool srvr = []) ∧
    (s.queuedRequests = s.queuedReqs.total fun _ reqs => (reqs.length : ℤ)) ∧
    (∀ srvr, (toServer srvr s.arrived).map (stamp cl) = s.advancedTo srvr ++ (s.queue srvr).map (stamp cl)) ∧
    (s.arrived.map fun x => x.2.appLevelId).Nodup ∧
    (∀ x ∈ s.advanced, x.agent ∈ agents ∧ daddr x.agent = x.srvrAddr ∧ ∀ id info, x.busy id = some info →
    info.agent ≠ x.agent) ∧
    ∀ payload req, s.Enabled drawn (.recvMsg payload req) → ∀ stop, s.fire cl (.recvMsg payload req) = .error stop →
      stop = .assertion .pfabricRecvMsg "req_id_tup.ts_ > 0" := by
  have unattached : Books cl daddr (idle warmupPhase) drawn [] [] := .idle warmupPhase
  obtain ⟨start, states, received⟩ := unattached.attachAgents rfl (by rw [List.nil_append]; exact distinct) attached
  rw [List.nil_append] at start
  have counted : ∀ id, Counted first drawn id := fun id => Or.inl ⟨by rw [states]; rfl, Or.inl (by rw [received]; rfl)⟩
  obtain ⟨books, counts⟩ :=
    run.keeps (fun s => Books cl daddr s drawn agents [] ∧ ∀ id, Counted s drawn id) ⟨start, counted⟩
    fun _ _ _ books step => Step.keeps books step
  have ⟨_, conn, reqs, answers⟩ := books
  refine ⟨fun a inside => ?_, fun srvr waiting => ?_, reqs.counter, reqs.order, ?_, conn.found, ?_⟩
  · by_cases free : a ∈ s.pool (daddr a)
    · left
      refine ⟨fun srvr => ?_, fun id info busy same => ?_⟩
      · split
        · next same => rw [same]; exact List.count_eq_one_of_mem (conn.nodup _) free
        · next other =>
          exact List.count_eq_zero.mpr fun there => other (conn.mem srvr a there).2.symm
      · obtain ⟨-, dst, outside⟩ := conn.busy id info busy
        rw [same] at dst outside
        exact outside (dst ▸ free)
    · right
      obtain ⟨id, info, busy, same⟩ := (conn.place a inside).resolve_left free
      obtain ⟨-, dst, -⟩ := conn.busy id info busy
      rw [same] at dst
      refine ⟨fun srvr there => free ((conn.mem srvr a there).2 ▸ there), id, ⟨info, busy, same, dst.symm, ?_⟩, ?_⟩
      · cases answers id with
        | unsent _ none _ => cases none.symm.trans busy
        | taken _ none _ => cases none.symm.trans busy
        | coming info' busy' sent part =>
          cases busy.symm.trans busy'
          rw [same, ← dst] at sent
          exact ⟨sent, part⟩
      · rintro j ⟨info', busy', same', -⟩
        exact conn.one j id info' info busy' busy (same'.trans same.symm)
  · exact List.length_eq_zero_iff.mp (Nat.le_zero.mp (reqs.waits srvr waiting))
  · rw [reqs.ids]
    exact List.nodup_range
  · intro payload req enabled stop fails
    rcases books.recvMsg counts enabled with assertion | ⟨t, done, -⟩
    · cases fails.symm.trans assertion
      rfl
    · cases done.symm.trans fails

def move (cl : Client) (drawn : ℕ → ℤ) (s : PfabricApplication) (e : Event) : Option PfabricApplication :=
  if s.Enabled drawn e then (s.fire cl e).toOption else none

theorem move_step (s : PfabricApplication) (e : Event) (t : PfabricApplication) (moves : move cl drawn s e = some t) :
    Step cl drawn s e t := by
  unfold move at moves
  split at moves
  · next enabled => exact ⟨enabled, Lib.toOption_eq_some.mp moves⟩
  · cases moves

def halfReply (id : ℕ) : Event :=
  .recvMsg 2 { appLevelId := id, clThreadId := 100, srThreadId := 0, msgBytes := 4, isRequest := false, ts := 10 }

/-- Three requests to one server over two connections: the last waits for the first
reply, and takes its connection while half of the other reply is missing. -/
theorem connection_pool_three_requests : ∃ s : PfabricApplication,
    (s.busyAgent 2).map SrvrInfo.agent = some 12 ∧ s.received 1 = 2 ∧
    (((∀ srvr, (s.pool srvr).count 11 = if srvr = 7 then 1 else 0) ∧
        ∀ id info, s.busyAgent id = some info → info.agent ≠ 11) ∨
      ((∀ srvr, 11 ∉ s.pool srvr) ∧ ∃! id, ∃ info, s.busyAgent id = some info ∧ info.agent = 11 ∧ info.srvrAddr = 7 ∧
        (∃ x ∈ s.advanced, x.req.appLevelId = id ∧ x.srvrAddr = 7 ∧ x.agent = 11) ∧ s.received id <
        nextRespSize 4)) := by
  have three : ((attachAgents (fun _ => 7) [11, 12] (idle 0)).toOption.any fun first =>
      (Lib.Run.exec (move ⟨3, 100⟩ fun _ => 4) first [.sendRequest 7 100 10, .sendIncast 7 50 10, .sendRequest 7 200 10,
        halfReply 1, halfReply 0, halfReply 0]).any
          fun out => (out.2.busyAgent 2).map SrvrInfo.agent = some 12 ∧ out.2.received 1 = 2) = true := by
    decide +kernel
  obtain ⟨first, attached, three⟩ := (Option.any_eq_true _ _).mp three
  obtain ⟨⟨trace, s⟩, run, met⟩ := (Option.any_eq_true _ _).mp three
  obtain ⟨last, half⟩ := of_decide_eq_true met
  have places := (connection_pool (by decide) (Lib.toOption_eq_some.mp attached) (Lib.Run.of_exec move_step run)).1
  exact ⟨s, last, half, places 11 List.mem_cons_self⟩

end PfabricApplication

end PhantomPass.Baseline
