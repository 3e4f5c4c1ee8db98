import PhantomPass.Delivery.Counting

/-! What the RPC layer of a host has counted agrees with the packets that
arrived: every request and every reply is handed over once, when it is whole. -/

set_option autoImplicit false

namespace PhantomPass

open Lib (Store)

namespace ServerRequestState

def count (hdr : Hdr) (payload : ℕ) (st : ServerRequestState) : ServerRequestState :=
  { st with
    reqPktsExpected := if hdr.first then hdr.pktId + 1 else st.reqPktsExpected
    reqPktsReceived := st.reqPktsReceived + 1
    reqBytesReceived := st.reqBytesReceived + payload }

def Ready (st : ServerRequestState) : Prop := st.reqPktsExpected ≠ -1 ∧ st.reqPktsExpected = st.reqPktsReceived

instance (st : ServerRequestState) : Decidable st.Ready := inferInstanceAs (Decidable (_ ∧ _))

end ServerRequestState

namespace ClientRequestState

def count (hdr : Hdr) (payload : ℕ) (st : ClientRequestState) : ClientRequestState :=
  { st with
    replyPktsRecvd := st.replyPktsRecvd + 1
    replyPktsToRec := if hdr.first then hdr.pktId else st.replyPktsToRec
    replyBytesRecvd := st.replyBytesRecvd + payload }

def Ready (hdr : Hdr) (st : ClientRequestState) : Prop :=
  (hdr.first = true ∨ st.replyPktsToRec ≠ 0) ∧ st.replyPktsRecvd = st.replyPktsToRec

instance (hdr : Hdr) (st : ClientRequestState) : Decidable (st.Ready hdr) := inferInstanceAs (Decidable (_ ∧ _))

end ClientRequestState

namespace Rpc

variable {cfg : Config} {addr : Addr} {hdr : Hdr} {payload : ℕ} {rpc rpc' : Rpc}

def handRequest (size : ℕ) (tuple : RequestIdTuple) (rpc : Rpc) : Rpc :=
  { rpc with
    pendingTasks := Function.update rpc.pendingTasks tuple.srThreadId (rpc.pendingTasks tuple.srThreadId ++ [tuple])
    reqRecvd := rpc.reqRecvd ++ [(size, tuple)] }

def counted (hdr : Hdr) (payload : ℕ) (rpc : Rpc) : ServerRequestState :=
  ((rpc.pendingRequests.find hdr.uniqReqId).getD {}).count hdr payload

def afterRequest (hdr : Hdr) (payload : ℕ) (rpc : Rpc) : Rpc :=
  let st := rpc.counted hdr payload
  let rpc := { rpc with pendingRequests := rpc.pendingRequests.insert hdr.uniqReqId st }
  if st.Ready then rpc.handRequest st.reqBytesReceived hdr.requestIdTuple else rpc

def afterReply (hdr : Hdr) (payload : ℕ) (st : ClientRequestState) (rpc : Rpc) : Rpc :=
  let st := st.count hdr payload
  if st.Ready hdr then
    { rpc with
      reqSuccesses := rpc.reqSuccesses ++ [(st.replyBytesRecvd, hdr.requestIdTuple)]
      pendingReqs := rpc.pendingReqs.insert (hdr.clThreadId, hdr.reqId) { st with freed := true } }
  else { rpc with pendingReqs := rpc.pendingReqs.insert (hdr.clThreadId, hdr.reqId) st }

theorem sendToApplication_request (size : ℕ) (type : hdr.msgType = .request) :
    rpc.sendToApplication cfg addr hdr size = .ok rpc' ↔
      cfg.attached addr hdr.srThreadId = true ∧ 99 / 10 < hdr.msgCreationTime ∧
        rpc' = rpc.handRequest size hdr.requestIdTuple := by
  unfold sendToApplication
  simp only [type]
  by_cases attached : cfg.attached addr hdr.srThreadId = true
  · rw [if_pos attached]
    unfold reqRecv assert
    simp only [Lib.bind_eq_ok, Lib.require_eq_ok, Lib.pure_eq_ok, exists_and_left, exists_const]
    exact ⟨fun h => ⟨attached, h.1, h.2.symm⟩, fun h => ⟨h.2.1, h.2.2.symm⟩⟩
  · simp [attached]

/-- The end of handle_request_pkt. -/
def noteRequest (cfg : Config) (addr : Addr) (hdr : Hdr) (st : ServerRequestState) (rpc : Rpc) : Checked Rpc :=
  let rpc := { rpc with pendingRequests := rpc.pendingRequests.insert hdr.uniqReqId st }
  if st.Ready then rpc.sendToApplication cfg addr hdr st.reqBytesReceived else pure rpc

theorem handleRequestPkt_new (type : hdr.msgType = .request) (found : rpc.pendingRequests.find hdr.uniqReqId = none) :
    rpc.handleRequestPkt cfg addr hdr payload = rpc.noteRequest cfg addr hdr
    (ServerRequestState.count hdr payload {}) := by
  unfold handleRequestPkt noteRequest
  simp only [found]
  by_cases whole : hdr.first = true ∧ hdr.pktId + 1 = 1
  · have state : ServerRequestState.count hdr payload {} =
        { reqPktsExpected := 1, reqPktsReceived := 1, reqBytesReceived := payload } := by
      simp [ServerRequestState.count, whole.1, whole.2]
    have ready : (ServerRequestState.count hdr payload {}).Ready := by rw [state]; simp [ServerRequestState.Ready]
    rw [if_pos ready, state]
    simp only [whole.1, whole.2, if_true, and_self]
    unfold sendToApplication reqRecv
    simp only [type]
    split
    · simp only [bind_assoc, pure_bind]
    · rfl
  · have state : ServerRequestState.count hdr payload {} =
        ⟨if hdr.first then hdr.pktId + 1 else -1, 1, payload, false, false⟩ := by
      simp [ServerRequestState.count]
    simp only [if_neg whole, state, pure_bind, ServerRequestState.Ready]

theorem handleRequestPkt_old {st : ServerRequestState} (found : rpc.pendingRequests.find hdr.uniqReqId = some st) :
    rpc.handleRequestPkt cfg addr hdr payload = .ok rpc' ↔
      (hdr.first = true → st.reqPktsExpected = -1) ∧ rpc.noteRequest cfg addr hdr
      (st.count hdr payload) = .ok rpc' := by
  unfold handleRequestPkt assert
  simp only [found]
  cases first : hdr.first with
  | true =>
    simp only [if_true, Lib.bind_eq_ok, Lib.require_eq_ok, exists_and_left, exists_const, forall_const]
    refine and_congr_right fun _ => ?_
    unfold noteRequest ServerRequestState.count
    simp only [first, if_true]
    rfl
  | false =>
    unfold noteRequest ServerRequestState.count
    simp only [first, Bool.false_eq_true, if_false, false_implies, true_and]
    rfl

theorem noteRequest_iff {st : ServerRequestState} (type : hdr.msgType = .request) :
    rpc.noteRequest cfg addr hdr st = .ok rpc' ↔
      (st.Ready → cfg.attached addr hdr.srThreadId = true ∧ 99 / 10 < hdr.msgCreationTime) ∧
      rpc' = (let rpc := { rpc with pendingRequests := rpc.pendingRequests.insert hdr.uniqReqId st }
        if st.Ready then rpc.handRequest st.reqBytesReceived hdr.requestIdTuple else rpc) := by
  unfold noteRequest
  by_cases ready : st.Ready
  · simp only [ready, if_true, sendToApplication_request _ type, forall_const, and_assoc]
  · simp only [ready, if_false, Lib.pure_eq_ok, false_implies, true_and]
    exact eq_comm

theorem handleRequestPkt_iff (type : hdr.msgType = .request) :
    rpc.handleRequestPkt cfg addr hdr payload = .ok rpc' ↔
      (∀ st, rpc.pendingRequests.find hdr.uniqReqId = some st → hdr.first = true → st.reqPktsExpected = -1) ∧
      ((rpc.counted hdr payload).Ready → cfg.attached addr hdr.srThreadId = true ∧ 99 / 10 < hdr.msgCreationTime) ∧
      rpc' = rpc.afterRequest hdr payload := by
  unfold afterRequest counted
  cases found : rpc.pendingRequests.find hdr.uniqReqId with
  | none =>
    rw [handleRequestPkt_new type found, noteRequest_iff type]
    simp
  | some st =>
    rw [handleRequestPkt_old found, noteRequest_iff type]
    simp

theorem sendToApplication_reply (size : ℕ) (type : hdr.msgType = .reply) :
    rpc.sendToApplication cfg addr hdr size = .ok rpc' ↔
      cfg.attached addr hdr.clThreadId = true ∧
        rpc' = { rpc with reqSuccesses := rpc.reqSuccesses ++ [(size, hdr.requestIdTuple)] } := by
  unfold sendToApplication
  simp only [type]
  by_cases attached : cfg.attached addr hdr.clThreadId = true
  · rw [if_pos attached, Lib.pure_eq_ok]
    exact ⟨fun same => ⟨attached, same.symm⟩, fun h => h.2.symm⟩
  · simp [attached]

theorem handleReplyPkt_iff (type : hdr.msgType = .reply) :
    rpc.handleReplyPkt cfg addr hdr payload = .ok rpc' ↔
      ∃ st, rpc.pendingReqs.find (hdr.clThreadId, hdr.reqId) = some st ∧ st.freed = false ∧
        ((st.count hdr payload).Ready hdr → cfg.attached addr hdr.clThreadId = true) ∧
        rpc' = rpc.afterReply hdr payload st := by
  unfold handleReplyPkt afterReply
  dsimp only
  cases found : rpc.pendingReqs.find (hdr.clThreadId, hdr.reqId) with
  | none => simp
  | some st =>
    dsimp only
    cases freed : st.freed with
    | true => simp [freed]
    | false =>
      have ready : (!hdr.first && (if hdr.first = true then hdr.pktId else st.replyPktsToRec) == 0) = false ∧
          st.replyPktsRecvd + 1 = (if hdr.first = true then hdr.pktId else st.replyPktsToRec) ↔
          (st.count hdr payload).Ready hdr := by
        unfold ClientRequestState.Ready ClientRequestState.count
        cases hdr.first <;> simp
      simp only [Bool.false_eq_true, if_false, ready, Option.some.injEq, exists_eq_left', freed, true_and]
      by_cases whole : (st.count hdr payload).Ready hdr
      · simp only [whole, if_true, forall_const, Lib.bind_eq_ok, Lib.pure_eq_ok, sendToApplication_reply _ type]
        constructor
        · rintro ⟨_, ⟨attached, rfl⟩, rfl⟩; exact ⟨attached, rfl⟩
        · rintro ⟨attached, rfl⟩; exact ⟨_, ⟨attached, rfl⟩, rfl⟩
      · simp only [whole, if_false, Lib.pure_eq_ok, false_implies, true_and]
        unfold ClientRequestState.count
        rw [freed]
        exact eq_comm

theorem find_garbageCollectState (id : UniqReqId) : rpc.garbageCollectState.pendingRequests.find id =
    (rpc.pendingRequests.find id).bind fun st =>
      if st.replySent = true ∧ st.oldState = true then none
      else some (if st.replySent then { st with oldState := true } else st) := by
  have keys : id ∈ rpc.garbageCollectState.pendingRequests.keys ↔ id ∈ rpc.pendingRequests.keys ∧
      ¬ ((rpc.pendingRequests.get id).replySent = true ∧ (rpc.pendingRequests.get id).oldState = true) := by
    simp only [garbageCollectState, Store.filter, Store.map, List.mem_filter]
    cases (rpc.pendingRequests.get id).replySent <;> cases (rpc.pendingRequests.get id).oldState <;> simp
  unfold Store.find
  by_cases inside : id ∈ rpc.pendingRequests.keys
  · rw [if_pos inside, Option.bind_some]
    by_cases both : (rpc.pendingRequests.get id).replySent = true ∧ (rpc.pendingRequests.get id).oldState = true
    · rw [if_neg fun h => (keys.mp h).2 both, if_pos both]
    · rw [if_pos (keys.mpr ⟨inside, both⟩), if_neg both]
      rfl
  · rw [if_neg fun h => inside (keys.mp h).1, if_neg inside]
    rfl

end Rpc

/-- The server's state of a request; it is only dropped once the request was answered. -/
structure ServerOk (found : Option ServerRequestState) (pkts : List Packet) : Prop where
  none : found = none → pkts = [] ∨ Whole true pkts
  some : ∀ st, found = some st →
    Counted true (-1) st.reqPktsReceived st.reqBytesReceived st.reqPktsExpected pkts ∧
      (st.replySent = true → Whole true pkts)

theorem ServerOk.found {st : ServerRequestState} {pkts : List Packet}
    (counted : Counted true (-1) st.reqPktsReceived st.reqBytesReceived st.reqPktsExpected pkts)
    (sent : st.replySent = true → Whole true pkts) : ServerOk (.some st) pkts where
  none h := by cases h
  some st' h := by cases h; exact ⟨counted, sent⟩

structure ClientOk (found : Option ClientRequestState) (pkts : List Packet) : Prop where
  none : found = none → pkts = []
  some : ∀ st, found = some st →
    Counted false 0 st.replyPktsRecvd st.replyBytesRecvd st.replyPktsToRec pkts ∧
      (st.freed = true ↔ Whole false pkts)

theorem ClientOk.found {st : ClientRequestState} {pkts : List Packet}
    (counted : Counted false 0 st.replyPktsRecvd st.replyBytesRecvd st.replyPktsToRec pkts)
    (freed : st.freed = true ↔ Whole false pkts) : ClientOk (.some st) pkts where
  none h := by cases h
  some st' h := by cases h; exact ⟨counted, freed⟩

/-- The invariant of the RPC layer of a host, given all packets that arrived there. -/
structure RpcInv (addr : Addr) (rpc : Rpc) (log : List Packet) : Prop where
  server : ∀ id : UniqReqId, id.clAddr ≠ addr → ServerOk (rpc.pendingRequests.find id) (dataOf id log)
  recvd : ∀ id : UniqReqId, id.clAddr ≠ addr → HandedOnce true id (dataOf id log) rpc.reqRecvd
  foreign : ∀ e ∈ rpc.reqRecvd, e.2.clAddr ≠ addr
  client : ∀ id : UniqReqId, id.clAddr = addr →
    ClientOk (rpc.pendingReqs.find (id.clThreadId, id.reqId)) (dataOf id log)
  success : ∀ id : UniqReqId, id.clAddr = addr → HandedOnce false id (dataOf id log) rpc.reqSuccesses
  tasks : ∀ thread, ∀ tuple ∈ rpc.pendingTasks thread, tuple.srThreadId = thread ∧ (∃ n, (n, tuple) ∈ rpc.reqRecvd) ∧
    ∀ e ∈ rpc.respSent, e.2.uniqReqId ≠ tuple.uniqReqId
  tasks_nodup : ∀ thread, ((rpc.pendingTasks thread).map RequestIdTuple.uniqReqId).Nodup
  answered : ∀ e ∈ rpc.respSent, ∃ e' ∈ rpc.reqRecvd, e.2 = { e'.2 with ts := e.2.ts }
  issued : ∀ key ∈ rpc.pendingReqs.keys, ∃ last, rpc.thrdIdToReqId key.1 = some last ∧ key.2 ≤ last
  asked : ∀ e ∈ rpc.reqSent, e.2.clAddr = addr ∧ (e.2.clThreadId, e.2.reqId) ∈ rpc.pendingReqs.keys

namespace RpcInv

variable {cfg : Config} {addr : Addr} {rpc : Rpc} {log out : List Packet} {p : Packet} {m : OutboundMsgState}

theorem init (addr : Addr) : RpcInv addr {} [] where
  server _ _ := ⟨fun _ => Or.inl rfl, fun st found => by simp [Store.find] at found⟩
  recvd _ _ := .nil
  foreign := by simp
  client _ _ := ⟨fun _ => rfl, fun st found => by simp [Store.find] at found⟩
  success _ _ := .nil
  tasks := by simp
  tasks_nodup := by simp
  answered := by simp
  issued := by simp
  asked := by simp

theorem skip (inv : RpcInv addr rpc log) (notData : p.isData = false) : RpcInv addr rpc (log ++ [p]) := by
  have same : ∀ id, dataOf id (log ++ [p]) = dataOf id log := fun id => dataOf_append_other (Or.inl notData)
  exact { inv with
    server := fun id away => by rw [same]; exact inv.server id away
    recvd := fun id away => by rw [same]; exact inv.recvd id away
    client := fun id here => by rw [same]; exact inv.client id here
    success := fun id here => by rw [same]; exact inv.success id here }

theorem isRequest_of_type (fits : Fits cfg addr log p out m) (data : p.isData = true) :
    p.hdr.msgType = if m.isRequest then .request else .reply := (fits.dataHdr (fits.self_mem data)).msgType

theorem away_of_request (fits : Fits cfg addr log p out m) (request : m.isRequest = true) : m.reqId.clAddr ≠ addr := by
  rw [fits.ok.request request, ← fits.here]
  exact Ne.symm fits.ok.remote

theorem here_of_reply (fits : Fits cfg addr log p out m) (reply : m.isRequest = false) : m.reqId.clAddr = addr := by
  rw [fits.ok.reply reply, fits.here]

section Request

theorem server_counted (inv : RpcInv addr rpc log) (fits : Fits cfg addr log p out m) (data : p.isData = true)
    (request : m.isRequest = true) :
    let st := (rpc.pendingRequests.find m.reqId).getD {}
    Counted true (-1) st.reqPktsReceived st.reqBytesReceived st.reqPktsExpected (dataOf m.reqId log) ∧
      st.replySent = false := by
  have ok := inv.server m.reqId (away_of_request fits request)
  have part := fits.not_whole data
  rw [request] at part
  cases found : rpc.pendingRequests.find m.reqId with
  | none =>
    rw [(ok.none found).resolve_right part]
    exact ⟨.nil, rfl⟩
  | some st =>
    refine ⟨(ok.some st found).1, ?_⟩
    by_contra sent
    exact part ((ok.some st found).2 (by simpa using sent))

theorem counted_ok (inv : RpcInv addr rpc log) (fits : Fits cfg addr log p out m) (data : p.isData = true)
    (request : m.isRequest = true) :
    let st := rpc.counted p.hdr p.payload
    Counted true (-1) st.reqPktsReceived st.reqBytesReceived st.reqPktsExpected (dataOf m.reqId (log ++ [p])) ∧
      st.replySent = false ∧ (st.Ready ↔ Whole true (dataOf m.reqId (log ++ [p]))) := by
  obtain ⟨counted, unsent⟩ := inv.server_counted fits data request
  have name : p.hdr.uniqReqId = m.reqId := fits.name
  have after := counted.append p
  rw [← dataOf_append_self data fits.name] at after
  unfold Rpc.counted
  rw [name]
  refine ⟨after, unsent, ?_⟩
  exact after.whole_iff fits data request (by decide)

theorem request_first (inv : RpcInv addr rpc log) (fits : Fits cfg addr log p out m) (data : p.isData = true)
    (request : m.isRequest = true) :
    ∀ st, rpc.pendingRequests.find p.hdr.uniqReqId = some st → p.hdr.first = true → st.reqPktsExpected = -1 := by
  intro st found first
  have name : p.hdr.uniqReqId = m.reqId := fits.name
  obtain ⟨counted, -⟩ := inv.server_counted fits data request
  rw [name] at found
  rw [found] at counted
  exact counted.unset_of_first fits data first

theorem arrive_request (inv : RpcInv addr rpc log) (fits : Fits cfg addr log p out m) (data : p.isData = true)
    (request : m.isRequest = true) : RpcInv addr (rpc.afterRequest p.hdr p.payload) (log ++ [p]) := by
  obtain ⟨counted, unsent, ready⟩ := inv.counted_ok fits data request
  have name : p.hdr.uniqReqId = m.reqId := fits.name
  have away := away_of_request fits request
  have part := fits.not_whole data
  rw [request] at part
  have others : ∀ id, id ≠ m.reqId → dataOf id (log ++ [p]) = dataOf id log := fun id ne =>
    dataOf_append_other (Or.inr fun same => ne (same.symm.trans fits.name))
  have here : dataOf m.reqId (log ++ [p]) = dataOf m.reqId log ++ [p] := dataOf_append_self data fits.name
  have tupleId : p.hdr.requestIdTuple.uniqReqId = m.reqId := name
  have server : ∀ id : UniqReqId, id.clAddr ≠ addr →
      ServerOk ((rpc.pendingRequests.insert p.hdr.uniqReqId (rpc.counted p.hdr p.payload)).find id)
        (dataOf id (log ++ [p])) := by
    intro id far
    by_cases same : id = m.reqId
    · subst same
      rw [name, Store.find_insert_self]
      exact .found counted fun sent => by rw [unsent] at sent; cases sent
    · rw [others id same, name, Store.find_insert_of_ne _ _ same]
      exact inv.server id far
  have client : ∀ id : UniqReqId, id.clAddr = addr → dataOf id (log ++ [p]) = dataOf id log := fun id near =>
    others id fun same => away (same ▸ near)
  unfold Rpc.afterRequest
  dsimp only
  -- with its last packet the request goes up
  by_cases whole : (rpc.counted p.hdr p.payload).Ready
  · rw [if_pos whole, counted.bytes, here]
    have complete : Whole true (dataOf m.reqId log ++ [p]) := here ▸ ready.mp whole
    have fresh : ∀ e ∈ rpc.reqRecvd, e.2.uniqReqId ≠ m.reqId := fun e inside of =>
      part ((inv.recvd m.reqId away).whole_of_mem inside of)
    exact {
      server := server
      recvd := fun id far => by
        by_cases same : id = m.reqId
        · subst same
          rw [here]
          exact (inv.recvd m.reqId away).complete part complete tupleId
        · rw [others id same]
          exact (inv.recvd id far).append_other (by rw [tupleId]; exact Ne.symm same)
      foreign := fun e inside => by
        rcases List.mem_append.mp inside with old | new
        · exact inv.foreign e old
        · rw [List.mem_singleton.mp new]
          change p.hdr.uniqReqId.clAddr ≠ addr
          rw [name]; exact away
      client := fun id near => by rw [client id near]; exact inv.client id near
      success := fun id near => by rw [client id near]; exact inv.success id near
      tasks := fun thread tuple inside => by
        change tuple ∈ Function.update rpc.pendingTasks _ _ thread at inside
        by_cases at_thread : thread = p.hdr.requestIdTuple.srThreadId
        · subst at_thread
          rw [Function.update_self] at inside
          rcases List.mem_append.mp inside with old | new
          · obtain ⟨same, ⟨n, recvd⟩, unanswered⟩ := inv.tasks _ tuple old
            exact ⟨same, ⟨n, List.mem_append_left _ recvd⟩, unanswered⟩
          · rw [List.mem_singleton.mp new]
            refine ⟨rfl, ⟨_, List.mem_append_right _ (List.mem_singleton_self _)⟩, fun e sent of => ?_⟩
            obtain ⟨e', recvd, same⟩ := inv.answered e sent
            have : e.2.uniqReqId = e'.2.uniqReqId := by rw [same]; rfl
            exact fresh e' recvd (this.symm.trans (of.trans tupleId))
        · rw [Function.update_of_ne at_thread] at inside
          obtain ⟨same, ⟨n, recvd⟩, unanswered⟩ := inv.tasks _ tuple inside
          exact ⟨same, ⟨n, List.mem_append_left _ recvd⟩, unanswered⟩
      tasks_nodup := fun thread => by
        change ((Function.update rpc.pendingTasks _ _ thread).map RequestIdTuple.uniqReqId).Nodup
        by_cases at_thread : thread = p.hdr.requestIdTuple.srThreadId
        · subst at_thread
          rw [Function.update_self, List.map_append, List.nodup_append]
          refine ⟨inv.tasks_nodup _, List.nodup_singleton _, fun id old id' new same => ?_⟩
          obtain ⟨tuple, inside, rfl⟩ := List.mem_map.mp old
          obtain ⟨-, ⟨n, recvd⟩, -⟩ := inv.tasks _ tuple inside
          have last : id' = m.reqId := by
            rw [List.map_singleton, List.mem_singleton] at new; rw [new]; exact tupleId
          exact fresh _ recvd (same.trans last)
        · rw [Function.update_of_ne at_thread]; exact inv.tasks_nodup thread
      answered := fun e sent => by
        obtain ⟨e', recvd, same⟩ := inv.answered e sent
        exact ⟨e', List.mem_append_left _ recvd, same⟩
      issued := inv.issued
      asked := inv.asked }
  · rw [if_neg whole]
    have still : ¬ Whole true (dataOf m.reqId log ++ [p]) := here ▸ fun h => whole (ready.mpr h)
    exact { inv with
      server := server
      recvd := fun id far => by
        by_cases same : id = m.reqId
        · subst same
          rw [here]
          exact (inv.recvd m.reqId away).wait part still
        · rw [others id same]; exact inv.recvd id far
      client := fun id near => by rw [client id near]; exact inv.client id near
      success := fun id near => by rw [client id near]; exact inv.success id near }

end Request

section Reply

theorem key_inj {id : UniqReqId} (near : id.clAddr = addr) (here : m.reqId.clAddr = addr)
    (same : (id.clThreadId, id.reqId) = (m.reqId.clThreadId, m.reqId.reqId)) : id = m.reqId := by
  cases id; cases h : m.reqId
  simp_all

theorem client_counted (inv : RpcInv addr rpc log) (fits : Fits cfg addr log p out m) (data : p.isData = true)
    (reply : m.isRequest = false) {st : ClientRequestState}
    (found : rpc.pendingReqs.find (p.hdr.clThreadId, p.hdr.reqId) = some st) :
    Counted false 0 (st.count p.hdr p.payload).replyPktsRecvd (st.count p.hdr p.payload).replyBytesRecvd
        (st.count p.hdr p.payload).replyPktsToRec (dataOf m.reqId (log ++ [p])) ∧
      st.freed = false ∧ ((st.count p.hdr p.payload).Ready p.hdr ↔ Whole false (dataOf m.reqId (log ++ [p]))) := by
  have name : p.hdr.uniqReqId = m.reqId := fits.name
  have key : (p.hdr.clThreadId, p.hdr.reqId) = (m.reqId.clThreadId, m.reqId.reqId) := by rw [← name]; rfl
  rw [key] at found
  have ok := (inv.client m.reqId (here_of_reply fits reply)).some st found
  have part := fits.not_whole data
  rw [reply] at part
  have after := ok.1.append p
  rw [← dataOf_append_self data fits.name] at after
  have counted : Counted false 0 (st.count p.hdr p.payload).replyPktsRecvd (st.count p.hdr p.payload).replyBytesRecvd
      (st.count p.hdr p.payload).replyPktsToRec (dataOf m.reqId (log ++ [p])) := by
    simpa [ClientRequestState.count, extraPkts] using after
  refine ⟨counted, ?_, ?_⟩
  · by_contra freed
    exact part (ok.2.mp (by simpa using freed))
  · rw [← counted.whole_iff fits data reply (le_refl _)]
    have count := fits.count_eq data
    have pos := fits.length_le data
    unfold ClientRequestState.Ready
    constructor
    · rintro ⟨first | set, reached⟩
      · refine ⟨?_, reached.symm⟩
        simp only [ClientRequestState.count, first, if_true]
        simp only [extraPkts, reply, Bool.false_eq_true, if_false] at count
        omega
      · exact ⟨set, reached.symm⟩
    · rintro ⟨set, reached⟩
      exact ⟨Or.inr set, reached.symm⟩

theorem arrive_reply (inv : RpcInv addr rpc log) (fits : Fits cfg addr log p out m) (data : p.isData = true)
    (reply : m.isRequest = false) {st : ClientRequestState}
    (found : rpc.pendingReqs.find (p.hdr.clThreadId, p.hdr.reqId) = some st) :
    RpcInv addr (rpc.afterReply p.hdr p.payload st) (log ++ [p]) := by
  obtain ⟨counted, unfreed, ready⟩ := inv.client_counted fits data reply found
  have name : p.hdr.uniqReqId = m.reqId := fits.name
  have key : (p.hdr.clThreadId, p.hdr.reqId) = (m.reqId.clThreadId, m.reqId.reqId) := by rw [← name]; rfl
  have near := here_of_reply fits reply
  have part := fits.not_whole data
  rw [reply] at part
  have others : ∀ id, id ≠ m.reqId → dataOf id (log ++ [p]) = dataOf id log := fun id ne =>
    dataOf_append_other (Or.inr fun same => ne (same.symm.trans fits.name))
  have here : dataOf m.reqId (log ++ [p]) = dataOf m.reqId log ++ [p] := dataOf_append_self data fits.name
  have tupleId : p.hdr.requestIdTuple.uniqReqId = m.reqId := name
  have server : ∀ id : UniqReqId, id.clAddr ≠ addr → dataOf id (log ++ [p]) = dataOf id log := fun id away =>
    others id fun same => away (same ▸ near)
  have known : (p.hdr.clThreadId, p.hdr.reqId) ∈ rpc.pendingReqs.keys := (Store.find_eq_some.mp found).1
  have client : ∀ (after : ClientRequestState), Counted false 0 after.replyPktsRecvd after.replyBytesRecvd
      after.replyPktsToRec (dataOf m.reqId (log ++ [p])) →
      (after.freed = true ↔ Whole false (dataOf m.reqId (log ++ [p]))) → ∀ id : UniqReqId, id.clAddr = addr →
      ClientOk ((rpc.pendingReqs.insert (p.hdr.clThreadId, p.hdr.reqId) after).find (id.clThreadId, id.reqId))
        (dataOf id (log ++ [p])) := by
    intro after counted freed id close
    by_cases same : id = m.reqId
    · subst same
      rw [key, Store.find_insert_self]
      exact .found counted freed
    · have apart : (id.clThreadId, id.reqId) ≠ (p.hdr.clThreadId, p.hdr.reqId) := by
        rw [key]; exact fun h => same (key_inj close near h)
      rw [Store.find_insert_of_ne _ _ apart, others id same]
      exact inv.client id close
  have issued : ∀ after, ∀ k ∈ (rpc.pendingReqs.insert (p.hdr.clThreadId, p.hdr.reqId) after).keys,
      ∃ last, rpc.thrdIdToReqId k.1 = some last ∧ k.2 ≤ last := by
    intro after k inside
    rw [Store.keys_insert_of_mem _ _ known] at inside
    exact inv.issued k inside
  have asked : ∀ after, ∀ e ∈ rpc.reqSent, e.2.clAddr = addr ∧
      (e.2.clThreadId, e.2.reqId) ∈ (rpc.pendingReqs.insert (p.hdr.clThreadId, p.hdr.reqId) after).keys := by
    intro after e inside
    rw [Store.keys_insert_of_mem _ _ known]
    exact inv.asked e inside
  unfold Rpc.afterReply
  dsimp only
  by_cases whole : (st.count p.hdr p.payload).Ready p.hdr
  · rw [if_pos whole]
    have complete : Whole false (dataOf m.reqId log ++ [p]) := here ▸ ready.mp whole
    exact { inv with
      server := fun id away => by rw [server id away]; exact inv.server id away
      recvd := fun id away => by rw [server id away]; exact inv.recvd id away
      client := client _ counted ⟨fun _ => ready.mp whole, fun _ => rfl⟩
      success := fun id close => by
        by_cases same : id = m.reqId
        · subst same
          dsimp only
          rw [counted.bytes, here]
          exact (inv.success m.reqId near).complete part complete tupleId
        · rw [others id same]
          exact (inv.success id close).append_other (by rw [tupleId]; exact Ne.symm same)
      issued := issued _
      asked := asked _ }
  · rw [if_neg whole]
    have still : ¬ Whole false (dataOf m.reqId log ++ [p]) := here ▸ fun h => whole (ready.mpr h)
    exact { inv with
      server := fun id away => by rw [server id away]; exact inv.server id away
      recvd := fun id away => by rw [server id away]; exact inv.recvd id away
      client := by
        refine client _ counted ⟨fun freed => ?_, fun h => absurd (ready.mpr h) whole⟩
        have same : (st.count p.hdr p.payload).freed = st.freed := rfl
        rw [same, unfreed] at freed
        cases freed
      success := fun id close => by
        by_cases same : id = m.reqId
        · subst same
          rw [here]
          exact (inv.success m.reqId near).wait part still
        · rw [others id same]; exact inv.success id close
      issued := issued _
      asked := asked _ }

end Reply

/-- The number that send_req gives to the next request of a thread. -/
def nextReqId (rpc : Rpc) (thread : ℤ) : ℕ := (rpc.thrdIdToReqId thread).elim 0 (· + 1)

theorem nextReqId_fresh (inv : RpcInv addr rpc log) (thread : ℤ) :
    (thread, nextReqId rpc thread) ∉ rpc.pendingReqs.keys := by
  intro inside
  obtain ⟨last, counter, le⟩ := inv.issued _ inside
  unfold nextReqId at le
  rw [counter] at le
  simp at le

theorem ask (inv : RpcInv addr rpc log) {payload reqBytesLeft : ℕ} {msgCreationTime : Time} {tuple : RequestIdTuple}
    (own : tuple.clAddr = addr) : RpcInv addr { rpc with
      thrdIdToReqId := Function.update rpc.thrdIdToReqId tuple.clThreadId (some (nextReqId rpc tuple.clThreadId))
      pendingReqs := rpc.pendingReqs.insert (tuple.clThreadId, nextReqId rpc tuple.clThreadId)
        { reqBytesLeft, msgCreationTime }
      reqSent := rpc.reqSent ++ [(payload, { tuple with reqId := nextReqId rpc tuple.clThreadId })] } log := by
  have fresh := inv.nextReqId_fresh tuple.clThreadId
  exact { inv with
    client := fun id near => by
      by_cases same : (id.clThreadId, id.reqId) = (tuple.clThreadId, nextReqId rpc tuple.clThreadId)
      · rw [same]
        have none := (inv.client id near).none (by rw [same]; exact Store.find_eq_none.mpr fresh)
        rw [Store.find_insert_self, none]
        exact .found .nil (by simp [Whole])
      · rw [Store.find_insert_of_ne _ _ same]
        exact inv.client id near
    issued := fun key inside => by
      change ∃ last, Function.update rpc.thrdIdToReqId _ _ key.1 = some last ∧ key.2 ≤ last
      rcases (Store.mem_keys_insert ..).mp inside with old | rfl
      · obtain ⟨last, counter, le⟩ := inv.issued key old
        by_cases same : key.1 = tuple.clThreadId
        · rw [same, Function.update_self]
          refine ⟨_, rfl, ?_⟩
          unfold nextReqId
          rw [same] at counter
          rw [counter]
          exact Nat.le_succ_of_le le
        · rw [Function.update_of_ne same]; exact ⟨last, counter, le⟩
      · rw [Function.update_self]; exact ⟨_, rfl, le_refl _⟩
    asked := fun e inside => by
      rcases List.mem_append.mp inside with old | new
      · exact ⟨(inv.asked e old).1, (Store.mem_keys_insert ..).mpr (Or.inl (inv.asked e old).2)⟩
      · rw [List.mem_singleton.mp new]
        exact ⟨own, (Store.mem_keys_insert ..).mpr (Or.inr rfl)⟩ }

theorem answer (inv : RpcInv addr rpc log) {thread : ℤ} {tuple : RequestIdTuple} {rest : List RequestIdTuple}
    (tasks : rpc.pendingTasks thread = tuple :: rest) {st : ServerRequestState}
    (found : rpc.pendingRequests.find tuple.uniqReqId = some st) {payload : ℕ} {now : Time} :
    RpcInv addr { rpc with
      pendingRequests := rpc.pendingRequests.insert tuple.uniqReqId { st with replySent := true }
      respSent := rpc.respSent ++ [(payload, { tuple with ts := now })]
      pendingTasks := Function.update rpc.pendingTasks thread rest } log := by
  have task : tuple ∈ rpc.pendingTasks thread := by rw [tasks]; exact List.mem_cons_self
  obtain ⟨at_thread, ⟨n, recvd⟩, unanswered⟩ := inv.tasks thread tuple task
  have away : tuple.uniqReqId.clAddr ≠ addr := inv.foreign _ recvd
  have whole := (inv.recvd tuple.uniqReqId away).whole_of_mem recvd rfl
  have nodup := inv.tasks_nodup thread
  rw [tasks, List.map_cons, List.nodup_cons] at nodup
  have still : ∀ t, ∀ task ∈ Function.update rpc.pendingTasks thread rest t,
      task ∈ rpc.pendingTasks t ∧ task.uniqReqId ≠ tuple.uniqReqId := by
    intro t task inside
    by_cases same : t = thread
    · subst same
      rw [Function.update_self] at inside
      exact ⟨by rw [tasks]; exact List.mem_cons_of_mem _ inside,
        fun of => nodup.1 (of ▸ List.mem_map_of_mem inside)⟩
    · rw [Function.update_of_ne same] at inside
      refine ⟨inside, fun of => ?_⟩
      -- the same request waits at one thread only
      obtain ⟨there, ⟨n', recvd'⟩, -⟩ := inv.tasks t task inside
      have one := (inv.recvd tuple.uniqReqId away).unique recvd' recvd of rfl
      simp only [Prod.mk.injEq] at one
      exact same (there.symm.trans (one.2 ▸ at_thread))
  exact { inv with
    server := fun id far => by
      by_cases same : id = tuple.uniqReqId
      · subst same
        rw [Store.find_insert_self]
        exact .found ((inv.server _ far).some st found).1 fun _ => whole
      · rw [Store.find_insert_of_ne _ _ same]
        exact inv.server id far
    tasks := fun t task inside => by
      obtain ⟨inside, apart⟩ := still t task inside
      obtain ⟨there, entry, silent⟩ := inv.tasks t task inside
      refine ⟨there, entry, fun e sent => ?_⟩
      rcases List.mem_append.mp sent with old | new
      · exact silent e old
      · rw [List.mem_singleton.mp new]; exact Ne.symm apart
    tasks_nodup := fun t => by
      change ((Function.update rpc.pendingTasks thread rest t).map RequestIdTuple.uniqReqId).Nodup
      by_cases same : t = thread
      · subst same; rw [Function.update_self]; exact nodup.2
      · rw [Function.update_of_ne same]; exact inv.tasks_nodup t
    answered := fun e sent => by
      rcases List.mem_append.mp sent with old | new
      · exact inv.answered e old
      · rw [List.mem_singleton.mp new]; exact ⟨_, recvd, rfl⟩ }

theorem collect (inv : RpcInv addr rpc log) : RpcInv addr rpc.garbageCollectState log := by
  refine { inv with server := fun id far => ?_ }
  have ok := inv.server id far
  rw [Rpc.find_garbageCollectState]
  cases found : rpc.pendingRequests.find id with
  | none =>
    rw [found] at ok
    exact ok
  | some st =>
    obtain ⟨counted, whole⟩ := ok.some st found
    rw [Option.bind_some]
    split
    · next both => exact ⟨fun _ => Or.inr (whole both.1), fun st' h => by cases h⟩
    · split
      · exact .found counted whole
      · exact .found counted whole

end RpcInv

end PhantomPass
