import PhantomPass.Delivery.RpcInvariant
import PhantomPass.Hybrid.Host
import PhantomPass.Refinement.Polling

/-! Messages that the application hands down: whatever way a request or a
response takes, it enters whole, behind the messages that wait. -/

set_option autoImplicit false

namespace PhantomPass

open Lib (RoundRobin Store)

def pktCount (payload : ℕ) : ℕ := payload / maxR2p2Payload + if 0 < payload % maxR2p2Payload then 1 else 0

namespace Sender

def accept (m : OutboundMsgState) (s : Sender) : Sender :=
  { s.findOrCreate m.remoteAddr with
    outbound := s.outbound.insert m.reqId m
    outboundInactive := s.outboundInactive.append m.reqId }

theorem sendingRequest_accept {hdr hdr0 : Hdr} {payload payload0 total : ℕ} {daddr : Addr} {single : Bool}
    {s s' : Sender} (name : hdr.uniqReqId = hdr0.uniqReqId) (kind : hdr.isSinglePacketMsg = some single)
    (adds : total = payload0 + if payload0 = 14 ∧ (!single && hdr.msgType == .request) = true then payload else 0)
    (run : (s.prepMsgSend hdr0 payload0 daddr).sendingRequest hdr payload = .ok s') :
    s' = s.accept {
      reqId := hdr0.uniqReqId, remoteAddr := daddr
      r2p2Hdr := { hdr0 with pktId := ((pktCount total - 1 : ℕ) : ℤ) }
      unsentBytes := total, totalBytes := total, isRequest := true, msgCreationTime := hdr0.msgCreationTime } := by
  have found : (s.prepMsgSend hdr0 payload0 daddr).findInactive hdr.uniqReqId = some {
      reqId := hdr0.uniqReqId, remoteAddr := daddr, r2p2Hdr := hdr0, unsentBytes := payload0, totalBytes := payload0
      isRequest := true, msgCreationTime := hdr0.msgCreationTime } := by
    rw [name]
    unfold findInactive prepMsgSend msg
    dsimp only
    rw [Store.get_insert_self, if_pos]
    exact List.mem_append_right _ (List.mem_singleton_self _)
  unfold sendingRequest assert at run
  dsimp only at run
  rw [found, kind] at run
  dsimp only at run
  rw [← adds] at run
  simp only [Lib.bind_eq_ok, Lib.require_eq_ok, exists_and_left, exists_const] at run
  obtain ⟨-, run⟩ := run
  have moved : s' = (s.prepMsgSend hdr0 payload0 daddr).modifyMsg hdr0.uniqReqId fun m => { m with
      unsentBytes := m.unsentBytes + if payload0 = 14 ∧ (!single && hdr.msgType == .request) = true then payload else 0
      totalBytes := total
      r2p2Hdr := { m.r2p2Hdr with pktId := ((pktCount total - 1 : ℕ) : ℤ) } } := by
    rw [← name]
    split at run
    · simp only [Lib.bind_eq_ok, Lib.require_eq_ok, Lib.pure_eq_ok, exists_and_left, exists_const] at run
      exact run.2.symm
    · rw [Lib.pure_eq_ok] at run
      exact run.symm
  rw [moved]
  unfold prepMsgSend modifyMsg accept
  dsimp only
  rw [Store.modify_insert, ← adds, outbound_findOrCreate, outboundInactive_findOrCreate]

theorem sendingReply_accept {hdr : Hdr} {payload : ℕ} {daddr : Addr} {s s' : Sender}
    (run : s.sendingReply hdr payload daddr = .ok s') :
    daddr ∈ s.remotes.keys ∧ s' = s.accept {
      reqId := hdr.uniqReqId, remoteAddr := daddr, r2p2Hdr := hdr, totalBytes := payload, unsentBytes := payload
      isRequest := false, msgCreationTime := hdr.msgCreationTime } := by
  unfold sendingReply assert at run
  dsimp only at run
  split at run
  · cases run
  · next known =>
    simp only [Lib.bind_eq_ok, Lib.require_eq_ok, Lib.pure_eq_ok, exists_and_left, exists_const] at run
    obtain ⟨-, rfl⟩ := run
    have known := not_not.mp known
    refine ⟨known, ?_⟩
    unfold accept
    dsimp only
    rw [findOrCreate_of_mem known]

end Sender

namespace Rpc

def asked (payload : ℕ) (tuple : RequestIdTuple) (rpc : Rpc) : Rpc :=
  let reqId := RpcInv.nextReqId rpc tuple.clThreadId
  { rpc with
    thrdIdToReqId := Function.update rpc.thrdIdToReqId tuple.clThreadId (some reqId)
    pendingReqs := rpc.pendingReqs.insert (tuple.clThreadId, reqId) {
      reqBytesLeft := if Host.singlePktRpc payload then 0 else payload - req0MsgSize, msgCreationTime := tuple.ts }
    reqSent := rpc.reqSent ++ [(payload, { tuple with reqId })] }

def answered (payload : ℕ) (tuple : RequestIdTuple) (now : Time) (st : ServerRequestState) (rpc : Rpc) : Rpc :=
  { rpc with
    pendingRequests := rpc.pendingRequests.insert tuple.uniqReqId { st with replySent := true }
    respSent := rpc.respSent ++ [(payload, { tuple with ts := now })] }

end Rpc

/-- The header that send_req gives to a request. -/
def requestHdr (reqId payload : ℕ) (tuple : RequestIdTuple) : Hdr where
  msgType := .request
  first := true
  last := Host.singlePktRpc payload
  reqId := reqId
  pktId := Host.reqNumPkts payload
  clAddr := tuple.clAddr
  clThreadId := tuple.clThreadId
  appLevelId := tuple.appLevelId
  srAddr := tuple.srAddr
  srThreadId := tuple.srThreadId
  msgCreationTime := tuple.ts

def requestMsg (reqId payload : ℕ) (tuple : RequestIdTuple) : OutboundMsgState where
  reqId := (requestHdr reqId payload tuple).uniqReqId
  remoteAddr := tuple.srAddr
  r2p2Hdr := { requestHdr reqId payload tuple with pktId := ((pktCount payload - 1 : ℕ) : ℤ) }
  unsentBytes := payload
  totalBytes := payload
  isRequest := true
  msgCreationTime := tuple.ts

def replyMsg (payload : ℕ) (tuple : RequestIdTuple) (now : Time) : OutboundMsgState where
  reqId := tuple.uniqReqId
  remoteAddr := tuple.clAddr
  r2p2Hdr := {
    msgType := .reply, first := true, reqId := tuple.reqId, pktId := (pktCount payload : ℕ)
    clAddr := tuple.clAddr, srAddr := tuple.srAddr, clThreadId := tuple.clThreadId, srThreadId := tuple.srThreadId
    appLevelId := tuple.appLevelId, msgCreationTime := now }
  unsentBytes := payload
  totalBytes := payload
  isRequest := false
  msgCreationTime := now

namespace Host

variable {env : Env} {h h' : Host} {now : Time} {payload : ℕ} {tuple : RequestIdTuple}

theorem startPolling_started (run : h.startPolling env now = .ok h') : h'.pollStarted = true := by
  unfold startPolling at run
  split at run
  · next started => rw [Lib.pure_eq_ok] at run; subst run; exact started
  · simp only [Lib.bind_eq_ok, Lib.pure_eq_ok] at run
    obtain ⟨h1, -, rfl⟩ := run
    rfl

theorem startPolling_of_started (started : h.pollStarted = true) : h.startPolling env now = .ok h := if_pos started

theorem reqNumPkts_of_single (single : singlePktRpc payload = true) : reqNumPkts payload = 0 := by
  unfold singlePktRpc at single
  unfold reqNumPkts
  rw [beq_iff_eq] at single
  exact if_pos single

theorem reqNumPkts_of_multi (pos : 1 ≤ payload) (multi : singlePktRpc payload = false) :
    1 ≤ reqNumPkts payload ∧ req0MsgSize ≤ payload := by
  unfold singlePktRpc at multi
  unfold reqNumPkts
  rw [beq_eq_false_iff_ne] at multi
  rw [if_neg multi]
  unfold maxR2p2Payload at multi ⊢
  unfold req0MsgSize
  dsimp only
  have long : 1458 < payload := by split at multi <;> omega
  refine ⟨?_, by omega⟩
  split <;> omega

theorem sendToTransportDown_request {hdr : Hdr} {daddr : Addr} {single : Bool} (type : hdr.msgType = .request)
    (kind : hdr.isSinglePacketMsg = some single) (run : h.sendToTransportDown env now hdr payload daddr = .ok h') :
    ∃ h1 snd, h.startPolling env now = .ok h1 ∧
      (if single then h1.snd.prepMsgSend hdr payload daddr else h1.snd).sendingRequest hdr payload = .ok snd ∧
      h' = { h1 with snd } := by
  unfold sendToTransportDown at run
  simp only [Lib.bind_eq_ok] at run
  obtain ⟨h1, started, run⟩ := run
  simp only [type, kind] at run
  split at run
  · cases run
  · simp only [Lib.bind_eq_ok, Lib.pure_eq_ok] at run
    obtain ⟨snd, sent, rfl⟩ := run
    exact ⟨h1, snd, started, sent, rfl⟩

theorem sendToTransportDown_reply {hdr : Hdr} {daddr : Addr} (type : hdr.msgType = .reply)
    (run : h.sendToTransportDown env now hdr payload daddr = .ok h') :
    ∃ h1 snd, h.startPolling env now = .ok h1 ∧ h1.snd.sendingReply hdr payload daddr = .ok snd ∧
      h' = { h1 with snd } := by
  unfold sendToTransportDown at run
  simp only [Lib.bind_eq_ok] at run
  obtain ⟨h1, started, run⟩ := run
  have kind : ∃ single, hdr.isSinglePacketMsg = some single := by
    unfold Hdr.isSinglePacketMsg; rw [type]; exact ⟨_, rfl⟩
  obtain ⟨single, kind⟩ := kind
  simp only [type, kind, Lib.bind_eq_ok, Lib.pure_eq_ok] at run
  obtain ⟨snd, sent, rfl⟩ := run
  exact ⟨h1, snd, started, sent, rfl⟩

theorem sendToTransport_single {hdr : Hdr} {daddr : Addr} (type : hdr.msgType = .request) (first : hdr.first = true)
    (single : hdr.pktId = 0) (run : h.sendToTransport env now hdr payload daddr = .ok h') :
    ∃ h1 snd, h.startPolling env now = .ok h1 ∧
      (h1.snd.prepMsgSend hdr payload daddr).sendingRequest hdr payload = .ok snd ∧ h' = { h1 with snd } := by
  have kind : hdr.isReq0OfMultipkt = false := by
    unfold Hdr.isReq0OfMultipkt; rw [single]; simp
  have one : hdr.isSinglePacketMsg = some true := by
    unfold Hdr.isSinglePacketMsg; rw [type, first, single]; rfl
  unfold sendToTransport at run
  rw [kind, if_neg Bool.false_ne_true] at run
  exact sendToTransportDown_request type one run

def restHdr (hdr : Hdr) (st : ClientRequestState) : Hdr :=
  { hdr with pktId := 1, first := false, last := false, msgCreationTime := st.msgCreationTime }

theorem sendToTransport_multi {hdr : Hdr} {daddr : Addr} (type : hdr.msgType = .request) (first : hdr.first = true)
    (multi : 1 ≤ hdr.pktId) (run : h.sendToTransport env now hdr payload daddr = .ok h') :
    ∃ h1 st snd, h.startPolling env now = .ok h1 ∧ h1.rpc.pendingReqs.find (hdr.clThreadId, hdr.reqId) = some st ∧
      (h1.snd.prepMsgSend hdr payload daddr).sendingRequest (restHdr hdr st) st.reqBytesLeft = .ok snd ∧
      h' = { h1 with snd } := by
  have kind : hdr.isReq0OfMultipkt = true := by
    unfold Hdr.isReq0OfMultipkt Hdr.isReq0; rw [type, first]; simp [multi]
  unfold sendToTransport at run
  rw [kind, if_pos rfl] at run
  simp only [Lib.bind_eq_ok] at run
  obtain ⟨h1, started, run⟩ := run
  unfold shortingReq0 handleReqRdy at run
  simp only [Lib.bind_eq_ok] at run
  obtain ⟨-, -, -, -, run⟩ := run
  split at run
  · cases run
  · next st found =>
    have rest : ({ hdr with msgType := .request, pktId := 1, first := false, last := false
                            msgCreationTime := st.msgCreationTime } : Hdr) = restHdr hdr st := by
      unfold restHdr
      rw [type]
    rw [rest] at run
    have none : (restHdr hdr st).isSinglePacketMsg = some false := by
      unfold Hdr.isSinglePacketMsg restHdr; rw [type]; rfl
    obtain ⟨h2, snd, again, sent, rfl⟩ := sendToTransportDown_request (by unfold restHdr; exact type) none run
    have still : ({ h1 with snd := h1.snd.prepMsgSend hdr payload daddr } : Host).pollStarted = true :=
      show h1.pollStarted = true from startPolling_started started
    rw [startPolling_of_started still, Except.ok.injEq] at again
    subst again
    exact ⟨h1, st, snd, started, found, sent, rfl⟩

theorem sendReq_cases (run : h.sendReq env now payload tuple = .ok h') :
    1 ≤ payload ∧ ∃ h1 snd, { h with rpc := h.rpc.asked payload tuple }.startPolling env now = .ok h1 ∧
      h' = { h1 with snd } ∧ (h1.rpc = h.rpc.asked payload tuple →
        snd = h1.snd.accept (requestMsg (RpcInv.nextReqId h.rpc tuple.clThreadId) payload tuple)) := by
  unfold sendReq at run
  split at run
  · cases run
  · next pos =>
    have pos : 1 ≤ payload := by omega
    refine ⟨pos, ?_⟩
    change ({ h with rpc := h.rpc.asked payload tuple } : Host).sendToTransport env now
      (requestHdr (RpcInv.nextReqId h.rpc tuple.clThreadId) payload tuple)
      (if singlePktRpc payload then payload else req0MsgSize) tuple.srAddr = .ok h' at run
    set hdr := requestHdr (RpcInv.nextReqId h.rpc tuple.clThreadId) payload tuple
    cases single : singlePktRpc payload with
    | true =>
      rw [single, if_pos rfl] at run
      have zero : hdr.pktId = 0 := by
        change (reqNumPkts payload : ℤ) = 0
        rw [reqNumPkts_of_single single]; rfl
      obtain ⟨h1, snd, started, sent, rfl⟩ := sendToTransport_single rfl rfl zero run
      refine ⟨h1, snd, started, rfl, fun _ => ?_⟩
      have one : hdr.isSinglePacketMsg = some true := by
        unfold Hdr.isSinglePacketMsg; rw [zero]; rfl
      exact Sender.sendingRequest_accept rfl one (by simp) sent
    | false =>
      rw [single, if_neg Bool.false_ne_true] at run
      obtain ⟨some_left, long⟩ := reqNumPkts_of_multi pos single
      have multi : 1 ≤ hdr.pktId := by
        change (1 : ℤ) ≤ (reqNumPkts payload : ℤ)
        exact_mod_cast some_left
      obtain ⟨h1, st, snd, started, found, sent, rfl⟩ := sendToTransport_multi rfl rfl multi run
      refine ⟨h1, snd, started, rfl, fun same => ?_⟩
      have left : st = { reqBytesLeft := payload - req0MsgSize, msgCreationTime := tuple.ts } := by
        rw [same] at found
        have inserted := Store.find_insert_self h.rpc.pendingReqs (tuple.clThreadId,
          RpcInv.nextReqId h.rpc tuple.clThreadId)
          ({ reqBytesLeft := if singlePktRpc payload then 0 else payload - req0MsgSize, msgCreationTime := tuple.ts } :
            ClientRequestState)
        rw [single, if_neg Bool.false_ne_true] at inserted
        unfold Rpc.asked at found
        rw [single] at found
        exact Option.some.inj (found.symm.trans inserted)
      have rest : (restHdr hdr st).isSinglePacketMsg = some false := rfl
      have name : (restHdr hdr st).uniqReqId = hdr.uniqReqId := rfl
      refine Sender.sendingRequest_accept name rest ?_ sent
      rw [left]
      change payload = req0MsgSize + (payload - req0MsgSize)
      omega

theorem appSendResponse_cases {thread : ℤ} (run : h.appSendResponse env now thread payload = .ok h') :
    ∃ tuple rest st h1, h.rpc.pendingTasks thread = tuple :: rest ∧ h.rpc.pendingRequests.find tuple.uniqReqId =
    some st ∧
      { h with rpc := h.rpc.answered payload tuple now st }.startPolling env now = .ok h1 ∧
      tuple.clAddr ∈ h1.snd.remotes.keys ∧
      h' = { h1 with
        snd := h1.snd.accept (replyMsg payload tuple now)
        rpc := { h1.rpc with pendingTasks := Function.update h1.rpc.pendingTasks thread rest } } := by
  unfold appSendResponse at run
  split at run
  · cases run
  · next tuple rest tasks =>
    simp only [Lib.bind_eq_ok, Lib.pure_eq_ok] at run
    obtain ⟨h2, sent, rfl⟩ := run
    unfold sendResponse at sent
    dsimp only at sent
    split at sent
    · cases sent
    · next st found =>
      unfold sendToTransport at sent
      rw [if_neg (by simp [Hdr.isReq0OfMultipkt, Hdr.isReq0])] at sent
      obtain ⟨h1, snd, started, replied, rfl⟩ := sendToTransportDown_reply rfl sent
      obtain ⟨known, rfl⟩ := Sender.sendingReply_accept replied
      exact ⟨tuple, rest, st, h1, tasks, found, started, known, rfl⟩

section Admit

variable {cfg : Config} {m : OutboundMsgState}

theorem msg_accept (s : Sender) (m : OutboundMsgState) (id : UniqReqId) :
    (s.accept m).msg id = if id = m.reqId then m else s.msg id := Store.get_insert ..

theorem mem_outbound_accept (s : Sender) (m : OutboundMsgState) (id : UniqReqId) :
    id ∈ (s.accept m).outbound.keys ↔ id ∈ s.outbound.keys ∨ id = m.reqId := Store.mem_keys_insert ..

theorem Queues.accept {s : Sender} (queues : s.Queues) (idle : m.active = false) (fresh : m.reqId ∉ s.outbound.keys) :
    (s.accept m).Queues := by
  have met := queues.findOrCreate m.remoteAddr
  have apart : ∀ id ∈ s.outbound.keys, id ≠ m.reqId := fun id inside same => fresh (same ▸ inside)
  constructor
  case inactive_nodup =>
    refine List.nodup_append.mpr ⟨queues.inactive_nodup, List.nodup_singleton _, fun a old b new same => ?_⟩
    exact apart a ((queues.inactive a).mp old).1 (same.trans (List.mem_singleton.mp new))
  case inactive =>
    intro id
    rw [mem_outbound_accept, msg_accept]
    change id ∈ s.outboundInactive.msgs ++ [m.reqId] ↔ _
    rw [List.mem_append, List.mem_singleton, queues.inactive id]
    by_cases same : id = m.reqId
    · simp [same, idle]
    · simp [same]
  case queue_nodup => exact met.queue_nodup
  case queue =>
    intro addr there id
    have old := met.queue addr there id
    rw [Sender.outbound_findOrCreate] at old
    rw [mem_outbound_accept, msg_accept]
    change id ∈ ((s.findOrCreate m.remoteAddr).rcvr addr).outMsgs.msgs ↔ _
    rw [old]
    have same : (s.findOrCreate m.remoteAddr).msg id = s.msg id := by
      unfold Sender.msg
      rw [Sender.outbound_findOrCreate]
    rw [same]
    by_cases new : id = m.reqId
    · subst new
      simp [fresh, idle]
    · simp [new]
  case remote =>
    intro id inside
    rw [msg_accept]
    change _ ∈ (s.findOrCreate m.remoteAddr).remotes.keys
    split
    · exact s.mem_findOrCreate _
    · next other =>
      have old := ((mem_outbound_accept s m id).mp inside).resolve_right other
      exact (s.mem_keys_findOrCreate _ _).mpr (Or.inl (queues.remote id old))

theorem accept_ok (ok : HalvesOk cfg h) (new : NewMsg h.thisAddr m) (fresh : m.reqId ∉ h.snd.outbound.keys) :
    HalvesOk cfg { h with snd := h.snd.accept m } ∧
      ({ h with snd := h.snd.accept m } : Host).sendSide = h.sendSide.enqueue m := by
  have side : ({ h with snd := h.snd.accept m } : Host).sendSide = h.sendSide.enqueue m := by
    have pool : (h.snd.accept m).pool = h.snd.pool := Sender.pool_findOrCreate h.snd m.remoteAddr
    unfold sendSide Sender.side SendSide.enqueue
    dsimp only
    rw [pool]
    rfl
  have steps : SendSide.Steps cfg h.sendSide ({ h with snd := h.snd.accept m } : Host).sendSide := by
    rw [side]
    exact .single (.enqueue m fresh new)
  exact ⟨⟨ok.send.quiet (Queues.accept ok.send.queues new.idle.2.2 fresh) steps rfl rfl rfl, ok.recv.inv,
    ok.recv.nodup⟩, side⟩

theorem pktCount_eq (n : ℕ) : pktCount n = (ethernet.lens n).length := by
  rw [Lib.Framing.length_lens]
  unfold pktCount
  change n / maxR2p2Payload + _ = n / maxR2p2Payload + if n % maxR2p2Payload = 0 then 0 else 1
  rcases Nat.eq_zero_or_pos (n % maxR2p2Payload) with zero | pos
  · rw [zero]; rfl
  · rw [if_pos pos, if_neg pos.ne']

theorem newMsg_request {reqId : ℕ} (pos : 1 ≤ payload) (away : tuple.srAddr ≠ tuple.clAddr)
    (created : 99 / 10 < tuple.ts) : NewMsg tuple.clAddr (requestMsg reqId payload tuple) where
  total_pos := pos
  unsent := rfl
  seq := rfl
  name := rfl
  plain := ⟨rfl, rfl⟩
  request _ := rfl
  reply h := by cases h
  remote := away
  pktId := by
    change ((pktCount payload - 1 : ℕ) : ℤ) = _
    rw [pktCount_eq]
    have some_len : 0 < (ethernet.lens payload).length := by
      rw [ethernet.lens_of_pos pos]
      exact Nat.succ_pos _
    change _ = ((ethernet.lens payload).length : ℤ) - 1
    omega
  created := created
  idle := ⟨rfl, rfl, rfl⟩
  scheduled := ⟨rfl, rfl⟩
  uncredited := ⟨rfl, rfl⟩

theorem newMsg_reply {addr : Addr} (pos : 1 ≤ payload) (away : tuple.clAddr ≠ addr) (created : 99 / 10 < now) :
    NewMsg addr (replyMsg payload tuple now) where
  total_pos := pos
  unsent := rfl
  seq := rfl
  name := rfl
  plain := ⟨rfl, rfl⟩
  request h := by cases h
  reply _ := rfl
  remote := away
  pktId := by
    change ((pktCount payload : ℕ) : ℤ) = _
    rw [pktCount_eq]
    exact (sub_zero _).symm
  created := created
  idle := ⟨rfl, rfl, rfl⟩
  scheduled := ⟨rfl, rfl⟩
  uncredited := ⟨rfl, rfl⟩

end Admit

end Host

end PhantomPass
