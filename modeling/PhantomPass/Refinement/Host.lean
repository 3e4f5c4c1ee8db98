import PhantomPass.Refinement.Receiving
import PhantomPass.Refinement.Submission

/-! A host between its calls: both halves, the RPC layer, and messages that are
the requests and responses of the application. -/

set_option autoImplicit false

namespace PhantomPass

open Lib (Store)

namespace OutboundMsgState

def tuple (m : OutboundMsgState) : RequestIdTuple := { m.r2p2Hdr.requestIdTuple with ts := m.msgCreationTime }

def fixed (m : OutboundMsgState) : UniqReqId × Addr × Bool × ℕ × RequestIdTuple :=
  (m.reqId, m.remoteAddr, m.isRequest, m.totalBytes, m.tuple)

end OutboundMsgState

namespace SendSide

variable {cfg : Config} {s s' : SendSide}

theorem fixed_modify {id other : UniqReqId} {change : OutboundMsgState → OutboundMsgState}
    (msgs : s'.msgs = s.msgs.modify id change) (keeps : (change (s.msgs.get id)).fixed = (s.msgs.get id).fixed) :
    (s'.msgs.get other).fixed = (s.msgs.get other).fixed := by
  rw [msgs, Store.get_modify]
  split
  · next same => rw [keeps, same]
  · rfl

theorem Step.fixed (step : Step cfg s s') {id : UniqReqId} (inside : id ∈ s.msgs.keys) :
    id ∈ s'.msgs.keys ∧ (s'.msgs.get id).fixed = (s.msgs.get id).fixed := by
  cases step with
  | enqueue m fresh new =>
    have other : id ≠ m.reqId := fun same => fresh (same ▸ inside)
    exact ⟨(Store.mem_keys_insert ..).mpr (Or.inl inside), by
      rw [show (s.enqueue m).msgs.get id = s.msgs.get id from Store.get_insert_of_ne _ _ other]⟩
  | selfCredit id' prefixLen =>
    refine ⟨inside, fixed_modify (s.msgs_selfCredit cfg id' prefixLen) ?_⟩
    unfold OutboundMsgState.credited OutboundMsgState.fixed OutboundMsgState.tuple
    dsimp only
    split <;> rfl
  | activate id' => exact ⟨inside, fixed_modify (s.msgs_activate id') rfl⟩
  | announce id' p => exact ⟨inside, fixed_modify (s.msgs_announce id' p) rfl⟩
  | transmit id' ps p =>
    refine ⟨inside, fixed_modify (s.msgs_transmit id' p) ?_⟩
    unfold OutboundMsgState.afterPacket OutboundMsgState.fixed OutboundMsgState.tuple
    dsimp only
    split <;> rfl
  | credit p => exact ⟨inside, rfl⟩

theorem Steps.fixed (steps : Steps cfg s s') {id : UniqReqId} (inside : id ∈ s.msgs.keys) :
    id ∈ s'.msgs.keys ∧ (s'.msgs.get id).fixed = (s.msgs.get id).fixed := by
  induction steps with
  | refl => exact ⟨inside, rfl⟩
  | tail _ last ih => exact ⟨(last.fixed ih.1).1, (last.fixed ih.1).2.trans ih.2⟩

end SendSide

namespace Rpc

variable {cfg : Config} {addr : Addr} {p : Packet} {rpc rpc' : Rpc}

theorem recvPkt_history (run : rpc.recvPkt cfg addr p = .ok rpc') :
    rpc'.reqSent = rpc.reqSent ∧ rpc'.respSent = rpc.respSent := by
  unfold recvPkt at run
  cases type : p.hdr.msgType <;> simp only [type, Lib.pure_eq_ok] at run
  case request =>
    obtain ⟨-, -, rfl⟩ := (handleRequestPkt_iff type).mp run
    unfold afterRequest handRequest
    dsimp only
    split <;> exact ⟨rfl, rfl⟩
  case reply =>
    obtain ⟨st, -, -, -, rfl⟩ := (handleReplyPkt_iff type).mp run
    unfold afterReply
    dsimp only
    split <;> exact ⟨rfl, rfl⟩
  all_goals
    subst run
    exact ⟨rfl, rfl⟩

end Rpc

namespace RpcInv

variable {cfg : Config} {addr : Addr} {rpc rpc' : Rpc} {log out : List Packet} {p : Packet} {m : OutboundMsgState}

theorem pass (inv : RpcInv addr rpc log) (notData : p.isData = false) (run : rpc.recvPkt cfg addr p = .ok rpc') :
    RpcInv addr rpc' (log ++ [p]) := by
  have same : rpc' = rpc := by
    unfold Rpc.recvPkt at run
    unfold Packet.isData at notData
    cases type : p.hdr.msgType <;> simp_all
  rw [same]
  exact inv.skip notData

theorem arrive (inv : RpcInv addr rpc log) (fits : Fits cfg addr log p out m)
    (run : rpc.recvPkt cfg addr p = .ok rpc') :
    RpcInv addr rpc' (log ++ [p]) := by
  cases data : p.isData with
  | false => exact inv.pass data run
  | true =>
    have type := isRequest_of_type fits data
    unfold Rpc.recvPkt at run
    cases request : m.isRequest with
    | true =>
      rw [request, if_pos rfl] at type
      simp only [type] at run
      obtain ⟨-, -, rfl⟩ := (Rpc.handleRequestPkt_iff type).mp run
      exact inv.arrive_request fits data request
    | false =>
      rw [request, if_neg Bool.false_ne_true] at type
      simp only [type] at run
      obtain ⟨st, found, -, -, rfl⟩ := (Rpc.handleReplyPkt_iff type).mp run
      exact inv.arrive_reply fits data request found

end RpcInv

namespace Host

variable {env : Env} {h h' h1 : Host} {now : Time} {p : Packet} {stamp : Stamp}

/-- A message is what the application handed down under its name. -/
structure Entry (h : Host) (m : OutboundMsgState) : Prop where
  sent : (m.totalBytes, m.tuple) ∈ if m.isRequest then h.rpc.reqSent else h.rpc.respSent
  remote : m.isRequest = true → m.remoteAddr = m.tuple.srAddr

def Submitted (h : Host) (isRequest : Bool) (e : ℕ × RequestIdTuple) : Prop :=
  e.2.uniqReqId ∈ h.snd.outbound.keys ∧ (h.snd.msg e.2.uniqReqId).isRequest = isRequest ∧
    (h.snd.msg e.2.uniqReqId).totalBytes = e.1 ∧ (h.snd.msg e.2.uniqReqId).tuple = e.2

structure HostOk (cfg : Config) (h : Host) : Prop where
  halves : HalvesOk cfg h
  rpc : RpcInv h.thisAddr h.rpc h.rcvd
  entry : ∀ id ∈ h.snd.outbound.keys, Entry h (h.snd.msg id)
  asked : ∀ e ∈ h.rpc.reqSent, Submitted h true e
  answered : ∀ e ∈ h.rpc.respSent, Submitted h false e

theorem SendOk.init (cfg : Config) (addr : Addr) : SendOk cfg (.init cfg addr) := by
  have toward : ∀ rcvr f, (Host.init cfg addr).sendSide.toward rcvr f = 0 := fun rcvr f => Store.total_empty ..
  have avail : ∀ rcvr, (Host.init cfg addr).sendSide.avail rcvr = 0 := fun rcvr => rfl
  have cost : ∀ rcvr, (Host.init cfg addr).sendSide.costTo rcvr = 0 := fun rcvr => rfl
  have inv : SendInv cfg (Host.init cfg addr).sendSide := {
    names := fun id inside => absurd inside List.not_mem_nil
    msg := fun id inside => absurd inside List.not_mem_nil
    owned := fun p inside => absurd inside List.not_mem_nil
    grants := fun p inside => absurd inside List.not_mem_nil
    spent := fun rcvr => by rw [toward, cost]
    pool := fun rcvr => by rw [toward, cost, avail]; rfl
    floor := fun rcvr => by rw [toward, avail] }
  refine ⟨.init, inv, fun rcvr front pre => ?_, fun p inside => absurd inside List.not_mem_nil, fun _ => rfl⟩
  have empty : front = [] := List.prefix_nil.mp pre
  subst empty
  rw [toward]
  exact le_refl _

theorem RecvOk.init (cfg : Config) (addr : Addr) : RecvOk cfg (.init cfg addr) := by
  have ofSender : ∀ sender f, ((Host.init cfg addr).recvSide cfg).ofSender sender f = 0 :=
    fun sender f => Store.total_empty ..
  refine ⟨?_, List.nodup_nil⟩
  exact {
    obj := fun id inside => absurd inside List.not_mem_nil
    first := fun id inside => absurd inside List.not_mem_nil
    quiet := fun id inside => absurd inside List.not_mem_nil
    arrived := fun q inside => absurd inside List.not_mem_nil
    live := fun id inside => absurd inside (Finset.notMem_empty id)
    retired := fun id inside => absurd inside List.not_mem_nil
    grants := fun g inside => absurd inside List.not_mem_nil
    nodup := List.nodup_nil
    owed := fun sender => by rw [ofSender]; rfl
    drawn := fun sender => by rw [ofSender]; rfl
    strangers := fun sender _ => rfl
    lent := sub_self _
    balance := sub_self _
    requested := (Store.total_empty ..).symm
    dataGranted := (Store.total_empty ..).symm }

theorem HostOk.init (cfg : Config) (addr : Addr) : HostOk cfg (.init cfg addr) where
  halves := ⟨.init cfg addr, .init cfg addr⟩
  rpc := .init addr
  entry _ inside := absurd inside List.not_mem_nil
  asked _ inside := absurd inside List.not_mem_nil
  answered _ inside := absurd inside List.not_mem_nil

theorem Entry.congr {m m' : OutboundMsgState} (entry : Entry h m) (fixed : m'.fixed = m.fixed)
    (asked : h'.rpc.reqSent = h.rpc.reqSent) (answered : h'.rpc.respSent = h.rpc.respSent) : Entry h' m' := by
  unfold OutboundMsgState.fixed at fixed
  simp only [Prod.mk.injEq] at fixed
  obtain ⟨-, remote, request, total, tuple⟩ := fixed
  refine ⟨?_, ?_⟩
  · rw [request, total, tuple, asked, answered]; exact entry.sent
  · rw [request, remote, tuple]; exact entry.remote

theorem Submitted.congr {isRequest : Bool} {e : ℕ × RequestIdTuple} (submitted : Submitted h isRequest e)
    (keys : e.2.uniqReqId ∈ h'.snd.outbound.keys)
    (fixed : (h'.snd.msg e.2.uniqReqId).fixed = (h.snd.msg e.2.uniqReqId).fixed) : Submitted h' isRequest e := by
  unfold OutboundMsgState.fixed at fixed
  simp only [Prod.mk.injEq] at fixed
  obtain ⟨-, -, request, total, tuple⟩ := fixed
  obtain ⟨-, kind, bytes, ids⟩ := submitted
  exact ⟨keys, request.trans kind, total.trans bytes, tuple.trans ids⟩

theorem HostOk.of_steps {cfg : Config} (ok : HostOk cfg h) (halves : HalvesOk cfg h')
    (rpc : RpcInv h'.thisAddr h'.rpc h'.rcvd)
    (asked : h'.rpc.reqSent = h.rpc.reqSent) (answered : h'.rpc.respSent = h.rpc.respSent)
    (keys : h'.snd.outbound.keys = h.snd.outbound.keys) (steps : SendSide.Steps cfg h.sendSide h'.sendSide) :
    HostOk cfg h' := by
  have fixed : ∀ id ∈ h.snd.outbound.keys, (h'.snd.msg id).fixed = (h.snd.msg id).fixed :=
    fun id inside => (steps.fixed inside).2
  exact {
    halves := halves
    rpc := rpc
    entry := fun id inside => (ok.entry id (keys ▸ inside)).congr (fixed id (keys ▸ inside)) asked answered
    asked := fun e inside => by
      rw [asked] at inside
      have old := ok.asked e inside
      exact old.congr (keys ▸ old.1) (fixed _ old.1)
    answered := fun e inside => by
      rw [answered] at inside
      have old := ok.answered e inside
      exact old.congr (keys ▸ old.1) (fixed _ old.1) }

theorem HostOk.polls {cfg : Config} (ok : HostOk cfg h) (polls : Polls cfg h h') : HostOk cfg h' :=
  ok.of_steps polls.ok (by rw [polls.thisAddr, polls.rpc, polls.rcvd]; exact ok.rpc) (by rw [polls.rpc])
    (by rw [polls.rpc]) polls.keys polls.send

/-- A packet that the host can expect: credit for a message that has sent
something, or a part of a message of its source. -/
structure Expected (cfg : Config) (h : Host) (p : Packet) : Prop where
  grant : p.isGrant = true → 0 ≤ p.hdr.credit ∧
    ∃ q ∈ h.sent, (q.isData = true ∨ q.isCreditReq = true) ∧ q.uniqReqId = p.uniqReqId
  part : p.isGrant = false → ∃ out m, Fits cfg h.thisAddr h.rcvd p out m

theorem Expected.welcome {cfg : Config} (expected : Expected cfg h p) (ok : HalvesOk cfg h) : Welcome cfg h p where
  grant grant := by
    obtain ⟨nonneg, q, sent, kind, name⟩ := expected.grant grant
    refine ⟨nonneg, fun idle => ?_⟩
    obtain ⟨inside, inactive⟩ := (ok.send.queues.inactive _).mp idle
    have msgOk : MsgOk cfg h.thisAddr h.sendSide.out (h.snd.msg p.uniqReqId) := ok.send.inv.msg _ inside
    have named : (h.snd.msg p.uniqReqId).reqId = p.uniqReqId := ok.send.inv.names _ inside
    have out : q ∈ h.sendSide.out := List.mem_filter.mpr ⟨sent, by rw [Packet.isGrant_of_part kind]; rfl⟩
    rcases kind with data | req
    · have none := msgOk.idle_data inactive
      have one : q ∈ dataOf (h.snd.msg p.uniqReqId).reqId h.sendSide.out :=
        mem_dataOf.mpr ⟨out, data, name.trans named.symm⟩
      rw [none] at one
      exact absurd one List.not_mem_nil
    · have none := msgOk.idle_creditReqs inactive
      have one : q ∈ creditReqsOf (h.snd.msg p.uniqReqId).reqId h.sendSide.out :=
        mem_creditReqsOf.mpr ⟨out, req, name.trans named.symm⟩
      rw [none] at one
      exact absurd one List.not_mem_nil
  part := expected.part

theorem Expected.polls {cfg : Config} (expected : Expected cfg h p) (polls : Polls cfg h h') : Expected cfg h' p where
  grant grant := by
    obtain ⟨nonneg, q, sent, rest⟩ := expected.grant grant
    obtain ⟨more, all⟩ := polls.sent
    exact ⟨nonneg, q, by rw [all]; exact List.mem_append_left _ sent, rest⟩
  part grant := by
    rw [polls.thisAddr, polls.rcvd]
    exact expected.part grant

theorem recv_ok (ok : HostOk env.cfg h) (expected : Expected env.cfg h p) (run : h.recv env now p stamp = .ok h') :
    HostOk env.cfg h' ∧ ∃ h1, Polls env.cfg h h1 ∧ Arrives env p h1 h' := by
  obtain ⟨h1, st, started, window, dispatched⟩ := recv_cases run
  have polls := startPolling_ok ok.halves started
  have ok1 := ok.polls polls
  have expected1 := expected.polls polls
  have budget : st.srpbBytes = ((h1.rcv.senderState.find p.src).getD (.new p.src env.cfg.maxSrpb)).srpbBytes :=
    SenderState.srpbBytes_update window
  have arrives := dispatched.arrives rfl ok1.halves (expected1.welcome ok1.halves) budget
  refine ⟨?_, h1, polls, arrives⟩
  obtain ⟨asked, answered⟩ := Rpc.recvPkt_history arrives.rpc
  have rpc : RpcInv h'.thisAddr h'.rpc h'.rcvd := by
    rw [arrives.thisAddr, arrives.rcvd]
    cases grant : p.isGrant with
    | true =>
      have notData : p.isData = false := by
        cases data : p.isData
        · rfl
        · rw [Packet.isGrant_of_isData data] at grant; cases grant
      exact ok1.rpc.pass notData arrives.rpc
    | false =>
      obtain ⟨out, m, fits⟩ := expected1.part grant
      exact ok1.rpc.arrive fits arrives.rpc
  have steps : SendSide.Steps env.cfg h1.sendSide h'.sendSide := by
    rw [arrives.send]
    unfold sendTakes
    split
    · next grant => exact .single (.credit p grant (expected1.grant grant).1)
    · exact .refl
  exact ok1.of_steps arrives.ok rpc asked answered (by rw [arrives.outbound]) steps

section Submit

variable {cfg : Config} {m : OutboundMsgState} {payload : ℕ} {tuple : RequestIdTuple}

theorem HalvesOk.withRpc (ok : HalvesOk cfg h) (rpc : Rpc) : HalvesOk cfg { h with rpc } :=
  ⟨⟨ok.send.queues, ok.send.inv, ok.send.covered, ok.send.numbered.src, ok.send.numbered.seqno⟩, ok.recv.inv,
    ok.recv.nodup⟩

theorem tuple_uniqReqId (ok : HostOk cfg h) {id : UniqReqId} (inside : id ∈ h.snd.outbound.keys) :
    (h.snd.msg id).tuple.uniqReqId = id :=
  (ok.halves.send.inv.msg id inside).name.trans (ok.halves.send.inv.names id inside)

theorem HostOk.own (ok : HostOk cfg h) {id : UniqReqId} (inside : id ∈ h.snd.outbound.keys) :
    id.clAddr = h.thisAddr ∧ (id.clThreadId, id.reqId) ∈ h.rpc.pendingReqs.keys ∨
      id.clAddr ≠ h.thisAddr ∧ ∃ e ∈ h.rpc.respSent, e.2.uniqReqId = id := by
  have entry := (ok.entry id inside).sent
  have name := tuple_uniqReqId ok inside
  cases request : (h.snd.msg id).isRequest with
  | true =>
    rw [request, if_pos rfl] at entry
    obtain ⟨near, known⟩ := ok.rpc.asked _ entry
    refine Or.inl ⟨?_, ?_⟩
    · rw [← name]; exact near
    · rw [← name]; exact known
  | false =>
    rw [request, if_neg Bool.false_ne_true] at entry
    obtain ⟨e, recvd, same⟩ := ok.rpc.answered _ entry
    have far := ok.rpc.foreign e recvd
    refine Or.inr ⟨?_, _, entry, name⟩
    rw [← name]
    change (h.snd.msg id).tuple.clAddr ≠ h.thisAddr
    rw [show (h.snd.msg id).tuple = { e.2 with ts := (h.snd.msg id).tuple.ts } from same]
    exact far

theorem HostOk.submit (ok : HostOk cfg h) {rpc : Rpc} (polls : Polls cfg { h with rpc } h1) {rpc' : Rpc}
    (inv : RpcInv h.thisAddr rpc' h.rcvd) (new : NewMsg h.thisAddr m) (fresh : m.reqId ∉ h.snd.outbound.keys)
    (asked : rpc'.reqSent = h.rpc.reqSent ++ if m.isRequest then [(m.totalBytes, m.tuple)] else [])
    (answered : rpc'.respSent = h.rpc.respSent ++ if m.isRequest then [] else [(m.totalBytes, m.tuple)])
    (remote : m.isRequest = true → m.remoteAddr = m.tuple.srAddr) :
    HostOk cfg { h1 with snd := h1.snd.accept m, rpc := rpc' } := by
  have addr : h1.thisAddr = h.thisAddr := polls.thisAddr
  have keys : h1.snd.outbound.keys = h.snd.outbound.keys := polls.keys
  have fresh1 : m.reqId ∉ h1.snd.outbound.keys := by rw [keys]; exact fresh
  obtain ⟨halves, -⟩ := accept_ok polls.ok (by rw [addr]; exact new) fresh1
  -- the messages before it stay what they were
  have fixed : ∀ id ∈ h.snd.outbound.keys, ((h1.snd.accept m).msg id).fixed = (h.snd.msg id).fixed := by
    intro id inside
    have other : id ≠ m.reqId := fun same => fresh (same ▸ inside)
    rw [msg_accept, if_neg other]
    exact (polls.send.fixed inside).2
  have stays : ∀ id ∈ h.snd.outbound.keys, id ∈ (h1.snd.accept m).outbound.keys := fun id inside =>
    (mem_outbound_accept ..).mpr (Or.inl (keys ▸ inside))
  have here : (h1.snd.accept m).msg m.reqId = m := by rw [msg_accept, if_pos rfl]
  have name : m.tuple.uniqReqId = m.reqId := new.name
  have first : Submitted { h1 with snd := h1.snd.accept m, rpc := rpc' } m.isRequest (m.totalBytes, m.tuple) := by
    unfold Submitted
    dsimp only
    rw [name, here]
    exact ⟨(mem_outbound_accept ..).mpr (Or.inr rfl), rfl, rfl, rfl⟩
  exact {
    halves := halves.withRpc rpc'
    rpc := by
      change RpcInv h1.thisAddr rpc' h1.rcvd
      rw [addr, show h1.rcvd = h.rcvd from polls.rcvd]
      exact inv
    entry := fun id inside => by
      rcases (mem_outbound_accept ..).mp inside with old | rfl
      · rw [keys] at old
        have entry := ok.entry id old
        have same := fixed id old
        unfold OutboundMsgState.fixed at same
        simp only [Prod.mk.injEq] at same
        obtain ⟨-, towards, request, total, tuple⟩ := same
        refine ⟨?_, ?_⟩
        · dsimp only
          rw [request, total, tuple, asked, answered]
          have sent := entry.sent
          cases kind : (h.snd.msg id).isRequest with
          | true => rw [kind] at sent; exact List.mem_append_left _ sent
          | false => rw [kind] at sent; exact List.mem_append_left _ sent
        · dsimp only
          rw [request, towards, tuple]
          exact entry.remote
      · dsimp only
        rw [here]
        refine ⟨?_, remote⟩
        dsimp only
        rw [asked, answered]
        split
        · exact List.mem_append_right _ (List.mem_singleton_self _)
        · exact List.mem_append_right _ (List.mem_singleton_self _)
    asked := fun e inside => by
      change e ∈ rpc'.reqSent at inside
      rw [asked] at inside
      rcases List.mem_append.mp inside with old | entered
      · have before := ok.asked e old
        exact before.congr (stays _ before.1) (fixed _ before.1)
      · split at entered
        · next request =>
          rw [List.mem_singleton.mp entered]
          rw [request] at first
          exact first
        · exact absurd entered List.not_mem_nil
    answered := fun e inside => by
      change e ∈ rpc'.respSent at inside
      rw [answered] at inside
      rcases List.mem_append.mp inside with old | entered
      · have before := ok.answered e old
        exact before.congr (stays _ before.1) (fixed _ before.1)
      · split at entered
        · exact absurd entered List.not_mem_nil
        · next reply =>
          rw [List.mem_singleton.mp entered]
          rw [Bool.not_eq_true] at reply
          rw [reply] at first
          exact first }

theorem HostOk.request_fresh (ok : HostOk cfg h) (own : tuple.clAddr = h.thisAddr) (payload : ℕ) :
    (requestMsg (RpcInv.nextReqId h.rpc tuple.clThreadId) payload tuple).reqId ∉ h.snd.outbound.keys := by
  intro inside
  rcases ok.own inside with ⟨-, known⟩ | ⟨far, -⟩
  · exact ok.rpc.nextReqId_fresh tuple.clThreadId known
  · exact far own

theorem HostOk.reply_fresh {thread : ℤ} (ok : HostOk cfg h) (task : tuple ∈ h.rpc.pendingTasks thread) (payload : ℕ)
    (now : Time) : (replyMsg payload tuple now).reqId ∉ h.snd.outbound.keys := by
  obtain ⟨-, ⟨n, recvd⟩, unanswered⟩ := ok.rpc.tasks thread tuple task
  intro inside
  rcases ok.own inside with ⟨near, -⟩ | ⟨-, e, sent, name⟩
  · exact ok.rpc.foreign _ recvd near
  · exact unanswered e sent name

theorem sendReq_ok (ok : HostOk env.cfg h) (own : tuple.clAddr = h.thisAddr) (away : tuple.srAddr ≠ tuple.clAddr)
    (created : 99 / 10 < tuple.ts) (run : h.sendReq env now payload tuple = .ok h') :
    HostOk env.cfg h' ∧ ∃ h1, Polls env.cfg { h with rpc := h.rpc.asked payload tuple } h1 ∧
      h' = { h1 with snd := h1.snd.accept (requestMsg (RpcInv.nextReqId h.rpc tuple.clThreadId) payload tuple) } := by
  obtain ⟨pos, h1, snd, started, rfl, whole⟩ := sendReq_cases run
  have polls := startPolling_ok (h := { h with rpc := h.rpc.asked payload tuple }) (ok.halves.withRpc _) started
  obtain rfl := whole polls.rpc
  refine ⟨?_, h1, polls, rfl⟩
  have new : NewMsg h.thisAddr (requestMsg (RpcInv.nextReqId h.rpc tuple.clThreadId) payload tuple) := by
    rw [← own]
    exact newMsg_request pos away created
  have inv : RpcInv h.thisAddr (h.rpc.asked payload tuple) h.rcvd := ok.rpc.ask own
  have all := ok.submit polls inv new (ok.request_fresh own payload) rfl (List.append_nil _).symm fun _ => rfl
  rw [← show h1.rpc = h.rpc.asked payload tuple from polls.rpc] at all
  exact all

theorem appSendResponse_ok {thread : ℤ} (ok : HostOk env.cfg h) (pos : 1 ≤ payload) (created : 99 / 10 < now)
    (run : h.appSendResponse env now thread payload = .ok h') :
    HostOk env.cfg h' ∧ ∃ tuple rest st h1, h.rpc.pendingTasks thread = tuple :: rest ∧
      Polls env.cfg { h with rpc := h.rpc.answered payload tuple now st } h1 ∧
      h' = { h1 with
        snd := h1.snd.accept (replyMsg payload tuple now)
        rpc := { h1.rpc with pendingTasks := Function.update h1.rpc.pendingTasks thread rest } } := by
  obtain ⟨tuple, rest, st, h1, tasks, found, started, -, rfl⟩ := appSendResponse_cases run
  have polls := startPolling_ok (h := { h with rpc := h.rpc.answered payload tuple now st })
    (ok.halves.withRpc _) started
  refine ⟨?_, tuple, rest, st, h1, tasks, polls, rfl⟩
  have task : tuple ∈ h.rpc.pendingTasks thread := by rw [tasks]; exact List.mem_cons_self
  obtain ⟨-, ⟨n, recvd⟩, -⟩ := ok.rpc.tasks thread tuple task
  have away : tuple.clAddr ≠ h.thisAddr := ok.rpc.foreign _ recvd
  have inv : RpcInv h.thisAddr { h.rpc.answered payload tuple now st with
      pendingTasks := Function.update h.rpc.pendingTasks thread rest } h.rcvd := ok.rpc.answer tasks found
  have all := ok.submit polls inv (newMsg_reply pos away created) (ok.reply_fresh task payload now)
    (List.append_nil _).symm rfl fun h => by cases h
  rw [show h1.rpc = h.rpc.answered payload tuple now st from polls.rpc]
  exact all

theorem collect_ok {cfg : Config} (ok : HostOk cfg h) : HostOk cfg { h with rpc := h.rpc.garbageCollectState } :=
  ok.of_steps (ok.halves.withRpc _) ok.rpc.collect rfl rfl rfl .refl

end Submit

end Host

end PhantomPass
