import PhantomPass.Delivery.Acceptance
import PhantomPass.Network.Beginning
import PhantomPass.Network.Debts

/-! Requests and replies from end to end: which packets are accepted where they
arrive, and that the application gets every message once, with its last packet. -/

set_option autoImplicit false

namespace PhantomPass

open Lib (Store)

namespace Host

variable {env : Env} {h h' h1 : Host} {p : Packet} {now : Time} {stamp : Stamp} {out : List Packet}
    {m : OutboundMsgState}

def Plain (h : Host) : Prop := ∀ q ∈ h.arrived, q.hdr.msgType = .reply → q.hdr.creditReq = 0

/-- A packet finds what it needs: the windows for its sender, and, for data that is booked, the accounts. -/
structure Admits (env : Env) (h : Host) (p : Packet) (stamp : Stamp) : Prop where
  windows : (h.senderOf env p.src).Takes env.cfg stamp
  pays : p.isData = true → p.isSingleReply = false → h.Pays env p

theorem Pays.of_same (pays : h.Pays env p) (same : h'.recvSide env.cfg = h.recvSide env.cfg) : h'.Pays env p := by
  have granted : h'.rcv.creditGranted = h.rcv.creditGranted := congrArg RecvSide.granted same
  have replenished : h'.rcv.creditReplenished = h.rcv.creditReplenished := congrArg RecvSide.replenished same
  have current : (h'.recvSide env.cfg).current p = (h.recvSide env.cfg).current p := by rw [same]
  unfold recvSide at current
  rw [Receiver.current_side, Receiver.current_side] at current
  refine ⟨pays.accounts, pays.plain, ?_⟩
  rw [granted, replenished, current]
  exact pays.lent

theorem Admits.of_same (admits : h.Admits env p stamp) (same : h'.recvSide env.cfg = h.recvSide env.cfg)
    (senders : h'.senderOf env = h.senderOf env) : h'.Admits env p stamp :=
  ⟨by rw [senders]; exact admits.windows, fun data multi => (admits.pays data multi).of_same same⟩

theorem recv_eq (fits : Fits env.cfg h.thisAddr h.rcvd p out m) : h.recv env now p stamp = (do
    let h1 ← h.startPolling env now
    let st ← (h1.senderOf env p.src).update env.cfg p stamp
    (h1.meets p st).dispatch env p) := by
  obtain ⟨⟨high, low, padding⟩, small, large⟩ := fits.framed
  unfold recv checkSize assert
  rw [Lib.require_true _ high, Lib.ok_bind, Lib.require_true _ low, Lib.ok_bind, Lib.require_true _ padding,
    Lib.ok_bind]
  refine congrArg _ ?_
  funext h1
  dsimp only
  rw [Lib.require_true _ small, Lib.ok_bind, Lib.require_true _ large, Lib.ok_bind]
  unfold updateSenderState
  dsimp only
  rw [bind_assoc]
  rfl

theorem dispatch_meets_iff {st : SenderState} (ok : HalvesOk env.cfg h) (fits : Fits env.cfg h.thisAddr h.rcvd p out m)
    (plain : h.Plain) (budget : st.srpbBytes = (h.senderOf env p.src).srpbBytes)
    (handled : ∃ rpc, h.rpc.recvPkt env.cfg h.thisAddr p = .ok rpc) :
    (∃ h', (h.meets p st).dispatch env p = .ok h') ↔ (p.isData = true → p.isSingleReply = false → h.Pays env p) := by
  cases single : p.isSingleReply with
  | true =>
    refine iff_of_true ?_ (fun _ multi => nomatch multi)
    rw [dispatch_eq, single, if_pos rfl]
    unfold assert
    rw [Lib.require_true _ fits.self.1, Lib.ok_bind]
    exact r2p2Recv_succeeds handled
  | false =>
    have inv : RecvInv ((h.meets p st).rcv.side env.cfg h.thisAddr h.arrived (h.sent.filter Packet.isGrant)) := by
      rw [side_meets env.cfg budget]
      exact ok.recv.inv.meet p.src
    have met : p.src ∈ (h.meets p st).rcv.senderState.keys := (Store.mem_keys_insert ..).mpr (Or.inr rfl)
    have here : Fits env.cfg h.thisAddr h.arrived p out m := fits.part List.filter_sublist
    rw [dispatch_succeeds_iff inv here met single plain handled]
    constructor
    · intro pays data _
      obtain ⟨accounts, announced, lent⟩ := pays data
      exact ⟨accounts, announced, lent⟩
    · intro pays data
      obtain ⟨accounts, announced, lent⟩ := pays data rfl
      exact ⟨accounts, announced, lent⟩

theorem recv_succeeds_iff (ok : HalvesOk env.cfg h) (begun : h.Begun env.cfg) (grants : env.cfg.Grants)
    (fits : Fits env.cfg h.thisAddr h.rcvd p out m) (plain : h.Plain)
    (handled : ∃ rpc, h.rpc.recvPkt env.cfg h.thisAddr p = .ok rpc) :
    (∃ h', h.recv env now p stamp = .ok h') ↔ h.Admits env p stamp := by
  obtain ⟨h1, started⟩ := begun.startPolling_succeeds now grants
  have polls := startPolling_ok ok started
  obtain ⟨same, senders⟩ := begun.startPolling_same ok started
  have plain1 : h1.Plain := by
    have arrived : h1.arrived = h.arrived := congrArg RecvSide.arrived same
    unfold Plain
    rw [arrived]
    exact plain
  have rest : ∀ st, (h1.senderOf env p.src).update env.cfg p stamp = .ok st →
      ((∃ h', (h1.meets p st).dispatch env p = .ok h') ↔ (p.isData = true → p.isSingleReply = false →
        h1.Pays env p)) := by
    intro st window
    have fits1 : Fits env.cfg h1.thisAddr h1.rcvd p out m := by
      rw [polls.thisAddr, polls.rcvd]
      exact fits
    apply dispatch_meets_iff polls.ok fits1 plain1 (SenderState.srpbBytes_update window)
    rw [polls.rpc, polls.thisAddr]
    exact handled
  rw [recv_eq fits, started, Lib.ok_bind]
  constructor
  · rintro ⟨h', run⟩
    simp only [Lib.bind_eq_ok] at run
    obtain ⟨st, window, run⟩ := run
    have admits : h1.Admits env p stamp :=
      ⟨SenderState.update_succeeds_iff.mp ⟨st, window⟩, (rest st window).mp ⟨h', run⟩⟩
    exact admits.of_same same.symm senders.symm
  · intro admits
    obtain ⟨windows, pays⟩ := admits.of_same same senders
    obtain ⟨st, window⟩ := SenderState.update_succeeds_iff.mpr windows
    rw [window, Lib.ok_bind]
    exact (rest st window).mpr pays

end Host

namespace Net

variable {env : Env} {cfg : Config} {net net' : Net} {e : Event} {cond : Net → Event → Prop} {p q : Packet}
    {src client : Addr}
  {id : UniqReqId}

def Attached (cfg : Config) (net : Net) : Prop := ∀ client, ∀ e ∈ (net.host client).rpc.reqSent,
  cfg.attached client e.2.clThreadId = true ∧ cfg.attached e.2.srAddr e.2.srThreadId = true

theorem attached_act {addr : Addr} {flight : List Packet} {h : Host} (attached : Attached cfg net)
    (here : ∀ e ∈ h.rpc.reqSent, e ∈ (net.host addr).rpc.reqSent ∨
      cfg.attached addr e.2.clThreadId = true ∧ cfg.attached e.2.srAddr e.2.srThreadId = true) :
    Attached cfg (net.act addr flight h) := by
  intro client e inside
  rw [host_act] at inside
  split at inside
  · next same =>
    rw [same]
    exact (here e inside).elim (attached addr e) fun new => new
  · exact attached client e inside

theorem attached_fire (ok : NetOk env.cfg net) (attached : Attached env.cfg net) (enabled : net.Enabled env e)
    (run : net.fire env e = .ok net') : Attached env.cfg net' := by
  cases e with
  | tick seconds =>
    unfold Net.fire at run
    rw [Lib.pure_eq_ok] at run
    rw [← run]
    exact attached
  -- only this adds to the requests that were sent
  | request client server clThread srThread appLevelId n =>
    unfold Net.fire at run
    simp only [Lib.bind_eq_ok, Lib.pure_eq_ok] at run
    obtain ⟨h, sent, rfl⟩ := run
    obtain ⟨-, h1, snd, started, rfl, -⟩ := Host.sendReq_cases sent
    have polls := Host.startPolling_ok ((ok.host client).halves.withRpc _) started
    apply attached_act attached
    intro e inside
    rw [polls.rpc] at inside
    rcases List.mem_append.mp inside with old | new
    · exact Or.inl old
    · rw [List.mem_singleton.mp new]
      exact Or.inr ⟨enabled.2.1, enabled.2.2.1⟩
  | reply server thread n =>
    unfold Net.fire at run
    simp only [Lib.bind_eq_ok, Lib.pure_eq_ok] at run
    obtain ⟨h, sent, rfl⟩ := run
    obtain ⟨tuple, rest, st, h1, -, -, started, -, rfl⟩ := Host.appSendResponse_cases sent
    have polls := Host.startPolling_ok ((ok.host server).halves.withRpc _) started
    apply attached_act attached
    intro e inside
    dsimp only at inside
    rw [polls.rpc] at inside
    exact Or.inl inside
  | poll addr =>
    unfold Net.fire at run
    simp only [Lib.bind_eq_ok, Lib.pure_eq_ok] at run
    obtain ⟨h, polled, rfl⟩ := run
    have polls := (Host.poll_ok (ok.host addr).halves polled).1
    apply attached_act attached
    intro e inside
    rw [polls.rpc] at inside
    exact Or.inl inside
  | deliver p stamp =>
    unfold Net.fire at run
    simp only [Lib.bind_eq_ok, Lib.pure_eq_ok] at run
    obtain ⟨h, received, rfl⟩ := run
    obtain ⟨-, h1, polls, arrives⟩ := Host.recv_ok (ok.host p.dst) (expected_of_flight ok enabled) received
    apply attached_act attached
    intro e inside
    rw [(Rpc.recvPkt_history arrives.rpc).1, polls.rpc] at inside
    exact Or.inl inside
  | collect addr =>
    unfold Net.fire at run
    rw [Lib.pure_eq_ok] at run
    rw [← run]
    exact attached_act attached fun e inside => Or.inl inside

theorem Reach.attached (reach : Reach env cond net) : Attached env.cfg net := by
  -- each packet of a message stays with the message it was cut from
  induction reach with
  | init =>
    intro client e inside
    cases inside
  | step before enabled _ run ih => exact attached_fire before.ok ih enabled run

section Handled

variable (ok : NetOk cfg net)

include ok

theorem dataHdr_of_sent (sent : p ∈ (net.host p.src).sent) (data : p.isData = true) :
    DataHdr p.src (net.msg p.src p.uniqReqId) p := by
  obtain ⟨-, member, -⟩ := part_of_sent ok sent (Packet.isGrant_of_isData data)
  apply (msgOk ok member).data
  rw [msg_reqId ok member]
  exact mem_dataOf.mpr ⟨List.mem_filter.mpr ⟨sent, by rw [Packet.isGrant_of_isData data]; rfl⟩, data, rfl⟩

theorem asked_of_sent (sent : p ∈ (net.host p.src).sent) (data : p.isData = true) (type : p.hdr.msgType = .request) :
    ((net.msg p.src p.uniqReqId).totalBytes, p.hdr.requestIdTuple) ∈ (net.host p.src).rpc.reqSent ∧
      p.dst = p.hdr.srAddr ∧ 99 / 10 < p.hdr.msgCreationTime := by
  obtain ⟨-, member, remote⟩ := part_of_sent ok sent (Packet.isGrant_of_isData data)
  have hdr := dataHdr_of_sent ok sent data
  have request : (net.msg p.src p.uniqReqId).isRequest = true := by
    by_contra reply
    have other := hdr.msgType
    rw [if_neg reply, type] at other
    cases other
  have entry := (ok.host p.src).entry _ member
  have tuple : p.hdr.requestIdTuple = (net.msg p.src p.uniqReqId).tuple := hdr.tuple
  have asked := entry.sent
  have created : p.hdr.requestIdTuple.ts = (net.msg p.src p.uniqReqId).msgCreationTime := by rw [tuple]; rfl
  have towards : p.hdr.requestIdTuple.srAddr = (net.msg p.src p.uniqReqId).remoteAddr := by
    rw [tuple]
    exact (entry.remote request).symm
  rw [show (net.host p.src).snd.msg p.uniqReqId = net.msg p.src p.uniqReqId from rfl, request, if_pos rfl] at asked
  rw [tuple]
  exact ⟨asked, remote.trans towards.symm, lt_of_lt_of_eq (msgOk ok member).created created.symm⟩

theorem request_handled (attached : Attached cfg net) (flight : p ∈ net.flight) (type : p.hdr.msgType = .request) :
    ∃ rpc, (net.host p.dst).rpc.recvPkt cfg p.dst p = .ok rpc := by
  have data : p.isData = true := Packet.isData_of (Or.inl type)
  have sent := sent_of_flight ok flight
  obtain ⟨asked, here, created⟩ := asked_of_sent ok sent data type
  have fits := fits_of_flight ok flight (Packet.isGrant_of_isData data)
  have request : (net.msg p.src p.uniqReqId).isRequest = true := by
    by_contra reply
    have other := RpcInv.isRequest_of_type fits data
    rw [if_neg reply, type] at other
    cases other
  have rpc := (ok.host p.dst).rpc
  rw [ok.addr] at rpc
  have thread : cfg.attached p.dst p.hdr.srThreadId = true := by
    rw [here]
    exact (attached p.src _ asked).2
  unfold Rpc.recvPkt
  rw [type]
  exact ⟨_, (Rpc.handleRequestPkt_iff type).mpr ⟨rpc.request_first fits data request, fun _ => ⟨thread, created⟩, rfl⟩⟩

theorem reply_handled (attached : Attached cfg net) (flight : p ∈ net.flight) (type : p.hdr.msgType = .reply) :
    ∃ rpc, (net.host p.dst).rpc.recvPkt cfg p.dst p = .ok rpc := by
  have data : p.isData = true := Packet.isData_of (Or.inr type)
  obtain ⟨-, member, remote⟩ := part_of_sent ok (sent_of_flight ok flight) (Packet.isGrant_of_isData data)
  have fits := fits_of_flight ok flight (Packet.isGrant_of_isData data)
  have reply : (net.msg p.src p.uniqReqId).isRequest = false := by
    by_contra request
    rw [Bool.not_eq_false] at request
    have other := RpcInv.isRequest_of_type fits data
    rw [if_pos request, type] at other
    cases other
  have rpc := (ok.host p.dst).rpc
  rw [ok.addr] at rpc
  -- the client asked for the reply, and waits for it still
  obtain ⟨far, here⟩ : p.uniqReqId.clAddr ≠ p.src ∧ p.dst = p.uniqReqId.clAddr := by
    rcases msg_cases ok member with ⟨-, request, -⟩ | ⟨far, -, towards⟩
    · exact nomatch reply.symm.trans request
    · exact ⟨far, remote.trans towards⟩
  have known := (asked_of_reply ok member far).1
  rw [← here] at known
  have near : p.uniqReqId.clAddr = (net.host p.dst).thisAddr := here.symm.trans (ok.addr _).symm
  rcases (ok.host p.dst).own known with ⟨-, pending⟩ | ⟨away, -⟩
  · have found := Store.find_eq_some.mpr ⟨pending, rfl⟩
    obtain ⟨-, free, -⟩ := rpc.client_counted fits data reply found
    have asked := ((ok.host p.dst).entry _ known).sent
    rcases msg_cases ok known with ⟨-, request, -⟩ | ⟨other, -, -⟩
    · rw [show (net.host p.dst).snd.msg p.uniqReqId = net.msg p.dst p.uniqReqId from rfl, request, if_pos rfl] at asked
      have name := Host.tuple_uniqReqId (ok.host p.dst) known
      have thread : cfg.attached p.dst p.hdr.clThreadId = true := by
        have there := (attached p.dst _ asked).1
        have same : (net.msg p.dst p.uniqReqId).tuple.clThreadId = p.hdr.clThreadId :=
          congrArg UniqReqId.clThreadId name
        rwa [same] at there
      unfold Rpc.recvPkt
      rw [type]
      exact ⟨_, (Rpc.handleReplyPkt_iff type).mpr ⟨_, found, free, fun _ => thread, rfl⟩⟩
    · exact absurd here.symm other
  · exact absurd near away

end Handled

section Reached

variable {stamp : Stamp} (reach : Reach env cond net)

include reach

theorem Reach.handled (flight : p ∈ net.flight) (grant : p.isGrant = false) :
    ∃ rpc, (net.host p.dst).rpc.recvPkt env.cfg (net.host p.dst).thisAddr p = .ok rpc := by
  have ok := reach.ok
  rw [ok.addr]
  cases data : p.isData with
  | true =>
    unfold Packet.isData at data
    simp only [Bool.or_eq_true, beq_iff_eq] at data
    rcases data with request | reply
    · exact request_handled ok reach.attached flight request
    · exact reply_handled ok reach.attached flight reply
  | false =>
    obtain ⟨kind, -⟩ := part_of_sent ok (sent_of_flight ok flight) grant
    have type : p.hdr.msgType = .grantReq := by
      have req := kind.resolve_left (by rw [data]; decide)
      unfold Packet.isCreditReq at req
      exact beq_iff_eq.mp req
    unfold Rpc.recvPkt
    rw [type]
    exact ⟨_, rfl⟩

theorem Reach.deliver_iff_of_plain (plain : (net.host p.dst).Plain) (flight : p ∈ net.flight)
    (grant : p.isGrant = false) :
    (∃ net', net.fire env (.deliver p stamp) = .ok net') ↔ (net.host p.dst).Admits env p stamp := by
  have ok := reach.ok
  have fits : Fits env.cfg (net.host p.dst).thisAddr (net.host p.dst).rcvd p (net.host p.src).sendSide.out
      (net.msg p.src p.uniqReqId) := by
    rw [ok.addr]
    exact fits_of_flight ok flight grant
  rw [← Host.recv_succeeds_iff (ok.host p.dst).halves (reach.begun p.dst) (reach.grants flight) fits plain
    (reach.handled flight grant)]
  constructor
  · rintro ⟨net', run⟩
    unfold Net.fire at run
    simp only [Lib.bind_eq_ok] at run
    obtain ⟨h, received, -⟩ := run
    exact ⟨h, received⟩
  · intro received
    exact Lib.bind_succeeds received fun h _ => ⟨net.act p.dst (net.flight.erase p) h, rfl⟩

end Reached

theorem plain_of_rcvd {h h' : Host} (plain : h.Plain) (rcvd : h'.rcvd = h.rcvd) : h'.Plain := by
  unfold Host.Plain Host.arrived
  rw [rcvd]
  exact plain

theorem plain_act {addr : Addr} {flight : List Packet} {h : Host} (plain : ∀ a, (net.host a).Plain) (here : h.Plain) :
    ∀ a, ((net.act addr flight h).host a).Plain := by
  intro a
  rw [host_act]
  split
  · exact here
  · exact plain a

theorem plain_fire (reach : Reach env cond net) (plain : ∀ a, (net.host a).Plain) (enabled : net.Enabled env e)
    (run : net.fire env e = .ok net') : ∀ a, (net'.host a).Plain := by
  cases fire_cases reach.ok enabled run with
  | tick seconds => exact plain
  | request client server clThread srThread appLevelId n tuple h1 polls =>
    exact plain_act plain (plain_of_rcvd (plain client) polls.rcvd)
  | reply server thread n tuple rest st h1 polls => exact plain_act plain (plain_of_rcvd (plain server) polls.rcvd)
  | poll addr h polls => exact plain_act plain (plain_of_rcvd (plain addr) polls.rcvd)
  | deliver p stamp h1 h received polls arrives =>
    apply plain_act plain
    intro q inside type
    unfold Host.arrived at inside
    rw [arrives.rcvd, polls.rcvd] at inside
    obtain ⟨member, counts⟩ := List.mem_filter.mp inside
    rcases List.mem_append.mp member with old | new
    · exact plain p.dst q (List.mem_filter.mpr ⟨old, counts⟩) type
    · -- the packet came in, so that it was admitted
      obtain rfl := List.mem_singleton.mp new
      have data : q.isData = true := Packet.isData_of (Or.inr type)
      have multi : q.isSingleReply = false := by
        simp only [Bool.and_eq_true, Bool.not_eq_true'] at counts
        exact counts.2
      have admits := (reach.deliver_iff_of_plain (plain q.dst) enabled (Packet.isGrant_of_isData data)).mp ⟨_, run⟩
      exact (admits.pays data multi).plain type
  | collect addr => exact plain_act plain (plain_of_rcvd (plain addr) rfl)

theorem Reach.plain (reach : Reach env cond net) : ∀ a, (net.host a).Plain := by
  induction reach with
  | init =>
    intro a q inside
    cases inside
  | step before enabled _ run ih => exact plain_fire before ih enabled run

theorem Reach.deliver_iff (reach : Reach env cond net) {stamp : Stamp} (flight : p ∈ net.flight)
    (grant : p.isGrant = false) :
    (∃ net', net.fire env (.deliver p stamp) = .ok net') ↔ (net.host p.dst).Admits env p stamp :=
  reach.deliver_iff_of_plain (reach.plain p.dst) flight grant

/-- All of a message has been sent, and none of its data is in flight. -/
def Delivered (net : Net) (src : Addr) (id : UniqReqId) : Prop :=
  (net.msg src id).unsentBytes = 0 ∧ ∀ p ∈ net.flight, p.src = src → p.uniqReqId = id → p.isData = false

instance (net : Net) (src : Addr) (id : UniqReqId) : Decidable (net.Delivered src id) :=
  inferInstanceAs (Decidable (_ ∧ _))

section Whole

variable (ok : NetOk cfg net) (inside : id ∈ (net.msgs src).keys)

include ok inside

theorem dataOf_perm : (dataOf id (net.host src).sendSide.out).Perm (dataOf id (fromAddr src net.flight) ++
    dataOf id (net.host (net.msg src id).remoteAddr).rcvd) := by
  have towards : ∀ p ∈ (net.host src).sent, p.isData = true → p.uniqReqId = id →
    p.dst = (net.msg src id).remoteAddr := by
    intro p sent data of
    obtain ⟨-, -, remote⟩ := part_of_sent ok sent (Packet.isGrant_of_isData data)
    rw [of] at remote
    exact remote
  have out : dataOf id (net.host src).sendSide.out = dataOf id (net.host src).sent :=
    dataOf_filter fun p there => by
      rw [Packet.isGrant_of_isData (mem_dataOf.mp there).2.1]
      rfl
  have sent : dataOf id (toAddr (net.msg src id).remoteAddr (net.host src).sent) = dataOf id (net.host src).sent :=
    dataOf_filter fun p there => by
      obtain ⟨member, data, of⟩ := mem_dataOf.mp there
      exact beq_iff_eq.mpr (towards p member data of)
  have flying : dataOf id (fromAddr src (toAddr (net.msg src id).remoteAddr net.flight)) =
    dataOf id (fromAddr src net.flight) := by
    unfold fromAddr toAddr
    rw [List.filter_comm]
    apply dataOf_filter
    intro p there
    obtain ⟨member, data, of⟩ := mem_dataOf.mp there
    obtain ⟨flight, origin⟩ := mem_fromAddr.mp member
    have from_here := sent_of_flight ok flight
    rw [origin] at from_here
    exact beq_iff_eq.mpr (towards p from_here data of)
  have come : dataOf id (fromAddr src (net.host (net.msg src id).remoteAddr).rcvd) =
      dataOf id (net.host (net.msg src id).remoteAddr).rcvd :=
    dataOf_filter fun p there => by
      obtain ⟨member, data, of⟩ := mem_dataOf.mp there
      exact beq_iff_eq.mpr (src_of_rcvd ok inside rfl member (Or.inl data) of)
  have moved := (ok.link src (net.msg src id).remoteAddr).filter fun p => p.isData && p.uniqReqId == id
  rw [List.filter_append] at moved
  change (dataOf id (toAddr _ _)).Perm (dataOf id (fromAddr _ (toAddr _ _)) ++ dataOf id (fromAddr _ _)) at moved
  rw [sent, flying, come] at moved
  rw [out]
  exact moved

theorem dataHdr_of_arrived (arrived : q ∈ dataOf id (net.host (net.msg src id).remoteAddr).rcvd) :
    DataHdr src (net.msg src id) q := by
  have msgOk := msgOk ok inside
  have perm := dataOf_perm ok inside
  rw [← msg_reqId ok inside] at perm
  apply msgOk.data q (perm.symm.subset _)
  rw [msg_reqId ok inside]
  exact List.mem_append_right _ arrived

/-- All packets of a message have arrived when it is sent and none of its data is in flight. -/
theorem whole_iff_delivered :
    Whole (net.msg src id).isRequest (dataOf id (net.host (net.msg src id).remoteAddr).rcvd) ↔
    net.Delivered src id := by
  have msgOk := msgOk ok inside
  have count := (dataOf_perm ok inside).length_eq
  have lens := congrArg List.length msgOk.lens
  rw [msg_reqId ok inside, List.length_append, List.length_map] at lens
  rw [List.length_append] at count
  have some_frame : 0 < (ethernet.lens (net.msg src id).totalBytes).length := by
    rw [ethernet.lens_of_pos msgOk.total_pos, List.length_cons]
    exact Nat.succ_pos _
  have unsent : (ethernet.lens (net.msg src id).unsentBytes).length = 0 ↔ (net.msg src id).unsentBytes = 0 := by
    constructor
    · intro none
      have sum := ethernet.sum_lens (net.msg src id).unsentBytes
      rw [List.eq_nil_of_length_eq_zero none] at sum
      exact sum.symm
    · intro none
      rw [none, Lib.Framing.lens_zero]
      rfl
  have flying : (dataOf id (fromAddr src net.flight)).length = 0 ↔
      ∀ p ∈ net.flight, p.src = src → p.uniqReqId = id → p.isData = false := by
    rw [List.length_eq_zero_iff]
    constructor
    · intro none p flight origin of
      by_contra data
      rw [Bool.not_eq_false] at data
      have there := mem_dataOf.mpr ⟨mem_fromAddr.mpr ⟨flight, origin⟩, data, of⟩
      rw [none] at there
      cases there
    · intro none
      rw [List.eq_nil_iff_forall_not_mem]
      intro p there
      obtain ⟨member, data, of⟩ := mem_dataOf.mp there
      obtain ⟨flight, origin⟩ := mem_fromAddr.mp member
      exact nomatch data.symm.trans (none p flight origin of)
  -- pkt_id of each packet says how many there are
  have announced : ∀ q ∈ dataOf id (net.host (net.msg src id).remoteAddr).rcvd,
      q.hdr.pktId + extraPkts (net.msg src id).isRequest = (ethernet.lens (net.msg src id).totalBytes).length := by
    intro q arrived
    rw [(dataHdr_of_arrived ok inside arrived).pktId, msgOk.pktId]
    unfold extraPkts
    ring
  have all : Whole (net.msg src id).isRequest (dataOf id (net.host (net.msg src id).remoteAddr).rcvd) ↔
      (dataOf id (net.host (net.msg src id).remoteAddr).rcvd).length =
        (ethernet.lens (net.msg src id).totalBytes).length := by
    constructor
    · rintro ⟨q, arrived, whole⟩
      have := announced q arrived
      omega
    · intro whole
      obtain ⟨q, arrived⟩ := List.exists_mem_of_length_pos (lt_of_lt_of_eq some_frame whole.symm)
      exact ⟨q, arrived, by rw [announced q arrived, whole]⟩
  unfold Delivered
  rw [all, ← unsent, ← flying]
  omega

theorem payload_of_delivered (delivered : net.Delivered src id) :
    payloadSum (dataOf id (net.host (net.msg src id).remoteAddr).rcvd) = (net.msg src id).totalBytes := by
  have sum := (msgOk ok inside).payloadSum_add
  have perm := dataOf_perm ok inside
  have none : dataOf id (fromAddr src net.flight) = [] := by
    rw [List.eq_nil_iff_forall_not_mem]
    intro p there
    obtain ⟨member, data, of⟩ := mem_dataOf.mp there
    obtain ⟨flight, origin⟩ := mem_fromAddr.mp member
    exact nomatch data.symm.trans (delivered.2 p flight origin of)
  rw [msg_reqId ok inside, delivered.1, Nat.add_zero] at sum
  rw [none, List.nil_append] at perm
  rw [← payloadSum_perm perm, sum]

theorem handed_once {handed : List (ℕ × RequestIdTuple)}
    (once : HandedOnce (net.msg src id).isRequest id (dataOf id (net.host (net.msg src id).remoteAddr).rcvd) handed) :
    handed.filter (fun r => r.2.uniqReqId == id) =
      if net.Delivered src id then [((net.msg src id).totalBytes, (net.msg src id).tuple)] else [] := by
  split
  · next delivered =>
    obtain ⟨q, arrived, only⟩ := once.whole ((whole_iff_delivered ok inside).mpr delivered)
    have tuple : q.hdr.requestIdTuple = (net.msg src id).tuple := (dataHdr_of_arrived ok inside arrived).tuple
    rw [only, payload_of_delivered ok inside delivered, tuple]
  · next pending => exact once.part fun whole => pending ((whole_iff_delivered ok inside).mp whole)

end Whole

section Applications

variable (ok : NetOk cfg net) {r : ℕ × RequestIdTuple} {server : Addr}

include ok

/-- The server's application is handed a request once, when all of it has arrived; no other application is. -/
theorem requests_handed (asked : r ∈ (net.host client).rpc.reqSent) (a : Addr) :
    (net.host a).rpc.reqRecvd.filter (fun e => e.2.uniqReqId == r.2.uniqReqId) =
      if a = r.2.srAddr ∧ net.Delivered client r.2.uniqReqId then [r] else [] := by
  obtain ⟨inside, request, entry, remote, near, away⟩ := request_message ok asked
  have rpc := (ok.host a).rpc
  rw [ok.addr] at rpc
  by_cases here : a = r.2.srAddr
  · have far : r.2.uniqReqId.clAddr ≠ a := by
      rw [near, here]
      exact away.symm
    have once := rpc.recvd r.2.uniqReqId far
    rw [← request, here, ← remote] at once
    rw [here, ← remote, handed_once ok inside once, entry]
    simp only [true_and]
  · rw [if_neg fun h => here h.1, List.filter_eq_nil_iff]
    intro e handed of
    rw [beq_iff_eq] at of
    have far : r.2.uniqReqId.clAddr ≠ a := by
      rw [← of]
      exact rpc.foreign e handed
    -- data of the request came here, so that this is where its message goes
    obtain ⟨q, arrived, -⟩ := (rpc.recvd _ far).whole_of_mem handed of
    obtain ⟨rcvd, data, name⟩ := mem_dataOf.mp arrived
    obtain ⟨sent, towards⟩ := sent_of_rcvd ok rcvd
    obtain ⟨-, member, goes⟩ := part_of_sent ok sent (Packet.isGrant_of_isData data)
    rw [name] at member goes
    rcases msg_cases ok member with ⟨source, -, -⟩ | ⟨-, -, home⟩
    · rw [← source, near, remote, towards] at goes
      exact here goes
    · exact far (home.symm.trans (goes.symm.trans towards))

theorem replies_handed (answered : r ∈ (net.host server).rpc.respSent) :
    (net.host r.2.clAddr).rpc.reqSuccesses.filter (fun e => e.2.uniqReqId == r.2.uniqReqId) =
      if net.Delivered server r.2.uniqReqId then [r] else [] := by
  obtain ⟨inside, reply, entry, remote⟩ := reply_message ok answered
  have rpc := (ok.host r.2.clAddr).rpc
  rw [ok.addr] at rpc
  have once := rpc.success r.2.uniqReqId rfl
  rw [← reply, ← remote] at once
  rw [← remote, handed_once ok inside once, entry]

end Applications

section Delivery

variable {r : ℕ × RequestIdTuple} {server : Addr}

/-- In every run a packet of a request is accepted exactly when the server's host finds windows for the client and has
lent what the packet's data brings back, with what the packet itself takes. Whatever the order, the server's application
is handed the request once, with its last packet; no other application is. -/
theorem requests_delivered (reach : Reach env cond net) (asked : r ∈ (net.host client).rpc.reqSent) :
    (∀ p ∈ net.flight, p.src = client → p.uniqReqId = r.2.uniqReqId → p.isGrant = false → ∀ stamp,
      ((∃ net', net.fire env (.deliver p stamp) = .ok net') ↔
        ((net.host r.2.srAddr).senderOf env client).Takes env.cfg stamp ∧
          (p.isData = true → env.cfg.accountUnsched = true ∧
            (net.host r.2.srAddr).rcv.creditReplenished + p.wireCost ≤
              (net.host r.2.srAddr).rcv.creditGranted + ((net.host r.2.srAddr).rcv.current p).debit p))) ∧
    ∀ a, (net.host a).rpc.reqRecvd.filter (fun e => e.2.uniqReqId == r.2.uniqReqId) =
      if a = r.2.srAddr ∧ net.Delivered client r.2.uniqReqId then [r] else [] := by
  have ok := reach.ok
  refine ⟨fun p flight source of grant stamp => ?_, requests_handed ok asked⟩
  obtain ⟨-, request, -, remote, -⟩ := request_message ok asked
  have towards := (part_of_sent ok (sent_of_flight ok flight) grant).2.2
  have fits := fits_of_flight ok flight grant
  rw [source, of] at towards fits
  have type : p.isData = true → p.hdr.msgType = .request := by
    intro data
    have type := RpcInv.isRequest_of_type fits data
    rwa [request, if_pos rfl] at type
  rw [reach.deliver_iff flight grant, towards, remote]
  constructor
  · rintro ⟨windows, pays⟩
    rw [source] at windows
    refine ⟨windows, fun data => ?_⟩
    have multi : p.isSingleReply = false := by
      unfold Packet.isSingleReply
      rw [type data]
      rfl
    exact ⟨(pays data multi).accounts, (pays data multi).lent⟩
  · rintro ⟨windows, pays⟩
    rw [← source] at windows
    refine ⟨windows, fun data _ => ⟨(pays data).1, fun reply => ?_, (pays data).2⟩⟩
    exact nomatch reply.symm.trans (type data)

def firstRequest (n : ℕ) : ℕ × RequestIdTuple := (n, ⟨0, 0, 0, 1, 0, 0, simStart⟩)

def oneRequest (n : ℕ) : List (Net → Event) :=
  [fun _ => .request 0 1 0 0 0 n, fun _ => .tick (1 / 1000000), fun _ => .poll 0, deliverAt 0]

def polled (a : Addr) (times : ℕ) : List (Net → Event) :=
  (List.replicate times [fun _ => .tick (1 / 1000000), fun _ => .poll a]).flatten

def request (reqId n : ℕ) : ℕ × RequestIdTuple := (n, ⟨reqId, 0, 0, 1, 0, 0, simStart⟩)

/-- Two requests, of three packets and of two, ask for credit and get it; their packets arrive out of order, the
last one of the first request first. -/
def requestsScrambled : List (Net → Event) :=
  [fun _ => .request 0 1 0 0 0 3000, fun _ => .request 0 1 0 0 0 2000] ++ polled 0 1 ++ [deliverAt 1, deliverAt 0] ++
    polled 1 5 ++ [deliverAt 4, deliverAt 0, deliverAt 2, deliverAt 1, deliverAt 0] ++ polled 0 5 ++
    [deliverAt 4, deliverAt 1, deliverAt 2, deliverAt 0, deliverAt 0]

theorem requests_delivered_scrambled : ∃ net, Reachable tenFrames net ∧ (net.host 1).rpc.reqRecvd.length = 2 ∧
    (net.host 1).rpc.reqRecvd.filter (fun e => e.2.uniqReqId == (request 0 3000).2.uniqReqId) = [request 0 3000] ∧
    (net.host 1).rpc.reqRecvd.filter (fun e => e.2.uniqReqId == (request 1 2000).2.uniqReqId) = [request 1 2000] := by
  have ran : ((init tenFrames.cfg).run tenFrames requestsScrambled).map (fun net =>
      ((net.host 1).rpc.reqRecvd.length, decide (request 0 3000 ∈ (net.host 0).rpc.reqSent),
        decide (net.Delivered 0 (request 0 3000).2.uniqReqId), decide (request 1 2000 ∈ (net.host 0).rpc.reqSent),
        decide (net.Delivered 0 (request 1 2000).2.uniqReqId))) = some (2, true, true, true, true) := by decide +kernel
  obtain ⟨net, run, values⟩ := Option.map_eq_some_iff.mp ran
  simp only [Prod.mk.injEq, decide_eq_true_eq] at values
  obtain ⟨two, asked, delivered, asked', delivered'⟩ := values
  have reach : Reachable tenFrames net := Reach.run .init (fun _ _ _ => trivial) run
  have handed := (requests_delivered reach asked).2 1
  have handed' := (requests_delivered reach asked').2 1
  rw [if_pos ⟨rfl, delivered⟩] at handed
  rw [if_pos ⟨rfl, delivered'⟩] at handed'
  exact ⟨net, reach, two, handed, handed'⟩

/-- The second one of two requests credits itself for its first packet, and the first request for itself and more. -/
def secondRequest : ℕ × RequestIdTuple := (2916, ⟨1, 0, 0, 1, 0, 0, simStart⟩)

/-- Both packets of the second request are in front of the first request's; the first of them has arrived. -/
def requestOvertakes : List (Net → Event) :=
  [fun _ => .request 0 1 0 0 0 4374, fun _ => .request 0 1 0 0 0 2916, fun _ => .tick (1 / 1000000), fun _ => .poll 0,
    fun _ => .tick (1 / 1000000), fun _ => .poll 0, fun _ => .tick (1 / 1000000), fun _ => .poll 0, deliverAt 1]

/-- The last packet of the request is refused, since credit of the first request has paid for it. -/
theorem request_refused : ∃ net, Reachable allUnsolicited net ∧ secondRequest ∈ (net.host 0).rpc.reqSent ∧
    (net.msg 0 secondRequest.2.uniqReqId).unsentBytes = 0 ∧ (dataOf secondRequest.2.uniqReqId net.flight).length = 1 ∧
    ∀ p ∈ dataOf secondRequest.2.uniqReqId net.flight, net.fire allUnsolicited (.deliver p {}) =
      .error (.assertion .receivedData "stats->credit_replenished_ <= stats->credit_granted_") := by
  have ran : ((init allUnsolicited.cfg).run allUnsolicited requestOvertakes).map (fun net =>
      (decide (secondRequest ∈ (net.host 0).rpc.reqSent), (net.msg 0 secondRequest.2.uniqReqId).unsentBytes,
        (dataOf secondRequest.2.uniqReqId net.flight).map fun p =>
          (net.fire allUnsolicited (.deliver p {})).map fun _ => ())) =
      some (true, 0, [.error (.assertion .receivedData "stats->credit_replenished_ <= stats->credit_granted_")]) := by
    decide +kernel
  obtain ⟨net, run, values⟩ := Option.map_eq_some_iff.mp ran
  simp only [Prod.mk.injEq, decide_eq_true_eq] at values
  obtain ⟨asked, unsent, refused⟩ := values
  obtain ⟨one, stops⟩ := Lib.fails_of_map refused
  exact ⟨net, Reach.run .init (fun _ _ _ => trivial) run, asked, unsent, one, stops⟩

/-- In every run a packet of a reply is accepted exactly when the client's host finds windows for the server and, if the
reply needs more than one packet, the reply did not credit itself and the data brings back what was lent. Whatever the
order, the client's application is handed the reply once, with its last packet. -/
theorem replies_delivered (reach : Reach env cond net) (answered : r ∈ (net.host server).rpc.respSent) :
    (∀ p ∈ net.flight, p.src = server → p.uniqReqId = r.2.uniqReqId → p.isGrant = false → ∀ stamp,
      ((∃ net', net.fire env (.deliver p stamp) = .ok net') ↔
        ((net.host r.2.clAddr).senderOf env server).Takes env.cfg stamp ∧
          (p.isData = true → maxR2p2Payload < r.1 → ¬ Sender.unsolicited env.cfg r.1 ∧ env.cfg.accountUnsched = true ∧
            (net.host r.2.clAddr).rcv.creditReplenished + p.wireCost ≤ (net.host r.2.clAddr).rcv.creditGranted))) ∧
    (net.host r.2.clAddr).rpc.reqSuccesses.filter (fun e => e.2.uniqReqId == r.2.uniqReqId) =
      if net.Delivered server r.2.uniqReqId then [r] else [] := by
  have ok := reach.ok
  refine ⟨fun p flight source of grant stamp => ?_, replies_handed ok answered⟩
  obtain ⟨-, reply, entry, remote⟩ := reply_message ok answered
  have towards := (part_of_sent ok (sent_of_flight ok flight) grant).2.2
  have fits := fits_of_flight ok flight grant
  rw [source, of] at towards fits
  have total : (net.msg server r.2.uniqReqId).totalBytes = r.1 := congrArg Prod.fst entry
  have announces : p.isData = true → (0 < p.hdr.creditReq ↔ Sender.unsolicited env.cfg r.1) := by
    intro data
    rw [fits.announces_iff_unsolicited data, total]
  have several : p.isData = true → (p.isSingleReply = false ↔ maxR2p2Payload < r.1) := by
    intro data
    rw [← Bool.not_eq_true, fits.single_iff data reply, total, not_le]
  have type : p.isData = true → p.hdr.msgType = .reply := by
    intro data
    have type := RpcInv.isRequest_of_type fits data
    rwa [reply, if_neg Bool.false_ne_true] at type
  -- data that does not announce its message takes nothing
  have debit : p.hdr.creditReq = 0 → ((net.host r.2.clAddr).rcv.current p).debit p = 0 := by
    intro silent
    apply if_neg
    rintro ⟨learns, -⟩
    have told := ((InboundMsgState.learns_iff _ p).mp learns).1
    omega
  rw [reach.deliver_iff flight grant, towards, remote]
  constructor
  · rintro ⟨windows, pays⟩
    rw [source] at windows
    refine ⟨windows, fun data large => ?_⟩
    obtain ⟨accounts, plain, lent⟩ := pays data ((several data).mpr large)
    have silent := plain (type data)
    rw [debit silent, add_zero] at lent
    refine ⟨fun unsolicited => ?_, accounts, lent⟩
    have told := (announces data).mpr unsolicited
    omega
  · rintro ⟨windows, pays⟩
    rw [← source] at windows
    refine ⟨windows, fun data multi => ?_⟩
    obtain ⟨scheduled, accounts, lent⟩ := pays data ((several data).mp multi)
    have silent : p.hdr.creditReq = 0 := by
      by_contra told
      exact scheduled ((announces data).mp (Nat.pos_of_ne_zero told))
    refine ⟨accounts, fun _ => silent, ?_⟩
    rw [debit silent, add_zero]
    exact lent

/-- The reply to the first request, sent when the request has arrived. -/
def firstReply (n : ℕ) : ℕ × RequestIdTuple := (n, ⟨0, 0, 0, 1, 0, 0, simStart + 1 / 1000000⟩)

/-- A request of 100 bytes is answered, and the first packet of the answer leaves. -/
def oneReply (n : ℕ) : List (Net → Event) :=
  oneRequest 100 ++ [fun _ => .reply 1 0 n, fun _ => .tick (1 / 1000000), fun _ => .poll 1]

/-- Two replies of two packets each, under way together; one is whole before the first packet of the other arrives. -/
def repliesScrambled : List (Net → Event) :=
  [fun _ => .request 0 1 0 0 0 100, fun _ => .request 0 1 0 0 0 100] ++ polled 0 2 ++ [deliverAt 1, deliverAt 0] ++
    [fun _ => .reply 1 0 2000, fun _ => .reply 1 0 1500] ++ polled 1 1 ++ [deliverAt 1, deliverAt 0] ++ polled 0 2 ++
    [deliverAt 1, deliverAt 0] ++ polled 1 2 ++ [deliverAt 1] ++ polled 0 1 ++ [deliverAt 1] ++ polled 1 1 ++
    [deliverAt 1] ++ polled 0 1 ++ [deliverAt 1] ++ polled 1 1 ++ [deliverAt 1, deliverAt 0]

def reply (reqId n : ℕ) : ℕ × RequestIdTuple := (n, ⟨reqId, 0, 0, 1, 0, 0, simStart + 2 / 1000000⟩)

theorem replies_delivered_scrambled : ∃ net, Reachable (shortUnsolicited 0) net ∧
    (net.host 0).rpc.reqSuccesses.length = 2 ∧
    (net.host 0).rpc.reqSuccesses.filter (fun e => e.2.uniqReqId == (reply 0 2000).2.uniqReqId) = [reply 0 2000] ∧
    (net.host 0).rpc.reqSuccesses.filter (fun e => e.2.uniqReqId == (reply 1 1500).2.uniqReqId) = [reply 1 1500] := by
  have ran : ((init (shortUnsolicited 0).cfg).run (shortUnsolicited 0) repliesScrambled).map (fun net =>
      ((net.host 0).rpc.reqSuccesses.length, decide (reply 0 2000 ∈ (net.host 1).rpc.respSent),
        decide (net.Delivered 1 (reply 0 2000).2.uniqReqId), decide (reply 1 1500 ∈ (net.host 1).rpc.respSent),
        decide (net.Delivered 1 (reply 1 1500).2.uniqReqId))) = some (2, true, true, true, true) := by decide +kernel
  obtain ⟨net, run, values⟩ := Option.map_eq_some_iff.mp ran
  simp only [Prod.mk.injEq, decide_eq_true_eq] at values
  obtain ⟨two, answered, delivered, answered', delivered'⟩ := values
  have reach : Reachable (shortUnsolicited 0) net := Reach.run .init (fun _ _ _ => trivial) run
  have handed := (replies_delivered reach answered).2
  have handed' := (replies_delivered reach answered').2
  rw [if_pos delivered] at handed
  rw [if_pos delivered'] at handed'
  exact ⟨net, reach, two, handed, handed'⟩

/-- A reply of two packets is refused, since its data announces it. -/
theorem reply_refused : ∃ net, Reachable allUnsolicited net ∧ firstReply 1459 ∈ (net.host 1).rpc.respSent ∧
    (dataOf (firstReply 1459).2.uniqReqId net.flight).length = 1 ∧
    ∀ p ∈ dataOf (firstReply 1459).2.uniqReqId net.flight, net.fire allUnsolicited (.deliver p {}) =
      .error (.assertion .recv "msg_type() == GRANT_REQ || msg_type() == REQUEST") := by
  have ran : ((init allUnsolicited.cfg).run allUnsolicited (oneReply 1459)).map (fun net =>
      (decide (firstReply 1459 ∈ (net.host 1).rpc.respSent),
        (dataOf (firstReply 1459).2.uniqReqId net.flight).map fun p =>
          (net.fire allUnsolicited (.deliver p {})).map fun _ => ())) =
      some (true, [.error (.assertion .recv "msg_type() == GRANT_REQ || msg_type() == REQUEST")]) := by decide +kernel
  obtain ⟨net, run, values⟩ := Option.map_eq_some_iff.mp ran
  simp only [Prod.mk.injEq, decide_eq_true_eq] at values
  obtain ⟨answered, refused⟩ := values
  obtain ⟨one, stops⟩ := Lib.fails_of_map refused
  exact ⟨net, Reach.run .init (fun _ _ _ => trivial) run, answered, one, stops⟩

end Delivery

end Net

end PhantomPass
