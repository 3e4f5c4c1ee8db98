import PhantomPass.Network
import PhantomPass.Refinement.Host

/-! Between two hosts nothing is lost and nothing is made up: what one sent the
other is in flight or has arrived. So every packet in flight is one that its
destination can expect. -/

set_option autoImplicit false

namespace PhantomPass

open Lib (Store)

namespace Net

variable {cfg : Config} {env : Env} {net net' : Net} {e : Event}

/-- What holds of all hosts and of the packets between them. -/
structure NetOk (cfg : Config) (net : Net) : Prop where
  clock : 10 ≤ net.clock
  addr : ∀ a, (net.host a).thisAddr = a
  host : ∀ a, Host.HostOk cfg (net.host a)
  link : ∀ src dst, (toAddr dst (net.host src).sent).Perm
    (fromAddr src (toAddr dst net.flight) ++ fromAddr src (net.host dst).rcvd)

theorem NetOk.init (cfg : Config) : NetOk cfg (init cfg) where
  clock := le_refl _
  addr _ := rfl
  host a := .init cfg a
  link _ _ := .refl _

section Facts

variable (ok : NetOk cfg net) {src dst : Addr} {p q : Packet} {id : UniqReqId}

def msgs (net : Net) (src : Addr) : Store UniqReqId OutboundMsgState := (net.host src).snd.outbound

def msg (net : Net) (src : Addr) (id : UniqReqId) : OutboundMsgState := (net.host src).snd.msg id

include ok

theorem sent_of_flight (inside : p ∈ net.flight) : p ∈ (net.host p.src).sent := by
  have there : p ∈ toAddr p.dst (net.host p.src).sent := (ok.link p.src p.dst).symm.subset
    (List.mem_append_left _ (mem_fromAddr.mpr ⟨mem_toAddr.mpr ⟨inside, rfl⟩, rfl⟩))
  exact (mem_toAddr.mp there).1

theorem sent_of_rcvd (inside : q ∈ (net.host dst).rcvd) : q ∈ (net.host q.src).sent ∧ q.dst = dst := by
  have there : q ∈ toAddr dst (net.host q.src).sent := (ok.link q.src dst).symm.subset
    (List.mem_append_right _ (mem_fromAddr.mpr ⟨inside, rfl⟩))
  exact mem_toAddr.mp there

theorem src_of_sent (sent : q ∈ (net.host src).sent) : q.src = src :=
  ((ok.host src).halves.send.numbered.src q sent).trans (ok.addr src)

theorem msgOk (inside : id ∈ (net.msgs src).keys) : MsgOk cfg src (net.host src).sendSide.out (net.msg src id) := by
  have msgOk : MsgOk cfg (net.host src).thisAddr _ (net.msg src id) := (ok.host src).halves.send.inv.msg id inside
  rwa [ok.addr] at msgOk

theorem msg_reqId (inside : id ∈ (net.msgs src).keys) : (net.msg src id).reqId = id :=
  (ok.host src).halves.send.inv.names id inside

theorem part_of_sent (sent : q ∈ (net.host src).sent) (grant : q.isGrant = false) :
    (q.isData = true ∨ q.isCreditReq = true) ∧ q.uniqReqId ∈ (net.msgs src).keys ∧
      q.dst = (net.msg src q.uniqReqId).remoteAddr := by
  have out : q ∈ (net.host src).sendSide.out := List.mem_filter.mpr ⟨sent, by rw [grant]; rfl⟩
  obtain ⟨kind, inside⟩ := (ok.host src).halves.send.inv.owned q out
  have name := msg_reqId ok inside
  refine ⟨kind, inside, ?_⟩
  have packet := (msgOk ok inside).packet (p := q)
  rw [name] at packet
  rcases kind with data | req
  · exact (packet (Or.inl (mem_dataOf.mpr ⟨out, data, rfl⟩))).2.1
  · exact (packet (Or.inr (mem_creditReqsOf.mpr ⟨out, req, rfl⟩))).2.1

/-- A message is a request of its host, or else a reply to the client that its name says. -/
theorem msg_cases (inside : id ∈ (net.msgs src).keys) :
    id.clAddr = src ∧ (net.msg src id).isRequest = true ∧ (net.msg src id).remoteAddr ≠ src ∨
      id.clAddr ≠ src ∧ (net.msg src id).isRequest = false ∧ (net.msg src id).remoteAddr = id.clAddr := by
  have msgOk := msgOk ok inside
  have name := msg_reqId ok inside
  cases request : (net.msg src id).isRequest with
  | true =>
    have near := msgOk.request request
    rw [name] at near
    exact Or.inl ⟨near, rfl, msgOk.remote⟩
  | false =>
    have towards := msgOk.reply request
    rw [name] at towards
    exact Or.inr ⟨fun near => msgOk.remote (towards.symm.trans near), rfl, towards.symm⟩

theorem request_message {r : ℕ × RequestIdTuple} {client : Addr} (asked : r ∈ (net.host client).rpc.reqSent) :
    r.2.uniqReqId ∈ (net.msgs client).keys ∧ (net.msg client r.2.uniqReqId).isRequest = true ∧
      ((net.msg client r.2.uniqReqId).totalBytes, (net.msg client r.2.uniqReqId).tuple) = r ∧
      (net.msg client r.2.uniqReqId).remoteAddr = r.2.srAddr ∧ r.2.uniqReqId.clAddr = client ∧ r.2.srAddr ≠ client := by
  obtain ⟨inside, request, total, tuple⟩ :
      r.2.uniqReqId ∈ (net.msgs client).keys ∧ (net.msg client r.2.uniqReqId).isRequest = true ∧
        (net.msg client r.2.uniqReqId).totalBytes = r.1 ∧ (net.msg client r.2.uniqReqId).tuple = r.2 :=
    (ok.host client).asked r asked
  have remote : (net.msg client r.2.uniqReqId).remoteAddr = r.2.srAddr := by
    have towards := ((ok.host client).entry _ inside).remote request
    change (net.msg client r.2.uniqReqId).remoteAddr = (net.msg client r.2.uniqReqId).tuple.srAddr at towards
    rw [towards, tuple]
  refine ⟨inside, request, Prod.ext total tuple, remote, ?_⟩
  rcases msg_cases ok inside with ⟨near, -, away⟩ | ⟨-, reply, -⟩
  · rw [remote] at away
    exact ⟨near, away⟩
  · exact nomatch request.symm.trans reply

theorem reply_message {r : ℕ × RequestIdTuple} {server : Addr} (answered : r ∈ (net.host server).rpc.respSent) :
    r.2.uniqReqId ∈ (net.msgs server).keys ∧ (net.msg server r.2.uniqReqId).isRequest = false ∧
      ((net.msg server r.2.uniqReqId).totalBytes, (net.msg server r.2.uniqReqId).tuple) = r ∧
      (net.msg server r.2.uniqReqId).remoteAddr = r.2.clAddr := by
  obtain ⟨inside, reply, total, tuple⟩ :
      r.2.uniqReqId ∈ (net.msgs server).keys ∧ (net.msg server r.2.uniqReqId).isRequest = false ∧
        (net.msg server r.2.uniqReqId).totalBytes = r.1 ∧ (net.msg server r.2.uniqReqId).tuple = r.2 :=
    (ok.host server).answered r answered
  refine ⟨inside, reply, Prod.ext total tuple, ?_⟩
  rcases msg_cases ok inside with ⟨-, request, -⟩ | ⟨-, -, towards⟩
  · exact nomatch reply.symm.trans request
  · exact towards

theorem asked_of_reply (inside : id ∈ (net.msgs src).keys) (far : id.clAddr ≠ src) :
    id ∈ (net.msgs id.clAddr).keys ∧ (net.msg id.clAddr id).remoteAddr = src := by
  rcases (ok.host src).own inside with ⟨near, -⟩ | ⟨-, e, answered, name⟩
  · exact absurd (near.trans (ok.addr src)) far
  · have rpc := (ok.host src).rpc
    rw [ok.addr] at rpc
    obtain ⟨e', recvd, same⟩ := rpc.answered e answered
    have name' : e'.2.uniqReqId = id := by
      rw [← name, same]
      rfl
    obtain ⟨q, arrived, -⟩ := (rpc.recvd id far).whole_of_mem recvd name'
    obtain ⟨rcvd, data, of⟩ := mem_dataOf.mp arrived
    obtain ⟨sent, towards⟩ := sent_of_rcvd ok rcvd
    obtain ⟨-, member, remote⟩ := part_of_sent ok sent (Packet.isGrant_of_isData data)
    rw [of] at member remote
    rw [towards] at remote
    rcases msg_cases ok member with ⟨near, -, -⟩ | ⟨-, -, client⟩
    · rw [near]
      exact ⟨member, remote.symm⟩
    · exact absurd (client.symm.trans remote.symm) far

theorem source_unique {src' : Addr} (inside : id ∈ (net.msgs src).keys) (inside' : id ∈ (net.msgs src').keys)
    (same : (net.msg src id).remoteAddr = (net.msg src' id).remoteAddr) : src = src' := by
  rcases msg_cases ok inside with ⟨near, -, away⟩ | ⟨far, -, client⟩
  · rcases msg_cases ok inside' with ⟨near', -, -⟩ | ⟨-, -, client'⟩
    · exact near.symm.trans near'
    · exact absurd (same.trans (client'.trans near)) away
  · rcases msg_cases ok inside' with ⟨near', -, away'⟩ | ⟨far', -, -⟩
    · exact absurd (same.symm.trans (client.trans near')) away'
    · have one := (asked_of_reply ok inside far).2
      have other := (asked_of_reply ok inside' far').2
      exact one.symm.trans other

theorem src_of_rcvd (inside : id ∈ (net.msgs src).keys) (towards : (net.msg src id).remoteAddr = dst)
    (rcvd : q ∈ (net.host dst).rcvd) (kind : q.isData = true ∨ q.isCreditReq = true) (of : q.uniqReqId = id) :
    q.src = src := by
  obtain ⟨sent, here⟩ := sent_of_rcvd ok rcvd
  obtain ⟨-, member, remote⟩ := part_of_sent ok sent (Packet.isGrant_of_part kind)
  rw [of] at member remote
  exact source_unique ok member inside (remote.symm.trans (here.trans towards.symm))

theorem packet_of_rcvd (inside : id ∈ (net.msgs src).keys) (rcvd : q ∈ (net.host (net.msg src id).remoteAddr).rcvd)
    (kind : q.isData = true ∨ q.isCreditReq = true) (of : q.uniqReqId = id) :
    q.src = src ∧ q.hdr.unsolCredit = (net.msg src id).selfAllocCredit ∧
      q.hdr.unsolCreditData = (net.msg src id).selfAllocCreditData ∧
      (q.hdr.creditReq = 0 ∨ q.hdr.creditReq = (net.msg src id).totalBytes) := by
  have origin := src_of_rcvd ok inside rfl rcvd kind of
  have sent := (sent_of_rcvd ok rcvd).1
  rw [origin] at sent
  have out : q ∈ (net.host src).sendSide.out := List.mem_filter.mpr ⟨sent, by rw [Packet.isGrant_of_part kind]; rfl⟩
  have name := msg_reqId ok inside
  have one : q ∈ dataOf (net.msg src id).reqId (net.host src).sendSide.out ∨
      q ∈ creditReqsOf (net.msg src id).reqId (net.host src).sendSide.out := by
    rw [name]
    rcases kind with data | req
    · exact Or.inl (mem_dataOf.mpr ⟨out, data, of⟩)
    · exact Or.inr (mem_creditReqsOf.mpr ⟨out, req, of⟩)
  obtain ⟨-, -, -, unsol, unsolData, creditReq⟩ := (msgOk ok inside).packet one
  refine ⟨origin, unsol, unsolData, ?_⟩
  split at creditReq
  · exact Or.inl creditReq
  · exact Or.inr creditReq

theorem subperm_of_flight (inside : p ∈ net.flight) {keep : Packet → Bool}
    (parts : ∀ q, keep q = true → (q.isData = true ∨ q.isCreditReq = true) ∧ q.uniqReqId = p.uniqReqId)
    (grant : p.isGrant = false) :
    (((net.host p.dst).rcvd ++ [p]).filter keep).Subperm ((net.host p.src).sendSide.out.filter keep) := by
  have sent := sent_of_flight ok inside
  obtain ⟨-, member, remote⟩ := part_of_sent ok sent grant
  have own : (net.host p.dst).rcvd.filter keep = (fromAddr p.src (net.host p.dst).rcvd).filter keep := by
    unfold fromAddr
    rw [List.filter_filter]
    refine List.filter_congr fun q rcvd => ?_
    cases kept : keep q with
    | false => rfl
    | true =>
      obtain ⟨kind, of⟩ := parts q kept
      have src := src_of_rcvd ok member remote.symm rcvd kind of
      simp [src]
  have single : [p].Subperm (fromAddr p.src (toAddr p.dst net.flight)) :=
    List.singleton_subperm_iff.mpr (mem_fromAddr.mpr ⟨mem_toAddr.mpr ⟨inside, rfl⟩, rfl⟩)
  have both : ([p] ++ fromAddr p.src (net.host p.dst).rcvd).Subperm (toAddr p.dst (net.host p.src).sent) :=
    ((List.subperm_append_right _).mpr single).trans (ok.link p.src p.dst).symm.subperm
  have all : ([p] ++ fromAddr p.src (net.host p.dst).rcvd).Subperm (net.host p.src).sent :=
    both.trans List.filter_sublist.subperm
  have out : (net.host p.src).sendSide.out.filter keep = (net.host p.src).sent.filter keep := by
    change ((net.host p.src).sent.filter fun q => !q.isGrant).filter keep = _
    rw [List.filter_filter]
    refine List.filter_congr fun q _ => ?_
    cases kept : keep q with
    | false => rfl
    | true => rw [Packet.isGrant_of_part (parts q kept).1]; rfl
  rw [out, List.filter_append, own, ← List.filter_append]
  exact (List.perm_append_comm.filter keep).subperm.trans (all.filter keep)

theorem fits_of_flight (inside : p ∈ net.flight) (grant : p.isGrant = false) :
    Fits cfg p.dst (net.host p.dst).rcvd p (net.host p.src).sendSide.out (net.msg p.src p.uniqReqId) := by
  have sent := sent_of_flight ok inside
  obtain ⟨kind, member, remote⟩ := part_of_sent ok sent grant
  have name := msg_reqId ok member
  refine ⟨msgOk ok member, name.symm, remote.symm, kind, ?_, ?_⟩
  · rw [name]
    refine subperm_of_flight ok inside (fun q kept => ?_) grant
    simp only [Bool.and_eq_true, beq_iff_eq] at kept
    exact ⟨Or.inl kept.1, kept.2⟩
  · rw [name]
    refine subperm_of_flight ok inside (fun q kept => ?_) grant
    simp only [Bool.and_eq_true, beq_iff_eq] at kept
    exact ⟨Or.inr kept.1, kept.2⟩

theorem part_of_flight (inside : p ∈ net.flight) (grant : p.isGrant = false) :
    ∃ out m, Fits cfg p.dst (net.host p.dst).rcvd p out m := ⟨_, _, fits_of_flight ok inside grant⟩

theorem heard_of_grant (sent : p ∈ (net.host src).sent) (grant : p.isGrant = true) :
    0 ≤ p.hdr.credit ∧ ∃ q ∈ (net.host p.dst).sent, (q.isData = true ∨ q.isCreditReq = true) ∧ q.uniqReqId =
    p.uniqReqId := by
  have inv := (ok.host src).halves.recv.inv
  have issued : p ∈ ((net.host src).recvSide cfg).grants := List.mem_filter.mpr ⟨sent, grant⟩
  obtain ⟨known, grantPkt⟩ := inv.grants p issued
  obtain ⟨q, arrived, of, -, origin⟩ := inv.first _ known
  have kind := (inv.arrived q arrived).1
  obtain ⟨there, -⟩ := sent_of_rcvd ok (List.mem_of_mem_filter arrived)
  rw [origin, ← grantPkt.dst] at there
  refine ⟨?_, q, there, kind, of⟩
  rw [grantPkt.credit]
  exact Int.natCast_nonneg _

theorem expected_of_flight (inside : p ∈ net.flight) : Host.Expected cfg (net.host p.dst) p where
  grant grant := heard_of_grant ok (sent_of_flight ok inside) grant
  part grant := by
    rw [ok.addr]
    exact part_of_flight ok inside grant

end Facts

section Step

variable {addr : Addr} {flight got more : List Packet} {h : Host}

theorem fromAddr_own (own : ∀ p ∈ more, p.src = addr) (src dst : Addr) :
    fromAddr src (toAddr dst more) = if src = addr then toAddr dst more else [] := by
  split
  · next here =>
    refine List.filter_eq_self.mpr fun p inside => ?_
    rw [own p (mem_toAddr.mp inside).1, here]
    exact beq_self_eq_true addr
  · next other =>
    refine List.filter_eq_nil_iff.mpr fun p inside => ?_
    rw [own p (mem_toAddr.mp inside).1, beq_iff_eq]
    exact fun here => other here.symm

theorem toAddr_own (own : ∀ p ∈ got, p.dst = addr) (dst : Addr) : toAddr dst got = if dst = addr then got else [] := by
  split
  · next here =>
    refine List.filter_eq_self.mpr fun p inside => ?_
    rw [own p inside, here]
    exact beq_self_eq_true addr
  · next other =>
    refine List.filter_eq_nil_iff.mpr fun p inside => ?_
    rw [own p inside, beq_iff_eq]
    exact fun here => other here.symm

theorem fromAddr_ite (c : Prop) [Decidable c] (src : Addr) (log : List Packet) :
    fromAddr src (if c then log else []) = if c then fromAddr src log else [] := by
  split
  · rfl
  · rfl

theorem NetOk.act (ok : NetOk cfg net) (hostOk : Host.HostOk cfg h) (same : h.thisAddr = addr)
    (perm : net.flight.Perm (got ++ flight)) (here : ∀ p ∈ got, p.dst = addr)
    (sent : ∃ more, h.sent = (net.host addr).sent ++ more) (rcvd : h.rcvd = (net.host addr).rcvd ++ got) :
    NetOk cfg (net.act addr flight h) := by
  obtain ⟨more, sent⟩ := sent
  have own : ∀ p ∈ more, p.src = addr := by
    intro p inside
    rw [← same]
    exact hostOk.halves.send.numbered.src p (by rw [sent]; exact List.mem_append_right _ inside)
  have flying : (net.act addr flight h).flight = flight ++ more := by
    unfold Net.act
    rw [sent, List.drop_left]
  refine ⟨ok.clock, fun a => ?_, fun a => ?_, fun src dst => ?_⟩
  · rw [host_act]
    split
    · next this => rw [same, this]
    · exact ok.addr a
  · rw [host_act]
    split
    · exact hostOk
    · exact ok.host a
  · have sends : toAddr dst ((net.act addr flight h).host src).sent =
        toAddr dst (net.host src).sent ++ fromAddr src (toAddr dst more) := by
      rw [host_act, fromAddr_own own]
      split
      · next this => rw [sent, this, toAddr_append]
      · rw [List.append_nil]
    have gets : fromAddr src ((net.act addr flight h).host dst).rcvd =
        fromAddr src (net.host dst).rcvd ++ fromAddr src (toAddr dst got) := by
      rw [host_act, toAddr_own here, fromAddr_ite]
      split
      · next this => rw [rcvd, this, fromAddr_append]
      · rw [List.append_nil]
    rw [sends, gets, flying, toAddr_append, fromAddr_append]
    -- the packets that arrive change sides, those that leave join both
    rw [List.perm_iff_count]
    intro p
    have before := List.perm_iff_count.mp (ok.link src dst) p
    have moved := List.perm_iff_count.mp ((perm.filter fun q => q.dst == dst).filter fun q => q.src == src) p
    rw [List.filter_append, List.filter_append] at moved
    change List.count p (fromAddr src (toAddr dst net.flight)) =
      List.count p (fromAddr src (toAddr dst got) ++ fromAddr src (toAddr dst flight)) at moved
    simp only [List.count_append] at before moved ⊢
    omega

end Step

section Run

variable {addr : Addr} {h h1 : Host}

theorem NetOk.polls (ok : NetOk cfg net) {h0 : Host} (hostOk : Host.HostOk cfg h) (polls : Host.Polls cfg h0 h1)
    (sent0 : h0.sent = (net.host addr).sent) (rcvd0 : h0.rcvd = (net.host addr).rcvd)
    (addr0 : h0.thisAddr = (net.host addr).thisAddr) (sent : h.sent = h1.sent) (rcvd : h.rcvd = h1.rcvd)
    (same : h.thisAddr = h1.thisAddr) : NetOk cfg (net.act addr net.flight h) := by
  refine ok.act hostOk ?_ (show net.flight.Perm ([] ++ net.flight) from .refl _) (fun p inside =>
    absurd inside List.not_mem_nil) ?_ ?_
  · rw [same, polls.thisAddr, addr0, ok.addr]
  · rw [sent, ← sent0]
    exact polls.sent
  · rw [rcvd, polls.rcvd, rcvd0, List.append_nil]

theorem NetOk.fire (ok : NetOk env.cfg net) (enabled : net.Enabled env e) (run : net.fire env e = .ok net') :
    NetOk env.cfg net' := by
  cases e with
  | tick seconds =>
    unfold Net.fire at run
    rw [Lib.pure_eq_ok] at run
    subst run
    have later : 10 ≤ net.clock + seconds := le_trans ok.clock (le_add_of_nonneg_right enabled)
    exact { ok with clock := later }
  | request client server clThread srThread appLevelId n =>
    unfold Net.fire at run
    simp only [Lib.bind_eq_ok, Lib.pure_eq_ok] at run
    obtain ⟨h, sent, rfl⟩ := run
    have created : (99 / 10 : ℚ) < net.clock := lt_of_lt_of_le (by norm_num) ok.clock
    obtain ⟨hostOk, h1, polls, rfl⟩ :=
      Host.sendReq_ok (ok.host client) (ok.addr client).symm enabled.1.symm created sent
    exact ok.polls hostOk polls rfl rfl rfl rfl rfl rfl
  | reply server thread n =>
    unfold Net.fire at run
    simp only [Lib.bind_eq_ok, Lib.pure_eq_ok] at run
    obtain ⟨h, sent, rfl⟩ := run
    have created : (99 / 10 : ℚ) < net.clock := lt_of_lt_of_le (by norm_num) ok.clock
    obtain ⟨hostOk, tuple, rest, st, h1, -, polls, rfl⟩ :=
      Host.appSendResponse_ok (ok.host server) enabled.2 created sent
    exact ok.polls hostOk polls rfl rfl rfl rfl rfl rfl
  | poll addr =>
    unfold Net.fire at run
    simp only [Lib.bind_eq_ok, Lib.pure_eq_ok] at run
    obtain ⟨h, polled, rfl⟩ := run
    obtain ⟨polls, -⟩ := Host.poll_ok (ok.host addr).halves polled
    exact ok.polls ((ok.host addr).polls polls) polls rfl rfl rfl rfl rfl rfl
  | deliver p stamp =>
    unfold Net.fire at run
    simp only [Lib.bind_eq_ok, Lib.pure_eq_ok] at run
    obtain ⟨h, received, rfl⟩ := run
    have inside : p ∈ net.flight := enabled
    obtain ⟨hostOk, h1, polls, arrives⟩ := Host.recv_ok (ok.host p.dst) (expected_of_flight ok inside) received
    refine ok.act hostOk ?_ (show net.flight.Perm ([p] ++ net.flight.erase p) from List.perm_cons_erase inside) ?_ ?_ ?_
    · rw [arrives.thisAddr, polls.thisAddr, ok.addr]
    · intro q only
      rw [List.mem_singleton.mp only]
    · rw [arrives.sent]
      exact polls.sent
    · rw [arrives.rcvd, polls.rcvd]
  | collect addr =>
    unfold Net.fire at run
    rw [Lib.pure_eq_ok] at run
    subst run
    have hostOk := Host.collect_ok (ok.host addr)
    exact ok.polls hostOk (.refl (ok.host addr).halves) rfl rfl rfl rfl rfl rfl

/-- What an event does to the host it happens at, once its calls are taken apart. -/
inductive Fired (env : Env) (net : Net) : Event → Net → Prop
  | tick (seconds : ℚ) : Fired env net (.tick seconds) { net with clock := net.clock + seconds }
  | request (client server : Addr) (clThread srThread appLevelId : ℤ) (n : ℕ) (tuple : RequestIdTuple) (h1 : Host) :
      Host.Polls env.cfg { net.host client with rpc := (net.host client).rpc.asked n tuple } h1 →
      (requestMsg (RpcInv.nextReqId (net.host client).rpc tuple.clThreadId) n tuple).reqId ∉ (net.msgs client).keys →
      Fired env net (.request client server clThread srThread appLevelId n) (net.act client net.flight
        { h1 with snd := h1.snd.accept (requestMsg (RpcInv.nextReqId (net.host client).rpc tuple.clThreadId) n tuple) })
  | reply (server : Addr) (thread : ℤ) (n : ℕ) (tuple : RequestIdTuple) (rest : List RequestIdTuple)
      (st : ServerRequestState) (h1 : Host) :
      Host.Polls env.cfg { net.host server with rpc := (net.host server).rpc.answered n tuple net.clock st } h1 →
      (replyMsg n tuple net.clock).reqId ∉ (net.msgs server).keys →
      Fired env net (.reply server thread n) (net.act server net.flight
        { h1 with
          snd := h1.snd.accept (replyMsg n tuple net.clock)
          rpc := { h1.rpc with pendingTasks := Function.update h1.rpc.pendingTasks thread rest } })
  | poll (addr : Addr) (h : Host) : Host.Polls env.cfg (net.host addr) h →
      Fired env net (.poll addr) (net.act addr net.flight h)
  | deliver (p : Packet) (stamp : Stamp) (h1 h : Host) : (net.host p.dst).recv env net.clock p stamp = .ok h →
      Host.Polls env.cfg (net.host p.dst) h1 → Host.Arrives env p h1 h →
      Fired env net (.deliver p stamp) (net.act p.dst (net.flight.erase p) h)
  | collect (addr : Addr) : Fired env net (.collect addr)
      (net.act addr net.flight { net.host addr with rpc := (net.host addr).rpc.garbageCollectState })

theorem fire_cases (ok : NetOk env.cfg net) (enabled : net.Enabled env e) (run : net.fire env e = .ok net') :
    Fired env net e net' := by
  have created : (99 / 10 : ℚ) < net.clock := lt_of_lt_of_le (by norm_num) ok.clock
  cases e with
  | tick seconds =>
    unfold Net.fire at run
    rw [Lib.pure_eq_ok] at run
    subst run
    exact .tick seconds
  | request client server clThread srThread appLevelId n =>
    unfold Net.fire at run
    simp only [Lib.bind_eq_ok, Lib.pure_eq_ok] at run
    obtain ⟨h, sent, rfl⟩ := run
    have own := (ok.addr client).symm
    obtain ⟨-, h1, polls, rfl⟩ := Host.sendReq_ok (ok.host client) own enabled.1.symm created sent
    exact .request client server clThread srThread appLevelId n _ h1 polls ((ok.host client).request_fresh own n)
  | reply server thread n =>
    unfold Net.fire at run
    simp only [Lib.bind_eq_ok, Lib.pure_eq_ok] at run
    obtain ⟨h, sent, rfl⟩ := run
    obtain ⟨-, tuple, rest, st, h1, tasks, polls, rfl⟩ :=
      Host.appSendResponse_ok (ok.host server) enabled.2 created sent
    have task : tuple ∈ (net.host server).rpc.pendingTasks thread := by rw [tasks]; exact List.mem_cons_self
    exact .reply server thread n tuple rest st h1 polls ((ok.host server).reply_fresh task n net.clock)
  | poll addr =>
    unfold Net.fire at run
    simp only [Lib.bind_eq_ok, Lib.pure_eq_ok] at run
    obtain ⟨h, polled, rfl⟩ := run
    exact .poll addr h (Host.poll_ok (ok.host addr).halves polled).1
  | deliver p stamp =>
    unfold Net.fire at run
    simp only [Lib.bind_eq_ok, Lib.pure_eq_ok] at run
    obtain ⟨h, received, rfl⟩ := run
    obtain ⟨-, h1, polls, arrives⟩ := Host.recv_ok (ok.host p.dst) (expected_of_flight ok enabled) received
    exact .deliver p stamp h1 h received polls arrives
  | collect addr =>
    unfold Net.fire at run
    rw [Lib.pure_eq_ok] at run
    subst run
    exact .collect addr

theorem Reach.ok {cond : Net → Event → Prop} (reach : Reach env cond net) : NetOk env.cfg net := by
  -- the invariant of the network, from which all others are derived
  induction reach with
  | init => exact .init env.cfg
  | step _ enabled _ run ih => exact ih.fire enabled run

end Run

end Net

end PhantomPass
