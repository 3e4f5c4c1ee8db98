import PhantomPass.Credit.Debts
import PhantomPass.Network.Links
import PhantomPass.Pacing.Runs

/-! Where the credit between two hosts is: taken from the receiver's budget, in
GRANTs or data under way, in the sender's pool, or with a message that credited
itself and of which the receiver has not heard yet. -/

set_option autoImplicit false

namespace PhantomPass

open Lib (Store)

namespace Net

variable {cfg : Config} {env : Env} {net : Net} {src dst : Addr} {q : Packet} {h : Host} {id : UniqReqId}

def between (net : Net) (src dst : Addr) : List Packet := fromAddr src (toAddr dst net.flight)

/-- What the messages to a receiver credited themselves that it has not heard of. -/
def unheard (net : Net) (src dst : Addr) : ℤ :=
  (net.msgs src).total fun id m =>
    if m.remoteAddr = dst ∧ id ∉ (net.host dst).rcv.inboundObjs.keys then m.selfAllocCredit else 0

/-- What the replies cost that passed the receiver's transport untouched. -/
def untouched (net : Net) (src dst : Addr) : ℤ :=
  wireSum ((fromAddr src (net.host dst).rcvd).filter fun p => p.isData && p.isSingleReply)

section Pair

variable (ok : NetOk cfg net)

include ok

theorem grants_split (src dst : Addr) : creditSum (toAddr src ((net.host dst).sent.filter Packet.isGrant)) =
    creditSum ((net.between dst src).filter Packet.isGrant) +
      creditSum (fromAddr dst ((net.host src).rcvd.filter Packet.isGrant)) := by
  have perm := (ok.link dst src).filter Packet.isGrant
  rw [List.filter_append] at perm
  rw [← creditSum_append]
  refine Eq.trans ?_ ((creditSum_perm perm).trans ?_)
  · unfold toAddr
    rw [List.filter_filter, List.filter_filter]
    simp only [Bool.and_comm]
  · unfold between fromAddr
    rw [List.filter_filter (l := (net.host src).rcvd), List.filter_filter (l := (net.host src).rcvd)]
    simp only [Bool.and_comm]

omit ok in
theorem sent_of_log (log : ∀ src, (fromAddr src h.rcvd).Subperm (toAddr dst (net.host src).sent))
    (inside : q ∈ h.rcvd) : q ∈ (net.host q.src).sent ∧ q.dst = dst :=
  mem_toAddr.mp ((log q.src).subset (mem_fromAddr.mpr ⟨inside, rfl⟩))

theorem linked (recv : Host.RecvOk cfg h) (here : h.thisAddr = dst)
    (log : ∀ src, (fromAddr src h.rcvd).Subperm (toAddr dst (net.host src).sent))
    (sent : ∃ more, h.sent = (net.host dst).sent ++ more) (src : Addr) :
    Linked cfg (net.host src).sendSide (h.recvSide cfg) := by
  have send := (ok.host src).halves.send
  have addr : (net.host src).sendSide.addr = src := ok.addr src
  have hereSide : (h.recvSide cfg).addr = dst := here
  constructor
  case send => exact send.inv
  case covered => exact send.covered
  case numbered =>
    rw [hereSide]
    have sorted : ((toAddr dst (net.host src).sent).map Packet.seqno).Pairwise (· < ·) := by
      rw [send.numbered.seqno]
      exact List.pairwise_lt_range
    exact (List.pairwise_map.mp sorted).sublist (List.filter_sublist.filter _)
  case recv => exact recv.inv
  case arrived =>
    rw [addr, hereSide]
    have sub := (log src).filter fun p => !p.isGrant && !p.isSingleReply
    have out : (toAddr dst (net.host src).sendSide.out).filter (fun p => !p.isSingleReply) =
        (toAddr dst (net.host src).sent).filter fun p => !p.isGrant && !p.isSingleReply := by
      change (((net.host src).sent.filter fun p => !p.isGrant).filter _).filter _ =
        ((net.host src).sent.filter _).filter _
      rw [List.filter_filter, List.filter_filter, List.filter_filter]
      refine List.filter_congr fun p _ => ?_
      cases p.isGrant <;> cases p.isSingleReply <;> simp
    rw [out]
    change (fromAddr src (h.rcvd.filter _)).Subperm _
    unfold fromAddr at sub ⊢
    rwa [List.filter_comm]
  case origin =>
    intro q arrived inside towards
    rw [hereSide] at towards
    rw [addr]
    obtain ⟨from_, there⟩ := sent_of_log log (List.mem_of_mem_filter arrived)
    obtain ⟨-, member, remote⟩ := part_of_sent ok from_ (Packet.isGrant_of_part (recv.inv.arrived q arrived).1)
    exact source_unique ok member inside (remote.symm.trans (there.trans towards.symm))
  case grants =>
    rw [addr, hereSide]
    obtain ⟨more, grown⟩ := sent
    have split := grants_split ok src dst
    have flying : 0 ≤ creditSum ((net.between dst src).filter Packet.isGrant) := by
      refine creditSum_nonneg fun p inside => ?_
      obtain ⟨flight, grant⟩ := List.mem_filter.mp inside
      exact (heard_of_grant ok (sent_of_flight ok (mem_toAddr.mp (mem_fromAddr.mp flight).1).1) grant).1
    have later : 0 ≤ creditSum (toAddr src (more.filter Packet.isGrant)) := by
      refine creditSum_nonneg fun p inside => ?_
      obtain ⟨new, grant⟩ := List.mem_filter.mp (mem_toAddr.mp inside).1
      have issued : p ∈ (h.recvSide cfg).grants :=
        List.mem_filter.mpr ⟨by rw [grown]; exact List.mem_append_right _ new, grant⟩
      rw [(recv.inv.grants p issued).2.credit]
      exact Int.natCast_nonneg _
    have all : creditSum (toAddr src (h.recvSide cfg).grants) =
        creditSum (toAddr src ((net.host dst).sent.filter Packet.isGrant)) + creditSum
          (toAddr src (more.filter Packet.isGrant)) := by
      change creditSum (toAddr src (h.sent.filter Packet.isGrant)) = _
      rw [grown, List.filter_append, toAddr_append, creditSum_append]
    change creditSum (fromAddr dst ((net.host src).rcvd.filter Packet.isGrant)) ≤ _
    omega

theorem log_of_rcvd (src dst : Addr) : (fromAddr src (net.host dst).rcvd).Subperm (toAddr dst (net.host src).sent) :=
  (List.sublist_append_right ..).subperm.trans (ok.link src dst).symm.subperm

theorem linked_hosts (src dst : Addr) : Linked cfg (net.host src).sendSide ((net.host dst).recvSide cfg) :=
  linked ok (ok.host dst).halves.recv (ok.addr dst) (fun src => log_of_rcvd ok src dst) ⟨[],
    (List.append_nil _).symm⟩ src

theorem member_of_obj (known : id ∈ (net.host dst).rcv.inboundObjs.keys)
    (sender : ((net.host dst).rcv.msg id).remoteAddr = src) :
    id ∈ (net.msgs src).keys ∧ (net.msg src id).remoteAddr = dst := by
  have member := (linked_hosts ok src dst).member_of_known known (sender.trans (ok.addr src).symm)
  exact ⟨member.1, member.2.trans (ok.addr dst)⟩

theorem obj_of_member (inside : id ∈ (net.msgs src).keys) (towards : (net.msg src id).remoteAddr = dst)
    (known : id ∈ (net.host dst).rcv.inboundObjs.keys) :
    ((net.host dst).rcv.msg id).remoteAddr = src ∧
      ((net.host dst).rcv.msg id).firstHeader.unsolCredit = (net.msg src id).selfAllocCredit := by
  have link := linked_hosts ok src dst
  obtain ⟨origin, unsol⟩ := link.known_of_member inside (towards.trans (ok.addr dst).symm) known
  exact ⟨origin.trans (ok.addr src), unsol⟩

variable (src dst)

theorem selfAlloc_split : (net.host src).sendSide.toward dst OutboundMsgState.selfAllocCredit =
    ((net.host dst).recvSide cfg).ofSender src (·.firstHeader.unsolCredit) + net.unheard src dst := by
  have heard : (net.msgs src).total (fun id m =>
      if m.remoteAddr = dst ∧ id ∈ (net.host dst).rcv.inboundObjs.keys then m.selfAllocCredit else 0) =
      ((net.host dst).recvSide cfg).ofSender src (·.firstHeader.unsolCredit) := by
    have eq := (linked_hosts ok src dst).heard_eq
    rw [show (net.host src).sendSide.addr = src from ok.addr src, show ((net.host dst).recvSide cfg).addr =
      dst from ok.addr dst] at eq
    exact eq
  unfold unheard
  rw [← heard, ← Store.total_add]
  change (net.msgs src).total (fun _ m => if m.remoteAddr = dst then m.selfAllocCredit else 0) = _
  refine Store.total_congr _ fun id _ => ?_
  by_cases towards : ((net.msgs src).get id).remoteAddr = dst
  · by_cases known : id ∈ (net.host dst).rcv.inboundObjs.keys
    · simp [towards, known]
    · simp [towards, known]
  · simp [towards]

/-- So are the data packets, and of those that arrived some pass the receiver's transport. -/
theorem data_split : (net.host src).sendSide.costTo dst =
    wireSum (dataPkts (net.between src dst)) +
      (wireSum (dataPkts (fromAddr src (net.host dst).arrived)) + net.untouched src dst) := by
  have perm := (ok.link src dst).filter Packet.isData
  rw [List.filter_append] at perm
  have sent : (net.host src).sendSide.costTo dst = wireSum ((toAddr dst (net.host src).sent).filter Packet.isData) := by
    unfold SendSide.costTo dataPkts toAddr
    change wireSum ((((net.host src).sent.filter fun p => !p.isGrant).filter _).filter _) = _
    rw [List.filter_filter, List.filter_filter, List.filter_filter]
    refine congrArg wireSum (List.filter_congr fun p _ => ?_)
    cases data : p.isData with
    | true => rw [Packet.isGrant_of_isData data]; simp
    | false => simp
  have passed : wireSum ((fromAddr src (net.host dst).rcvd).filter Packet.isData) =
      wireSum (dataPkts (fromAddr src (net.host dst).arrived)) + net.untouched src dst := by
    unfold untouched dataPkts Host.arrived
    have parts := List.filter_append_perm Packet.isSingleReply ((fromAddr src (net.host dst).rcvd).filter Packet.isData)
    rw [← wireSum_perm parts, wireSum_append, add_comm]
    unfold fromAddr
    simp only [List.filter_filter]
    congr 1
    · refine congrArg wireSum (List.filter_congr fun p _ => ?_)
      cases data : p.isData with
      | true => simp [Packet.isGrant_of_isData data, Bool.and_comm]
      | false => simp
    · refine congrArg wireSum (List.filter_congr fun p _ => ?_)
      cases p.isData <;> simp [Bool.and_comm]
  rw [sent, wireSum_perm perm, wireSum_append, passed]
  rfl

theorem conserved : (net.host dst).rcv.owed cfg src + net.unheard src dst =
    (net.host src).snd.pool dst + creditSum ((net.between dst src).filter Packet.isGrant) +
      wireSum (dataPkts (net.between src dst)) + net.untouched src dst := by
  have pool := (ok.host src).halves.send.inv.pool dst
  have owed := (ok.host dst).halves.recv.inv.owed src
  have self := selfAlloc_split src dst ok
  have grants := grants_split ok src dst
  have data := data_split src dst ok
  change (net.host src).snd.pool dst + _ = _ + creditSum (fromAddr dst ((net.host src).rcvd.filter Packet.isGrant))
    at pool
  change (net.host dst).rcv.owed cfg src = _ + creditSum (toAddr src ((net.host dst).sent.filter Packet.isGrant)) -
    wireSum (dataPkts (fromAddr src (net.host dst).arrived)) at owed
  omega

end Pair

section Replies

variable {net' : Net} {e : Event} {P : ℕ → Prop}

theorem act_respSent {addr : Addr} {flight : List Packet} {h : Host}
    (before : ∀ a, ∀ r ∈ (net.host a).rpc.respSent, P r.1) (here : ∀ r ∈ h.rpc.respSent, P r.1) :
    ∀ a, ∀ r ∈ ((net.act addr flight h).host a).rpc.respSent, P r.1 := by
  intro a
  rw [host_act]
  split
  · exact here
  · exact before a

/-- A property of the sizes of all replies that the application hands down holds of those sent. -/
theorem fire_replies (ok : NetOk env.cfg net) (enabled : net.Enabled env e) (run : net.fire env e = .ok net')
    (only : ∀ server thread n, e = .reply server thread n → P n)
    (before : ∀ a, ∀ r ∈ (net.host a).rpc.respSent, P r.1) : ∀ a, ∀ r ∈ (net'.host a).rpc.respSent, P r.1 := by
  cases fire_cases ok enabled run with
  | tick seconds => exact before
  | request client server clThread srThread appLevelId n tuple h1 polls =>
    refine act_respSent before ?_
    dsimp only
    rw [polls.rpc]
    exact before client
  | reply server thread n tuple rest st h1 polls =>
    refine act_respSent before fun r inside => ?_
    dsimp only at inside
    rw [polls.rpc] at inside
    rcases List.mem_append.mp inside with old | new
    · exact before server r old
    · rw [List.mem_singleton.mp new]
      exact only server thread n rfl
  | poll addr h polls =>
    refine act_respSent before ?_
    rw [polls.rpc]
    exact before addr
  | deliver p stamp h1 h received polls arrives =>
    refine act_respSent before ?_
    rw [(Rpc.recvPkt_history arrives.rpc).2, polls.rpc]
    exact before p.dst
  | collect addr => exact act_respSent before (before addr)

theorem Reach.replies {cond : Net → Event → Prop} (reach : Reach env cond net)
    (only : ∀ net server thread n, cond net (.reply server thread n) → P n) :
    ∀ a, ∀ r ∈ (net.host a).rpc.respSent, P r.1 := by
  induction reach with
  | init => exact fun a r inside => absurd inside List.not_mem_nil
  | step before enabled allowed run ih =>
    refine fire_replies before.ok enabled run (fun server thread n same => ?_) ih
    subst same
    exact only _ server thread n allowed

/-- Every message that is no request is a reply of a size that the application handed down. -/
theorem reply_size (ok : NetOk cfg net) (sizes : ∀ a, ∀ r ∈ (net.host a).rpc.respSent, P r.1)
    (inside : id ∈ (net.msgs src).keys) (reply : (net.msg src id).isRequest = false) : P
    (net.msg src id).totalBytes := by
  have entry : Host.Entry (net.host src) (net.msg src id) := (ok.host src).entry id inside
  have sent := entry.sent
  rw [reply, if_neg Bool.false_ne_true] at sent
  exact sizes src _ sent

end Replies

section Requests

def isReply : Event → Bool
  | .reply .. => true
  | _ => false

def isRequestPkt (p : Packet) : Bool := p.hdr.msgType == .request

variable (ok : NetOk cfg net) (requests : ∀ src, ∀ id ∈ (net.msgs src).keys, (net.msg src id).isRequest = true)

include ok requests

theorem isRequestPkt_eq {p : Packet} (sent : p ∈ (net.host src).sent) : isRequestPkt p = p.isData := by
  cases data : p.isData with
  | true =>
    obtain ⟨-, member, -⟩ := part_of_sent ok sent (Packet.isGrant_of_isData data)
    have out : p ∈ (net.host src).sendSide.out := List.mem_filter.mpr ⟨sent, by rw [Packet.isGrant_of_isData data]; rfl⟩
    have one : p ∈ dataOf (net.msg src p.uniqReqId).reqId (net.host src).sendSide.out :=
      mem_dataOf.mpr ⟨out, data, (msg_reqId ok member).symm⟩
    have type := ((msgOk ok member).data p one).msgType
    rw [requests src _ member, if_pos rfl] at type
    unfold isRequestPkt
    rw [type]
    rfl
  | false =>
    unfold isRequestPkt
    unfold Packet.isData at data
    cases type : p.hdr.msgType <;> simp_all

theorem isSingleReply_eq {p : Packet} (sent : p ∈ (net.host src).sent) : p.isSingleReply = false := by
  have same := isRequestPkt_eq ok requests sent
  unfold isRequestPkt Packet.isData at same
  unfold Packet.isSingleReply
  cases type : p.hdr.msgType <;> simp_all

/-- A receiver has heard of a message that credited itself once a REQUEST packet of it arrived. -/
theorem heard_iff (inside : id ∈ (net.msgs src).keys) (towards : (net.msg src id).remoteAddr = dst)
    (self : (net.msg src id).isScheduled = false) :
    id ∈ (net.host dst).rcv.inboundObjs.keys ↔ ∃ q ∈ (net.host dst).rcvd, isRequestPkt q = true ∧ q.uniqReqId = id := by
  have inv := (ok.host dst).halves.recv.inv
  constructor
  · intro known
    obtain ⟨q, arrived, of, -, -⟩ := inv.first id known
    have rcvd := List.mem_of_mem_filter arrived
    obtain ⟨sent, there⟩ := sent_of_rcvd ok rcvd
    refine ⟨q, rcvd, ?_, of⟩
    rw [isRequestPkt_eq ok requests sent]
    rcases (inv.arrived q arrived).1 with data | req
    · exact data
    · -- a message that credited itself asks for no credit
      subst towards
      obtain ⟨origin, -⟩ := packet_of_rcvd ok inside rcvd (Or.inr req) of
      rw [origin] at sent
      have out : q ∈ (net.host src).sendSide.out :=
        List.mem_filter.mpr ⟨sent, by rw [Packet.isGrant_of_part (Or.inr req)]; rfl⟩
      have one : q ∈ creditReqsOf (net.msg src id).reqId (net.host src).sendSide.out :=
        mem_creditReqsOf.mpr ⟨out, req, of.trans (msg_reqId ok inside).symm⟩
      have none := (msgOk ok inside).creditReqs_length
      rw [self, Bool.false_and, if_neg Bool.false_ne_true] at none
      rw [List.eq_nil_of_length_eq_zero none] at one
      exact absurd one List.not_mem_nil
  · rintro ⟨q, rcvd, request, of⟩
    obtain ⟨sent, -⟩ := sent_of_rcvd ok rcvd
    have data : q.isData = true := by rw [← isRequestPkt_eq ok requests sent]; exact request
    have arrived : q ∈ (net.host dst).arrived := List.mem_filter.mpr ⟨rcvd, by
      rw [Packet.isGrant_of_isData data, isSingleReply_eq ok requests sent]; rfl⟩
    rw [← of]
    exact (inv.arrived q arrived).2.1

theorem unheard_eq (src dst : Addr) : net.unheard src dst = (net.msgs src).total fun id m =>
    if m.remoteAddr = dst ∧ m.isScheduled = false ∧
      ∀ q ∈ (net.host dst).rcvd, isRequestPkt q = true → q.uniqReqId ≠ id then m.selfAllocCredit else 0 := by
  refine Store.total_congr _ fun id inside => ?_
  have msg : (net.msgs src).get id = net.msg src id := rfl
  rw [msg]
  by_cases towards : (net.msg src id).remoteAddr = dst
  · by_cases self : (net.msg src id).isScheduled = true
    · obtain ⟨d, -, -, -, credit, zero⟩ := (msgOk ok inside).alloc
      rw [credit, zero.mp self]
      simp
    · rw [Bool.not_eq_true] at self
      have heard := heard_iff ok requests inside towards self
      refine if_congr (and_congr_right fun _ => ?_) rfl rfl
      rw [heard]
      simp [self]
  · rw [if_neg fun both => towards both.1, if_neg fun both => towards both.1]

theorem dataPkts_between (src dst : Addr) : dataPkts
    (net.between src dst) = (net.between src dst).filter isRequestPkt := by
  refine List.filter_congr fun p inside => ?_
  obtain ⟨there, origin⟩ := mem_fromAddr.mp inside
  have sent := sent_of_flight ok (mem_toAddr.mp there).1
  exact (isRequestPkt_eq ok requests sent).symm

theorem untouched_eq_zero (src dst : Addr) : net.untouched src dst = 0 := by
  unfold untouched
  rw [List.filter_eq_nil_iff.mpr, wireSum_nil]
  intro p inside
  have sent := (sent_of_rcvd ok (mem_fromAddr.mp inside).1).1
  rw [isSingleReply_eq ok requests sent, Bool.and_false]
  exact Bool.false_ne_true

end Requests

/-- In every run without replies, what a sender owes its receiver and what messages
credited themselves that the receiver has not heard of is in the sender's pool, in
GRANTs under way and in REQUEST packets under way; and a receiver's budget lacks just
what its senders owe. -/
theorem credit_conserved (reach : Reach env (fun _ e => isReply e = false) net) :
    (∀ src dst, (net.host dst).rcv.owed env.cfg src +
        ((net.msgs src).total fun id m =>
          if m.remoteAddr = dst ∧ m.isScheduled = false ∧
            ∀ q ∈ (net.host dst).rcvd, isRequestPkt q = true → q.uniqReqId ≠ id then m.selfAllocCredit else 0) =
      (net.host src).snd.pool dst + creditSum ((net.between dst src).filter Packet.isGrant) +
        wireSum ((net.between src dst).filter isRequestPkt)) ∧
      ∀ dst, env.cfg.budgetBytes - (net.host dst).rcv.budgetBytes =
        ∑ src ∈ (net.host dst).rcv.senderState.keys.toFinset,
        (env.cfg.maxSrpb - ((net.host dst).rcv.sender src).srpbBytes) := by
  have ok := Reach.ok reach
  have sizes := Reach.replies (P := fun _ => False) reach fun _ _ _ _ allowed => by cases allowed
  have requests : ∀ src, ∀ id ∈ (net.msgs src).keys, (net.msg src id).isRequest = true := by
    intro src id inside
    by_contra reply
    exact reply_size (P := fun _ => False) ok sizes inside (Bool.not_eq_true _ ▸ reply)
  refine ⟨fun src dst => ?_, fun dst => ?_⟩
  · have whole := conserved src dst ok
    rw [unheard_eq ok requests, dataPkts_between ok requests, untouched_eq_zero ok requests, add_zero] at whole
    exact whole
  · refine (ok.host dst).halves.recv.inv.lent.trans (Finset.sum_congr rfl fun src known => ?_)
    exact if_pos (List.mem_toFinset.mp known)

theorem isReply_deliverFirst (net : Net) : isReply (deliverFirst net) = false := by
  unfold deliverFirst
  split
  · rfl
  · rfl

theorem isReply_threePackets : ∀ e ∈ threePackets, ∀ net, isReply (e net) = false := by
  intro e inside net
  unfold threePackets at inside
  simp only [List.mem_cons, List.not_mem_nil, or_false] at inside
  rcases inside with rfl | rfl | rfl | rfl | rfl | rfl | rfl | rfl | rfl | rfl
  all_goals first | rfl | exact isReply_deliverFirst net

theorem credit_conserved_threePackets : ∃ net, Reach tenFrames (fun _ e => isReply e = false) net ∧
    (net.host 1).rcv.owed tenFrames.cfg 0 = 3076 ∧
    (net.host 0).snd.pool 1 + creditSum ((net.between 1 0).filter Packet.isGrant) +
      wireSum ((net.between 0 1).filter isRequestPkt) = 3076 := by
  have ran : ((init tenFrames.cfg).run tenFrames threePackets).map (fun net =>
      ((net.host 1).rcv.owed tenFrames.cfg 0, (net.msgs 0).total fun id m =>
          if m.remoteAddr = 1 ∧ m.isScheduled = false ∧
            ∀ q ∈ (net.host 1).rcvd, isRequestPkt q = true → q.uniqReqId ≠ id then m.selfAllocCredit else 0)) =
      some (3076, 0) := by decide +kernel
  obtain ⟨net, run, values⟩ := Option.map_eq_some_iff.mp ran
  simp only [Prod.mk.injEq] at values
  obtain ⟨owed, unheard⟩ := values
  have reach : Reach tenFrames (fun _ e => isReply e = false) net := Reach.run .init isReply_threePackets run
  have whole := (credit_conserved reach).1 0 1
  rw [owed, unheard, add_zero] at whole
  exact ⟨net, reach, owed, whole.symm⟩

end Net

end PhantomPass
