import PhantomPass.Network.Links
import PhantomPass.Pacing.Runs

/-! What a message credits itself and the GRANTs for it pay for each of its bytes
once, and for the frames that carry them. -/

set_option autoImplicit false

namespace PhantomPass

open Lib (Store)

/-- The data bytes that a GRANT pays for, as received_credit takes them. -/
def Packet.creditData (p : Packet) : ℤ :=
  p.hdr.credit - (r2p2AllHeadersSize + interPktGapSize + ethernetPreambleSize + p.hdr.creditPad)

def creditDataSum (log : List Packet) : ℤ := (log.map Packet.creditData).sum

namespace GrantPkt

variable {addr : Addr} {o : InboundMsgState} {p : Packet}

theorem creditData_eq (grant : GrantPkt addr o p) : p.creditData = p.grantLen := by
  unfold Packet.creditData
  rw [grant.credit, grant.creditPad]
  unfold wireOverhead
  push_cast
  ring

theorem bounds (grant : GrantPkt addr o p) :
    84 ≤ p.hdr.credit ∧ p.hdr.credit ≤ 1538 ∧ 0 ≤ p.hdr.creditPad ∧ p.hdr.creditPad ≤ 3 := by
  obtain ⟨pos, le⟩ := grant.len
  have credit := grant.credit
  have pad := grant.creditPad
  simp only [ethernet, Lib.Framing.cost, wireOverhead, r2p2AllHeadersSize, interPktGapSize, ethernetPreambleSize,
    minEthernetFrameOnWire, maxR2p2Payload] at le credit pad
  omega

end GrantPkt

section Sums

variable {log : List Packet}

theorem creditDataSum_eq (each : ∀ g ∈ log, g.creditData = g.grantLen) :
    creditDataSum log = (log.map Packet.grantLen).sum := by
  unfold creditDataSum
  rw [List.map_congr_left each, Nat.cast_list_sum, List.map_map]
  rfl

theorem creditSum_eq (each : ∀ g ∈ log, g.hdr.credit = ethernet.cost g.grantLen) :
    creditSum log = (log.map fun g => ethernet.cost g.grantLen).sum := by
  unfold creditSum
  rw [List.map_congr_left each, Nat.cast_list_sum, List.map_map]
  rfl

end Sums

/-- GRANTs pay for all that a message did not credit itself, but for what is still to be granted. -/
structure InboundMsgState.PaidBy (o : InboundMsgState) (grants : List Packet) : Prop where
  data : creditDataSum grants + (o.dataBytesExpected - o.dataBytesGranted : ℕ) = (o.dataBytesExpected - o.base : ℕ)
  credit : creditSum grants + ethernet.wire (o.dataBytesExpected - o.dataBytesGranted) =
    ethernet.wire (o.dataBytesExpected - o.base)

namespace ObjOk

variable {arrived grants : List Packet} {id : UniqReqId} {o : InboundMsgState}

theorem lens (ok : ObjOk arrived grants id o) :
    (grantsOf id grants).map Packet.grantLen ++ ethernet.lens (o.dataBytesExpected - o.dataBytesGranted) =
      ethernet.lens (o.dataBytesExpected - o.base) := by
  have lens := congrArg (List.map Prod.snd) ok.seqs
  rw [List.map_append, List.map_map, Lib.Framing.map_snd_frames, Lib.Framing.map_snd_frames] at lens
  exact lens

theorem paidBy (ok : ObjOk arrived grants id o) (data : ∀ g ∈ grantsOf id grants, g.creditData = g.grantLen)
    (credit : ∀ g ∈ grantsOf id grants, g.hdr.credit = ethernet.cost g.grantLen) : o.PaidBy (grantsOf id grants) where
  data := by
    have sums := congrArg List.sum ok.lens
    rw [List.sum_append, Lib.Framing.sum_lens, Lib.Framing.sum_lens] at sums
    rw [creditDataSum_eq data]
    exact_mod_cast sums
  credit := by
    have sums := congrArg (fun lens => (lens.map ethernet.cost).sum) ok.lens
    simp only [List.map_append, List.sum_append, List.map_map] at sums
    rw [creditSum_eq credit]
    exact_mod_cast sums

end ObjOk

namespace Sender

variable {s s' : Sender} {p : Packet}

theorem rcvr_activateCredited {receiver : Addr} {id : UniqReqId} (run : s.activateCredited receiver id = .ok s')
    (addr : Addr) : (s'.rcvr addr).availCreditDataBytes = (s.rcvr addr).availCreditDataBytes := by
  rw [activateCredited_eq] at run
  split at run
  · rw [Lib.pure_eq_ok] at run
    rw [run]
  · simp only [Lib.bind_eq_ok] at run
    obtain ⟨-, -, moved⟩ := run
    unfold moveToReceiver at moved
    split at moved
    · cases moved
    · next inactive _ =>
      rw [Lib.pure_eq_ok] at moved
      subst moved
      rw [rcvr_enqueue]
      split
      · rfl
      · rfl

theorem receivedCredit_data (run : s.receivedCredit p = .ok s') :
    (s'.rcvr p.src).availCreditDataBytes = (s.rcvr p.src).availCreditDataBytes + p.creditData := by
  unfold receivedCredit assert at run
  dsimp only at run
  simp only [Lib.bind_eq_ok, Lib.require_eq_ok, Lib.pure_eq_ok, exists_and_left, exists_const] at run
  obtain ⟨-, -, s1, activated, -, -, -, -, -, -, rfl⟩ := run
  rw [← rcvr_activateCredited activated p.src]
  change ((s1.addCredit p.src _ _).rcvr p.src).availCreditDataBytes = _
  unfold addCredit
  rw [rcvr_modifyRcvr, if_pos rfl]
  rfl

end Sender

namespace Host

variable {env : Env} {h h' : Host} {now : Time} {id : UniqReqId} {result : CreditResult}

/-- A message is granted what the GRANT that leaves for it pays for, and nothing if none leaves. -/
def PaidFor (id : UniqReqId) (h h' : Host) : Prop :=
  h'.sent = h.sent ∧ (h'.rcv.msg id).dataBytesGranted = (h.rcv.msg id).dataBytesGranted ∨
    ∃ p, h'.sent = h.sent ++ [p] ∧ p.isGrant = true ∧ p.dst = (h.rcv.msg id).remoteAddr ∧
      ((h'.rcv.msg id).dataBytesGranted : ℤ) = (h.rcv.msg id).dataBytesGranted + p.creditData

theorem issueGrant_paid (le : (h.rcv.msg id).dataBytesGranted ≤ (h.rcv.msg id).dataBytesExpected)
    (run : h.issueGrant env now id = .ok h') : PaidFor id h h' := by
  unfold issueGrant at run
  dsimp only at run
  split at run
  · unfold forwardGrant assert at run
    simp only [Lib.bind_eq_ok] at run
    obtain ⟨-, -, -, -, -, -, forward⟩ := run
    obtain ⟨p, emits, rfl⟩ := forwardToTransport_ok (h := h.granting id) forward (by decide) (by decide)
    have carries := emits.carries
    change p.Carries (grantHdr ((h.granting id).rcv.msg id) (h.rcv.msg id).creditNeeded
      (h.rcv.msg id).creditPadding now)
      grantMsgSize h.thisAddr ((h.granting id).rcv.msg id).remoteAddr at carries
    rw [msg_granting le] at carries
    have type : p.hdr.msgType = .grant := carries.msgType
    refine Or.inr ⟨p, rfl, by unfold Packet.isGrant; rw [type]; rfl, carries.dst, ?_⟩
    obtain ⟨-, needed, padding⟩ := InboundMsgState.creditNeeded_eq le
    have credit : p.hdr.credit = (h.rcv.msg id).creditNeeded := by rw [carries.hdr]; rfl
    have pad : p.hdr.creditPad = (h.rcv.msg id).creditPadding := by rw [carries.hdr]; rfl
    have data : p.creditData = (h.rcv.msg id).nextData := by
      unfold Packet.creditData
      rw [credit, pad, needed, padding]
      unfold wireOverhead
      push_cast
      ring
    change (((h.granting id).rcv.msg id).dataBytesGranted : ℤ) = _
    rw [msg_granting le, data]
    exact Nat.cast_add _ _
  · rw [Lib.pure_eq_ok] at run
    subst run
    exact Or.inl ⟨rfl, rfl⟩

theorem sendCreditPolicyCommon_paid (run : h.sendCreditPolicyCommon env now id = .ok (h', result)) :
    PaidFor id h h' := by
  unfold sendCreditPolicyCommon assert at run
  dsimp only at run
  simp only [Lib.bind_eq_ok, Lib.require_eq_ok, exists_and_left, exists_const] at run
  obtain ⟨-, -, run⟩ := run
  split at run
  · simp only [Lib.bind_eq_ok, Lib.pure_eq_ok, Prod.mk.injEq] at run
    obtain ⟨rcv, removed, rfl, -⟩ := run
    unfold Receiver.removeInbound at removed
    split at removed
    · cases removed
    · rw [Lib.pure_eq_ok] at removed
      subst removed
      exact Or.inl ⟨rfl, rfl⟩
  · simp only [Lib.bind_eq_ok, Lib.require_eq_ok, exists_and_left, exists_const] at run
    obtain ⟨-, le, run⟩ := run
    split at run
    · simp only [Lib.pure_eq_ok, Prod.mk.injEq] at run
      obtain ⟨rfl, -⟩ := run
      exact Or.inl ⟨rfl, rfl⟩
    · unfold grantCredit assert at run
      dsimp only at run
      simp only [Lib.bind_eq_ok] at run
      obtain ⟨-, -, run⟩ := run
      split at run
      · simp only [Lib.pure_eq_ok, Prod.mk.injEq] at run
        obtain ⟨rfl, -⟩ := run
        exact Or.inl ⟨rfl, rfl⟩
      · simp only [Lib.bind_eq_ok, Lib.pure_eq_ok, Prod.mk.injEq] at run
        obtain ⟨h1, issue, -, -, rfl, -⟩ := run
        exact issueGrant_paid le issue

end Host

namespace Net

variable {cfg : Config} {env : Env} {net : Net} {src : Addr} {id : UniqReqId}

def grantsFor (net : Net) (src : Addr) (id : UniqReqId) : List Packet :=
  grantsOf id (net.host (net.msg src id).remoteAddr).sent

/-- A message as its receiver sees it, once its size is known and all of it is granted. -/
def FullyGranted (net : Net) (src : Addr) (id : UniqReqId) : Prop :=
  let rcv := (net.host (net.msg src id).remoteAddr).rcv
  id ∈ rcv.inboundObjs.keys ∧ (rcv.msg id).receivedMsgInfo = true ∧
    (rcv.msg id).dataBytesGranted = (rcv.msg id).dataBytesExpected

theorem grantsFor_eq (cfg : Config) (net : Net) (src : Addr) (id : UniqReqId) : net.grantsFor src id =
    grantsOf id ((net.host (net.msg src id).remoteAddr).recvSide cfg).grants := by
  unfold grantsFor grantsOf Host.recvSide Receiver.side
  rw [List.filter_filter]
  refine List.filter_congr fun p _ => ?_
  cases p.isGrant <;> simp

instance (net : Net) (src : Addr) (id : UniqReqId) : Decidable (net.FullyGranted src id) :=
  inferInstanceAs (Decidable (_ ∧ _))

section Message

variable (ok : NetOk cfg net)

include ok

theorem grantPkt_of_sent {addr : Addr} {p : Packet} (sent : p ∈ (net.host addr).sent) (grant : p.isGrant = true) :
    p.uniqReqId ∈ (net.host addr).rcv.inboundObjs.keys ∧ GrantPkt addr ((net.host addr).rcv.msg p.uniqReqId) p := by
  obtain ⟨known, grantPkt⟩ := (ok.host addr).halves.recv.inv.grants p (List.mem_filter.mpr ⟨sent, grant⟩)
  refine ⟨known, ?_⟩
  have grantPkt : GrantPkt (net.host addr).thisAddr ((net.host addr).rcv.msg p.uniqReqId) p := grantPkt
  rwa [ok.addr] at grantPkt

/-- The receiver of a message knows what the message credited itself, and its size once it is told. -/
theorem inbound_eq (inside : id ∈ (net.msgs src).keys)
    (known : id ∈ (net.host (net.msg src id).remoteAddr).rcv.inboundObjs.keys) :
    ((net.host (net.msg src id).remoteAddr).rcv.msg id).base = (net.msg src id).selfAllocCreditData ∧
      (((net.host (net.msg src id).remoteAddr).rcv.msg id).receivedMsgInfo = true →
        ((net.host (net.msg src id).remoteAddr).rcv.msg id).dataBytesExpected = (net.msg src id).totalBytes) := by
  have inv := (ok.host (net.msg src id).remoteAddr).halves.recv.inv
  constructor
  · obtain ⟨q, arrived, of, hdr, -⟩ := inv.first id known
    obtain ⟨-, -, unsol, -⟩ := packet_of_rcvd ok inside (List.mem_of_mem_filter arrived) (inv.arrived q arrived).1 of
    obtain ⟨d, -, -, data, -⟩ := (msgOk ok inside).alloc
    have first : ((net.host (net.msg src id).remoteAddr).rcv.msg id).firstHeader = q.hdr := hdr.symm
    unfold InboundMsgState.base
    rw [first, unsol, data, Int.toNat_natCast]
  · intro info
    obtain ⟨q, arrived, of, pos, size⟩ := (inv.obj id known).informed info
    obtain ⟨-, -, -, creditReq⟩ :=
      packet_of_rcvd ok inside (List.mem_of_mem_filter arrived) (inv.arrived q arrived).1 of
    rcases creditReq with none | all
    · omega
    · exact size.symm.trans all

theorem paidBy_grantsFor (known : id ∈ (net.host (net.msg src id).remoteAddr).rcv.inboundObjs.keys) :
    ((net.host (net.msg src id).remoteAddr).rcv.msg id).PaidBy (net.grantsFor src id) := by
  have each : ∀ g ∈ net.grantsFor src id, GrantPkt (net.msg src id).remoteAddr
      ((net.host (net.msg src id).remoteAddr).rcv.msg g.uniqReqId) g := by
    intro g member
    obtain ⟨sent, grant, -⟩ := mem_grantsOf.mp member
    exact (grantPkt_of_sent ok sent grant).2
  have obj := (ok.host (net.msg src id).remoteAddr).halves.recv.inv.obj id known
  rw [grantsFor_eq cfg] at each ⊢
  exact obj.paidBy (fun g member => (each g member).creditData_eq) fun g member => (each g member).credit

theorem grantsFor_unknown (unknown : id ∉ (net.host (net.msg src id).remoteAddr).rcv.inboundObjs.keys) :
    net.grantsFor src id = [] := by
  refine List.eq_nil_iff_forall_not_mem.mpr fun g member => ?_
  obtain ⟨sent, grant, of⟩ := mem_grantsOf.mp member
  exact unknown (of ▸ (grantPkt_of_sent ok sent grant).1)

theorem credited_le (inside : id ∈ (net.msgs src).keys) :
    (net.msg src id).selfAllocCreditData + creditDataSum (net.grantsFor src id) ≤ (net.msg src id).totalBytes := by
  obtain ⟨d, le, -, data, -⟩ := (msgOk ok inside).alloc
  by_cases known : id ∈ (net.host (net.msg src id).remoteAddr).rcv.inboundObjs.keys
  · have paid := (paidBy_grantsFor ok known).data
    obtain ⟨base, total⟩ := inbound_eq ok inside known
    have obj := (ok.host (net.msg src id).remoteAddr).halves.recv.inv.obj id known
    have idle : ((net.host (net.msg src id).remoteAddr).rcv.msg id).receivedMsgInfo = false →
        ((net.host (net.msg src id).remoteAddr).rcv.msg id).dataBytesExpected = 0 :=
          fun ignorant => (obj.idle ignorant).2.1
    rw [data] at base ⊢
    cases info : ((net.host (net.msg src id).remoteAddr).rcv.msg id).receivedMsgInfo with
    | true => have := total info; omega
    | false => have := idle info; omega
  · rw [grantsFor_unknown ok known, data]
    change (d : ℤ) + 0 ≤ _
    omega

theorem credited_eq (inside : id ∈ (net.msgs src).keys) (full : net.FullyGranted src id) :
    (net.msg src id).selfAllocCreditData + creditDataSum (net.grantsFor src id) = (net.msg src id).totalBytes ∧
      (net.msg src id).selfAllocCredit + creditSum (net.grantsFor src id) =
        addHeaderOverhead (net.msg src id).totalBytes := by
  obtain ⟨known, info, all⟩ := full
  obtain ⟨d, le, aligned, data, credit, -⟩ := (msgOk ok inside).alloc
  obtain ⟨base, total⟩ := inbound_eq ok inside known
  have paid := paidBy_grantsFor ok known
  have base : ((net.host (net.msg src id).remoteAddr).rcv.msg id).base = d := by
    rw [data] at base
    exact_mod_cast base
  have paidData := paid.data
  have paidCredit := paid.credit
  rw [all, total info, base, Nat.sub_self] at paidData paidCredit
  rw [Lib.Framing.wire_zero] at paidCredit
  have whole := wire_prefix le aligned
  rw [data, credit, addHeaderOverhead_eq]
  omega

end Message

/-- In every run, what a message credits itself and the GRANTs for it pay for no
more than its bytes; once the receiver has granted it all, for just its bytes and
their frames. A GRANT pays for one frame, and adds as much to the sender's credit for
data as it added to what its message is granted. -/
theorem credit_partitions (reach : Reachable env net) :
    (∀ src, ∀ id ∈ (net.msgs src).keys,
      (net.msg src id).selfAllocCreditData + creditDataSum (net.grantsFor src id) ≤ (net.msg src id).totalBytes ∧
        (net.FullyGranted src id →
          (net.msg src id).selfAllocCreditData + creditDataSum (net.grantsFor src id) = (net.msg src id).totalBytes ∧
            (net.msg src id).selfAllocCredit + creditSum (net.grantsFor src id) =
              addHeaderOverhead (net.msg src id).totalBytes)) ∧
      (∀ addr, ∀ p ∈ (net.host addr).sent, p.isGrant = true →
        84 ≤ p.hdr.credit ∧ p.hdr.credit ≤ 1538 ∧ 0 ≤ p.hdr.creditPad ∧ p.hdr.creditPad ≤ 3) ∧
      ∀ (h h' : Host) (now : Time) (id : UniqReqId) (result : CreditResult),
        h.sendCreditPolicyCommon env now id = .ok (h', result) →
          h'.sent = h.sent ∧ (h'.rcv.msg id).dataBytesGranted = (h.rcv.msg id).dataBytesGranted ∨
            ∃ p, h'.sent = h.sent ++ [p] ∧ p.isGrant = true ∧ p.dst = (h.rcv.msg id).remoteAddr ∧
              ∀ s s' : Sender, s.receivedCredit p = .ok s' →
                (s'.rcvr p.src).availCreditDataBytes = (s.rcvr p.src).availCreditDataBytes +
                  ((h'.rcv.msg id).dataBytesGranted - (h.rcv.msg id).dataBytesGranted : ℤ) := by
  have ok := Reach.ok reach
  refine ⟨fun src id inside => ⟨credited_le ok inside, credited_eq ok inside⟩, fun addr p sent grant => ?_, ?_⟩
  · exact (grantPkt_of_sent ok sent grant).2.bounds
  · intro h h' now id result run
    rcases Host.sendCreditPolicyCommon_paid run with same | ⟨p, sent, grant, dst, paid⟩
    · exact Or.inl same
    · refine Or.inr ⟨p, sent, grant, dst, fun s s' received => ?_⟩
      rw [Sender.receivedCredit_data received, paid]
      ring

/-- A request of three packets is announced and granted in full. -/
def allGranted : List (Net → Event) :=
  [fun _ => .request 0 1 0 0 0 3000, fun _ => .tick (1 / 1000000), fun _ => .poll 0, deliverFirst,
    fun _ => .tick (1 / 1000000), fun _ => .poll 1, fun _ => .tick (1 / 1000000), fun _ => .poll 1,
    fun _ => .tick (1 / 1000000), fun _ => .poll 1]

theorem credit_partitions_allGranted : ∃ net, Reachable tenFrames net ∧ net.FullyGranted 0 ⟨0, 0, 0⟩ ∧
    creditDataSum (net.grantsFor 0 ⟨0, 0, 0⟩) = 3000 ∧ creditSum (net.grantsFor 0 ⟨0, 0, 0⟩) = 3240 := by
  have ran : ((init tenFrames.cfg).run tenFrames allGranted).map (fun net =>
      (decide (⟨0, 0, 0⟩ ∈ (net.msgs 0).keys ∧ net.FullyGranted 0 ⟨0, 0, 0⟩), (net.msg 0 ⟨0, 0, 0⟩).totalBytes,
        (net.msg 0 ⟨0, 0, 0⟩).selfAllocCreditData, (net.msg 0 ⟨0, 0, 0⟩).selfAllocCredit)) =
          some (true, 3000, 0, 0) := by
    decide +kernel
  obtain ⟨net, run, values⟩ := Option.map_eq_some_iff.mp ran
  simp only [Prod.mk.injEq, decide_eq_true_eq] at values
  obtain ⟨⟨inside, full⟩, total, data, credit⟩ := values
  have reach : Reachable tenFrames net := Reach.run .init (fun _ _ _ => trivial) run
  obtain ⟨allData, allCredit⟩ := ((credit_partitions reach).1 0 _ inside).2 full
  rw [data, total, zero_add] at allData
  rw [credit, total, zero_add] at allCredit
  have whole : addHeaderOverhead (3000 : ℕ) = 3240 := by decide
  exact ⟨net, reach, full, allData, allCredit.trans whole⟩

end Net

end PhantomPass
