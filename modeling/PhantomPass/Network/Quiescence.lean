import PhantomPass.Credit.Settled
import PhantomPass.Granting.Clearing
import PhantomPass.Network.Conservation

/-! The state that a run ends in: everything has been sent, and nothing is in
flight. All credit is back then, but for what replies asked for that bypass the
accounts of their receiver. -/

set_option autoImplicit false

namespace PhantomPass

open Lib (Store)

def Host.AllSent (h : Host) : Prop := ∀ id ∈ h.snd.outbound.keys, (h.snd.msg id).unsentBytes = 0

instance (h : Host) : Decidable h.AllSent := inferInstanceAs (Decidable (∀ id ∈ h.snd.outbound.keys, _))

structure Host.Restored (cfg : Config) (h : Host) : Prop where
  budget : h.rcv.budgetBytes = cfg.budgetBytes
  senders : ∀ src ∈ h.rcv.senderState.keys, (h.rcv.sender src).srpbBytes = cfg.maxSrpb

namespace Net

variable {cfg : Config} {env : Env} {net : Net} {src dst : Addr} {id : UniqReqId}

structure Quiescent (net : Net) : Prop where
  flight : net.flight = []
  sent : ∀ src, (net.host src).AllSent

/-- What the replies cost that asked for credit and bypassed the accounts. -/
def withheld (net : Net) (src dst : Addr) : ℤ :=
  (net.msgs src).total fun _ m =>
    if m.remoteAddr = dst ∧ m.Bypasses ∧ m.isScheduled = true then (ethernet.wire m.totalBytes : ℤ) else 0

section Landed

variable (ok : NetOk cfg net) (flight : net.flight = [])

include ok flight

theorem rcvd_perm (src dst : Addr) : (toAddr dst (net.host src).sent).Perm (fromAddr src (net.host dst).rcvd) := by
  have link := ok.link src dst
  have none : fromAddr src (toAddr dst net.flight) = [] := by
    rw [flight]
    rfl
  rwa [none, List.nil_append] at link

theorem landed (src dst : Addr) : Landed (net.host src).sendSide ((net.host dst).recvSide cfg) := by
  have addr : (net.host src).sendSide.addr = src := ok.addr src
  have here : ((net.host dst).recvSide cfg).addr = dst := ok.addr dst
  constructor
  case arrived =>
    rw [addr, here]
    have moved := (rcvd_perm ok flight src dst).filter fun p => !p.isGrant && !p.isSingleReply
    change ((((net.host src).sent.filter _).filter _).filter _).Perm (((net.host dst).rcvd.filter _).filter _)
    unfold toAddr fromAddr at moved
    simp only [List.filter_filter] at moved ⊢
    simpa only [Bool.and_comm, Bool.and_left_comm, Bool.and_assoc] using moved
  case grants =>
    rw [addr, here]
    have moved := (rcvd_perm ok flight dst src).filter Packet.isGrant
    change creditSum (((net.host src).rcvd.filter _).filter _) = creditSum (((net.host dst).sent.filter _).filter _)
    unfold toAddr fromAddr at moved
    simp only [List.filter_filter] at moved ⊢
    have same := creditSum_perm moved
    simpa only [Bool.and_comm] using same.symm

end Landed

section Ended

variable (ok : NetOk cfg net) (quiet : net.Quiescent)

include ok quiet

theorem settled (src dst : Addr) : Settled (net.host src).sendSide ((net.host dst).recvSide cfg) where
  sent id inside _ := quiet.sent src id inside
  arrived := (landed ok quiet.flight src dst).arrived
  grants := (landed ok quiet.flight src dst).grants

theorem pool_of_quiescent (src dst : Addr) : (net.host src).snd.pool dst = 0 := by
  have none := ((linked_hosts ok src dst).credited_of_settled (settled ok quiet src dst)).1
  rw [show ((net.host dst).recvSide cfg).addr = dst from ok.addr dst] at none
  exact none

theorem owed_of_quiescent (src dst : Addr) : (net.host dst).rcv.owed cfg src = net.withheld src dst := by
  have link := linked_hosts ok src dst
  have done := settled ok quiet src dst
  have here : ((net.host dst).recvSide cfg).addr = dst := ok.addr dst
  have owed := link.owed_of_settled done
  rw [show (net.host src).sendSide.addr = src from ok.addr src] at owed
  change (net.host dst).rcv.owed cfg src = (net.msgs src).total ((net.host dst).recvSide cfg).withheld at owed
  rw [owed]
  apply Store.total_congr
  intro id inside
  unfold RecvSide.withheld
  rw [here]
  by_cases bypasses : ((net.msgs src).get id).remoteAddr = dst ∧ ((net.msgs src).get id).Bypasses
  · have known := link.known_iff_of_settled done inside (bypasses.1.trans here.symm) bypasses.2
    apply if_congr _ rfl rfl
    rw [known]
    change _ ∧ ((net.msgs src).get id).isScheduled = true ∧ _ ↔ _
    tauto
  · rw [if_neg fun all => bypasses ⟨all.1, all.2.2⟩, if_neg fun all => bypasses ⟨all.1, all.2.1⟩]

theorem restored_iff (a : Addr) : (net.host a).Restored cfg ↔ ∀ src, net.withheld src a = 0 := by
  have inv := (ok.host a).halves.recv.inv
  have lent : cfg.budgetBytes - (net.host a).rcv.budgetBytes =
      ∑ src ∈ (net.host a).rcv.senderState.keys.toFinset, (net.host a).rcv.owed cfg src := inv.lent
  have owed : ∀ src, (net.host a).rcv.owed cfg src = net.withheld src a := fun src => owed_of_quiescent ok quiet src a
  constructor
  · rintro ⟨-, senders⟩ src
    rw [← owed]
    unfold Receiver.owed
    split
    · next known => rw [senders src known, sub_self]
    · rfl
  · intro none
    refine ⟨?_, fun src known => ?_⟩
    · rw [Finset.sum_eq_zero fun src _ => (owed src).trans (none src)] at lent
      omega
    · have zero := (owed src).trans (none src)
      unfold Receiver.owed at zero
      rw [if_pos known] at zero
      omega

end Ended

section Replies

variable (ok : NetOk cfg net)

include ok

theorem withheld_eq_zero_iff (src dst : Addr) : net.withheld src dst = 0 ↔
    ∀ id ∈ (net.msgs src).keys, (net.msg src id).remoteAddr = dst → (net.msg src id).Bypasses →
      (net.msg src id).isScheduled = false := by
  unfold withheld Store.total
  rw [Finset.sum_eq_zero_iff_of_nonneg fun id _ => by dsimp only; split <;> positivity]
  simp only [List.mem_toFinset]
  apply forall₂_congr
  intro id inside
  have cost : 0 < ethernet.wire ((net.msgs src).get id).totalBytes := ethernet.wire_pos (msgOk ok inside).total_pos
  rw [ite_eq_right_iff]
  constructor
  · intro free towards bypasses
    by_contra scheduled
    have := free ⟨towards, bypasses, (Bool.not_eq_false _).mp scheduled⟩
    omega
  · rintro unscheduled ⟨towards, bypasses, scheduled⟩
    exact nomatch scheduled.symm.trans (unscheduled towards bypasses)

theorem unscheduled_iff (quiet : net.Quiescent) (src dst : Addr) :
    (∀ id ∈ (net.msgs src).keys, (net.msg src id).remoteAddr = dst → (net.msg src id).Bypasses →
      (net.msg src id).isScheduled = false) ↔
    ∀ r ∈ (net.host src).rpc.respSent, r.2.clAddr = dst → r.1 ≤ maxR2p2Payload → Sender.unsolicited cfg r.1 := by
  constructor
  · intro unscheduled r answered client small
    obtain ⟨inside, reply, entry, remote⟩ := reply_message ok answered
    have total : (net.msg src r.2.uniqReqId).totalBytes = r.1 := congrArg Prod.fst entry
    rw [← total]
    exact (msgOk ok inside).unsolicited (unscheduled _ inside (remote.trans client) ⟨reply, by rw [total]; exact small⟩)
  · intro unsolicited id inside towards bypasses
    have msgOk := msgOk ok inside
    have answered := ((ok.host src).entry id inside).sent
    rw [show (net.host src).snd.msg id = net.msg src id from rfl, bypasses.1, if_neg Bool.false_ne_true] at answered
    have client : (net.msg src id).tuple.clAddr = dst := by
      have name := congrArg UniqReqId.clAddr (Host.tuple_uniqReqId (ok.host src) inside)
      have home := msgOk.reply bypasses.1
      rw [msg_reqId ok inside] at home
      exact name.trans (home.trans towards)
    by_contra scheduled
    have active := msgOk.active_of_unsent (quiet.sent src id inside)
    exact (msgOk.scheduled active (by simpa using scheduled)).1 (unsolicited _ answered client bypasses.2)

def RepliesCounted (cfg : Config) (net : Net) : Prop :=
  ∀ server, ∀ r ∈ (net.host server).rpc.respSent, r.1 ≤ maxR2p2Payload → Sender.unsolicited cfg r.1

theorem restored_all_iff (quiet : net.Quiescent) : (∀ a, (net.host a).Restored cfg) ↔ net.RepliesCounted cfg := by
  simp only [restored_iff ok quiet, withheld_eq_zero_iff ok, unscheduled_iff ok quiet]
  constructor
  · intro counted server r answered
    exact counted r.2.clAddr server r answered rfl
  · intro counted a src r answered _
    exact counted src r answered

theorem done_of_quiescent (quiet : net.Quiescent) (counted : net.RepliesCounted cfg) (a : Addr) :
    (net.host a).Done := by
  intro id inside
  have inv := (ok.host a).halves.recv.inv
  have known : id ∈ ((net.host a).recvSide cfg).objs.keys := inv.live id (List.mem_toFinset.mpr inside)
  obtain ⟨q, arrived, of, -⟩ := inv.first id known
  have link := linked_hosts ok q.src a
  have done := settled ok quiet q.src a
  have origin : q.src = (net.host q.src).sendSide.addr := (ok.addr q.src).symm
  obtain ⟨member, towards, -⟩ := link.packet_of_sent (link.sent_of_arrived arrived origin).1
  rw [of] at member towards
  obtain ⟨info, expected, granted⟩ := link.granted_of_settled done member towards known
  have multi : ¬ ((net.host q.src).sendSide.msgs.get id).Bypasses := by
    intro bypasses
    have scheduled := (link.known_iff_of_settled done member towards bypasses).mp known
    have unscheduled := (unscheduled_iff ok quiet q.src a).mpr (fun r answered _ => counted q.src r answered) id member
      (towards.trans (ok.addr a)) bypasses
    exact nomatch scheduled.symm.trans unscheduled
  have here : dataOf id (fromAddr (net.host q.src).sendSide.addr ((net.host a).recvSide cfg).arrived) =
      dataOf id ((net.host a).recvSide cfg).arrived :=
    dataOf_filter fun p there => by
      obtain ⟨came, -, name⟩ := mem_dataOf.mp there
      rw [beq_iff_eq]
      exact link.origin p came (name ▸ member) (name ▸ towards)
  have data := payloadSum_perm (link.dataOf_of_landed done.landed member towards)
  rw [here, if_neg multi] at data
  have sum := (msgOk ok member).payloadSum_add
  have unsent : (net.msg q.src id).unsentBytes = 0 := quiet.sent q.src id member
  rw [msg_reqId ok member, unsent, add_zero] at sum
  have received : ((net.host a).rcv.msg id).dataBytesReceived = (net.msg q.src id).totalBytes :=
    (inv.obj id known).received.trans (data.trans sum)
  refine ⟨⟨info, received.trans expected.symm, granted.trans expected.symm⟩, ?_⟩
  exact lt_of_lt_of_eq (msgOk ok member).total_pos expected.symm

end Replies

end Net

end PhantomPass
