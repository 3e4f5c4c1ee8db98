import PhantomPass.Network.Counts

/-! What messages cost in packets. However a run goes, the network carries no more
of them than the messages of the applications account for. -/

set_option autoImplicit false

namespace PhantomPass

open Lib (Store)

/-- What is sent for so many bytes, at most: an announcement, and for each frame the data and a GRANT. -/
def packetsFor (n : ℕ) : ℕ := 2 * (ethernet.lens n).length + 1

section Message

variable {cfg : Config} {addr : Addr} {out arrived grants : List Packet} {m : OutboundMsgState} {o : InboundMsgState}
  {id : UniqReqId}

theorem MsgOk.parts_le (ok : MsgOk cfg addr out m) (kinds : ∀ q ∈ out, q.isData = true ∨ q.isCreditReq = true) :
    (out.filter fun q => q.uniqReqId = m.reqId).length ≤ (ethernet.lens m.totalBytes).length + 1 := by
  have data : (dataOf m.reqId out).length ≤ (ethernet.lens m.totalBytes).length := by
    have lens := congrArg List.length ok.lens
    rw [List.length_append, List.length_map] at lens
    omega
  have requests : (creditReqsOf m.reqId out).length ≤ 1 := by
    rw [ok.creditReqs_length]
    split <;> omega
  have split : (out.filter fun q => q.uniqReqId = m.reqId).length ≤
      (dataOf m.reqId out).length + (creditReqsOf m.reqId out).length := by
    unfold dataOf creditReqsOf
    rw [← List.countP_eq_length_filter, ← List.countP_eq_length_filter, ← List.countP_eq_length_filter,
      List.countP_eq_countP_filter_add _ _ Packet.isData, List.countP_filter, List.countP_filter]
    apply Nat.add_le_add
    · apply List.countP_mono_left
      intro q _ both
      simpa [and_comm] using both
    · apply List.countP_mono_left
      intro q inside both
      have kind := kinds q inside
      simp_all
  omega

theorem ObjOk.grants_le (ok : ObjOk arrived grants id o) :
    (grantsOf id grants).length ≤ (ethernet.lens o.dataBytesExpected).length := by
  have lens := congrArg List.length ok.lens
  rw [List.length_append, List.length_map] at lens
  have less := ethernet.length_lens_le (Nat.sub_le o.dataBytesExpected o.base)
  omega

end Message

namespace Net

variable {cfg : Config} {env : Env} {net net' : Net} {cond : Net → Event → Prop} {src dst : Addr} {p : Packet}
  {id : UniqReqId}

def sentFor (net : Net) (src dst : Addr) : List Packet :=
  (toAddr dst (net.host src).sent).filter (fun p => !p.isGrant) ++
    (toAddr src (net.host dst).sent).filter Packet.isGrant

/-- The messages that the application of one host sent to another. -/
def asked (net : Net) (src dst : Addr) : List (ℕ × RequestIdTuple) :=
  ((net.host src).rpc.reqSent.filter fun r => r.2.srAddr = dst) ++ (net.host src).rpc.respSent.filter fun r =>
    r.2.clAddr = dst

def allowance (net : Net) (src dst : Addr) : ℕ := ((net.asked src dst).map fun r => packetsFor r.1).sum

section Bound

variable (ok : NetOk cfg net)

include ok

theorem grantsFor_le (inside : id ∈ (net.msgs src).keys) :
    (net.grantsFor src id).length ≤ (ethernet.lens (net.msg src id).totalBytes).length := by
  by_cases known : id ∈ (net.host (net.msg src id).remoteAddr).rcv.inboundObjs.keys
  · have obj := (ok.host (net.msg src id).remoteAddr).halves.recv.inv.obj id known
    have grants := obj.grants_le
    have expected : ((net.host (net.msg src id).remoteAddr).rcv.msg id).dataBytesExpected ≤
      (net.msg src id).totalBytes := by
      cases info : ((net.host (net.msg src id).remoteAddr).rcv.msg id).receivedMsgInfo with
      | true => exact ((inbound_eq ok inside known).2 info).le
      | false => exact (obj.idle info).2.1.trans_le (Nat.zero_le _)
    rw [grantsFor_eq cfg]
    exact grants.trans (ethernet.length_lens_le expected)
  · rw [grantsFor_unknown ok known]
    exact Nat.zero_le _

theorem message_of_sentFor (sent : p ∈ net.sentFor src dst) :
    p.uniqReqId ∈ (net.msgs src).keys ∧ (net.msg src p.uniqReqId).remoteAddr = dst := by
  rcases List.mem_append.mp sent with part | grant
  · obtain ⟨sent, plain⟩ := List.mem_filter.mp part
    obtain ⟨sent, towards⟩ := mem_toAddr.mp sent
    obtain ⟨-, member, remote⟩ := part_of_sent ok sent (by simpa using plain)
    exact ⟨member, remote.symm.trans towards⟩
  · obtain ⟨sent, grant⟩ := List.mem_filter.mp grant
    obtain ⟨sent, towards⟩ := mem_toAddr.mp sent
    have origin := src_of_sent ok sent
    rw [← origin] at sent
    obtain ⟨member, remote, -⟩ := message_of_grant ok sent grant
    rw [towards] at member remote
    exact ⟨member, remote.trans origin⟩

theorem sentFor_le (inside : id ∈ (net.msgs src).keys) (towards : (net.msg src id).remoteAddr = dst) :
    ((net.sentFor src dst).filter fun p => p.uniqReqId = id).length ≤ packetsFor (net.msg src id).totalBytes := by
  have parts := (msgOk ok inside).parts_le fun q sent => ((ok.host src).halves.send.inv.owned q sent).1
  rw [msg_reqId ok inside] at parts
  have grants := grantsFor_le ok inside
  have left : (((toAddr dst (net.host src).sent).filter fun p => !p.isGrant).filter fun p => p.uniqReqId = id).length ≤
      ((net.host src).sendSide.out.filter fun q => q.uniqReqId = id).length :=
    ((List.filter_sublist.filter _).filter _).length_le
  have right : (((toAddr src (net.host dst).sent).filter Packet.isGrant).filter fun p => p.uniqReqId = id).length ≤
      (net.grantsFor src id).length := by
    unfold grantsFor grantsOf
    rw [List.filter_filter, towards]
    simp only [Bool.and_comm, beq_eq_decide]
    exact (List.filter_sublist.filter _).length_le
  unfold sentFor packetsFor
  rw [List.filter_append, List.length_append]
  omega

theorem asked_of_msg (inside : id ∈ (net.msgs src).keys) :
    ∃ r ∈ net.asked src (net.msg src id).remoteAddr, r.2.uniqReqId = id ∧ r.1 = (net.msg src id).totalBytes := by
  have entry := (ok.host src).entry _ inside
  have name : (net.msg src id).tuple.uniqReqId = id := (msgOk ok inside).name.trans (msg_reqId ok inside)
  refine ⟨((net.msg src id).totalBytes, (net.msg src id).tuple), ?_, name, rfl⟩
  have sent := entry.sent
  rw [show (net.host src).snd.msg id = net.msg src id from rfl] at sent
  cases request : (net.msg src id).isRequest with
  | true =>
    rw [request, if_pos rfl] at sent
    have remote : (net.msg src id).remoteAddr = (net.msg src id).tuple.srAddr := entry.remote request
    exact List.mem_append_left _ (List.mem_filter.mpr ⟨sent, by simp [remote]⟩)
  | false =>
    rw [request, if_neg Bool.false_ne_true] at sent
    have remote := (reply_message ok sent).2.2.2
    rw [name] at remote
    exact List.mem_append_right _ (List.mem_filter.mpr ⟨sent, by simp [remote]⟩)

theorem msg_of_asked {r : ℕ × RequestIdTuple} (asked : r ∈ net.asked src dst) :
    r.2.uniqReqId ∈ (net.msgs src).keys := by
  rcases List.mem_append.mp asked with request | reply
  · exact (request_message ok (List.mem_filter.mp request).1).1
  · exact (reply_message ok (List.mem_filter.mp reply).1).1

theorem sentFor_le_allowance (src dst : Addr) : (net.sentFor src dst).length ≤ net.allowance src dst := by
  have packets := (net.msgs src).total_items Packet.uniqReqId (fun _ => (1 : ℤ))
    fun p (sent : p ∈ net.sentFor src dst) => (message_of_sentFor ok sent).1
  have messages := (net.msgs src).total_items (fun r : ℕ × RequestIdTuple => r.2.uniqReqId) (fun r =>
    (packetsFor r.1 : ℤ))
    fun r (asked : r ∈ net.asked src dst) => msg_of_asked ok asked
  have each : ∀ id ∈ (net.msgs src).keys,
      (((net.sentFor src dst).filter fun p => p.uniqReqId = id).map fun _ => (1 : ℤ)).sum ≤
        (((net.asked src dst).filter fun r => r.2.uniqReqId = id).map fun r => (packetsFor r.1 : ℤ)).sum := by
    intro id inside
    rw [List.map_const', List.sum_replicate, nsmul_one]
    have nonneg : ∀ c ∈ ((net.asked src dst).filter fun r => r.2.uniqReqId = id).map fun r => (packetsFor r.1 : ℤ),
        0 ≤ c := by
      intro c member
      obtain ⟨r, -, rfl⟩ := List.mem_map.mp member
      exact Int.natCast_nonneg _
    by_cases towards : (net.msg src id).remoteAddr = dst
    · obtain ⟨r, asked, name, size⟩ := asked_of_msg ok inside
      rw [towards] at asked
      have fits := sentFor_le ok inside towards
      rw [← size] at fits
      have member : (packetsFor r.1 : ℤ) ∈
          ((net.asked src dst).filter fun r => r.2.uniqReqId = id).map fun r => (packetsFor r.1 : ℤ) :=
        List.mem_map.mpr ⟨r, List.mem_filter.mpr ⟨asked, by simp [name]⟩, rfl⟩
      exact (Int.ofNat_le.mpr fits).trans (List.single_le_sum nonneg _ member)
    · have none : ((net.sentFor src dst).filter fun p => p.uniqReqId = id) = [] := by
        apply List.filter_eq_nil_iff.mpr
        intro p sent of
        rw [decide_eq_true_eq] at of
        exact towards (of ▸ (message_of_sentFor ok sent).2)
      rw [none]
      exact List.sum_nonneg nonneg
  have bound : ((net.sentFor src dst).map fun _ => (1 : ℤ)).sum ≤
      ((net.asked src dst).map fun r => (packetsFor r.1 : ℤ)).sum := by
    rw [← packets, ← messages]
    exact Finset.sum_le_sum fun id inside => each id (List.mem_toFinset.mp inside)
  rw [List.map_const', List.sum_replicate, nsmul_one] at bound
  unfold allowance
  apply Int.ofNat_le.mp
  rw [Nat.cast_list_sum, List.map_map]
  exact bound

end Bound

/-- However a run goes, the packets of the messages of one host to another and the GRANTs for them, which go
the other way, are no more than those that the messages account for: none is sent twice. -/
theorem traffic_bounded (reach : Reach env cond net) (src dst : Addr) :
    ((toAddr dst (net.host src).sent).filter fun p => !p.isGrant).length +
        ((toAddr src (net.host dst).sent).filter Packet.isGrant).length ≤
      (((net.host src).rpc.reqSent.filter fun r => r.2.srAddr = dst).map fun r =>
      2 * (ethernet.lens r.1).length + 1).sum +
        (((net.host src).rpc.respSent.filter fun r => r.2.clAddr = dst).map fun r =>
        2 * (ethernet.lens r.1).length + 1).sum := by
  have bound := sentFor_le_allowance reach.ok src dst
  unfold sentFor allowance asked packetsFor at bound
  rwa [List.length_append, List.map_append, List.sum_append] at bound

/-- One announcement and three GRANTs, of seven packets at most. -/
theorem traffic_bounded_allGranted : ∃ net, Reachable tenFrames net ∧
    ((toAddr 0 (net.host 1).sent).filter Packet.isGrant).length = 3 ∧
    ((toAddr 1 (net.host 0).sent).filter fun p => !p.isGrant).length +
      ((toAddr 0 (net.host 1).sent).filter Packet.isGrant).length ≤ 7 := by
  have ran : ((init tenFrames.cfg).run tenFrames allGranted).map (fun net => decide (
      ((toAddr 0 (net.host 1).sent).filter Packet.isGrant).length = 3 ∧
      (((net.host 0).rpc.reqSent.filter fun r => r.2.srAddr = 1).map fun r => 2 * (ethernet.lens r.1).length + 1).sum +
        (((net.host 0).rpc.respSent.filter fun r => r.2.clAddr = 1).map fun r =>
          2 * (ethernet.lens r.1).length + 1).sum = 7)) =
      some true := by
    decide +kernel
  obtain ⟨net, run, values⟩ := Option.map_eq_some_iff.mp ran
  obtain ⟨grants, seven⟩ := of_decide_eq_true values
  have reach : Reachable tenFrames net := Reach.run .init (fun _ _ _ => trivial) run
  exact ⟨net, reach, grants, (traffic_bounded reach 0 1).trans seven.le⟩

end Net

end PhantomPass
