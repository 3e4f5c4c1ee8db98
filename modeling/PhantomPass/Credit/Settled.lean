import PhantomPass.Credit.Landed

/-! What is left between two hosts once everything has arrived: no credit in the
sender's pool, and nothing owed but for replies that ask for credit and then
pass the accounts. -/

set_option autoImplicit false

namespace PhantomPass

open Lib (Store)

theorem total_dataOf {msgs : Store UniqReqId OutboundMsgState} {log : List Packet}
    (owned : ∀ p ∈ log, p.isData = true → p.uniqReqId ∈ msgs.keys) :
    (msgs.total fun id _ => wireSum (dataOf id log)) = wireSum (dataPkts log) := by
  induction log with
  | nil => simp [Store.total, dataPkts]
  | cons p rest ih =>
    have front : ∀ id, wireSum (dataOf id (p :: rest)) =
        (if p.isData = true ∧ p.uniqReqId = id then p.wireCost else 0) + wireSum (dataOf id rest) := by
      intro id
      unfold dataOf
      by_cases of : p.isData = true ∧ p.uniqReqId = id
      · rw [if_pos of, List.filter_cons_of_pos (by simpa using of)]
        simp [wireSum]
      · rw [if_neg of, List.filter_cons_of_neg (by simpa using of), zero_add]
    simp only [front]
    rw [Store.total_add, ih fun q later => owned q (List.mem_cons_of_mem p later)]
    unfold Store.total dataPkts
    cases data : p.isData with
    | true =>
      have inside := List.mem_toFinset.mpr (owned p List.mem_cons_self data)
      rw [List.filter_cons_of_pos data]
      simp only [true_and]
      rw [Finset.sum_ite_eq, if_pos inside]
      simp [wireSum]
    | false =>
      rw [List.filter_cons_of_neg (by simp [data])]
      simp only [Bool.false_eq_true, false_and, if_false, Finset.sum_const_zero, zero_add]

def RecvSide.cost (r : RecvSide) (m : OutboundMsgState) : ℤ :=
    if m.remoteAddr = r.addr then (ethernet.wire m.totalBytes : ℤ) else 0

/-- What stays owed for it: a known reply whose data bypasses the accounts gives nothing back. -/
def RecvSide.withheld (r : RecvSide) (id : UniqReqId) (m : OutboundMsgState) : ℤ :=
  if m.remoteAddr = r.addr ∧ id ∈ r.objs.keys ∧ m.Bypasses then (ethernet.wire m.totalBytes : ℤ) else 0

/-- All that one host sent another has been sent and has arrived, and so have the GRANTs for it. -/
structure Settled (s : SendSide) (r : RecvSide) : Prop where
  sent : ∀ id ∈ s.msgs.keys, (s.msgs.get id).remoteAddr = r.addr → (s.msgs.get id).unsentBytes = 0
  arrived : ((toAddr r.addr s.out).filter fun p => !p.isSingleReply).Perm (fromAddr s.addr r.arrived)
  grants : creditSum (fromAddr r.addr s.grants) = creditSum (toAddr s.addr r.grants)

theorem Settled.landed {s : SendSide} {r : RecvSide} (settled : Settled s r) : Landed s r :=
    ⟨settled.arrived, settled.grants⟩

namespace Linked

variable {cfg : Config} {s : SendSide} {r : RecvSide} {id : UniqReqId} {q : Packet}

section Settled

variable (linked : Linked cfg s r) (settled : Settled s r)

include linked settled

theorem costTo_of_settled : s.costTo r.addr = s.msgs.total fun _ m => r.cost m := by
  rw [← linked.send.spent r.addr]
  apply Store.total_congr
  intro id inside
  unfold RecvSide.cost
  split
  · next towards =>
    unfold OutboundMsgState.spent
    rw [settled.sent id inside towards, Lib.Framing.wire_zero]
    simp
  · rfl

theorem avail_of_settled : s.avail r.addr + s.msgs.total (fun _ m => r.cost m) = s.msgs.total r.paid := by
  rw [← linked.costTo_of_settled settled, ← linked.send.spent r.addr]
  exact linked.avail_of_landed settled.landed

theorem credited_of_settled : s.avail r.addr = 0 ∧ ∀ id ∈ s.msgs.keys, r.paid id (s.msgs.get id) = r.cost
    (s.msgs.get id) := by
  have avail := linked.avail_of_settled settled
  have nonneg := linked.send.avail_nonneg r.addr
  have le : ∀ id ∈ s.msgs.keys, r.paid id (s.msgs.get id) ≤ r.cost (s.msgs.get id) := by
    intro id inside
    unfold RecvSide.paid RecvSide.cost
    split
    · next towards => exact linked.credited_le inside towards
    · exact le_refl _
  have sum : s.msgs.total r.paid ≤ s.msgs.total fun _ m => r.cost m := Store.total_le_total s.msgs le
  have same : s.msgs.total r.paid = s.msgs.total fun _ m => r.cost m := by omega
  exact ⟨by omega, Store.eq_of_total_eq s.msgs le same⟩

theorem granted_of_settled (inside : id ∈ s.msgs.keys) (towards : (s.msgs.get id).remoteAddr = r.addr)
    (known : id ∈ r.objs.keys) : (r.objs.get id).receivedMsgInfo = true ∧
      (r.objs.get id).dataBytesExpected = (s.msgs.get id).totalBytes ∧
      (r.objs.get id).dataBytesGranted = (s.msgs.get id).totalBytes := by
  have credited := (linked.credited_of_settled settled).2 id inside
  unfold RecvSide.paid RecvSide.cost at credited
  rw [if_pos towards, if_pos towards, if_pos known] at credited
  obtain ⟨info, granted⟩ := linked.granted_of_credited inside towards known credited
  exact ⟨info, (linked.credited_eq inside towards known info).1, granted⟩

theorem wireSum_of_settled (inside : id ∈ s.msgs.keys) (towards : (s.msgs.get id).remoteAddr = r.addr) :
    wireSum (dataOf id (fromAddr s.addr r.arrived)) =
      if (s.msgs.get id).Bypasses then 0 else (ethernet.wire (s.msgs.get id).totalBytes : ℤ) := by
  rw [wireSum_perm (linked.dataOf_of_landed settled.landed inside towards)]
  split
  · rfl
  · have sum := (linked.send.msg id inside).wireSum_add
    rw [linked.send.names id inside, settled.sent id inside towards, Lib.Framing.wire_zero] at sum
    simpa using sum

omit settled in
theorem known_of_data (there : q ∈ dataOf id (fromAddr s.addr r.arrived)) :
    id ∈ s.msgs.keys ∧ (s.msgs.get id).remoteAddr = r.addr ∧ id ∈ r.objs.keys := by
  obtain ⟨member, -, of⟩ := mem_dataOf.mp there
  obtain ⟨arrived, origin⟩ := mem_fromAddr.mp member
  obtain ⟨inside, towards, -⟩ := linked.packet_of_sent (linked.sent_of_arrived arrived origin).1
  have known := (linked.recv.arrived q arrived).2.1
  rw [of] at inside towards known
  exact ⟨inside, towards, known⟩

/-- What a sender still owes is what the replies cost that asked for credit and bypassed the accounts. -/
theorem owed_of_settled : r.owed s.addr = s.msgs.total r.withheld := by
  have owned : ∀ p ∈ fromAddr s.addr r.arrived, p.isData = true → p.uniqReqId ∈ s.msgs.keys := fun p there data =>
    (linked.known_of_data (mem_dataOf.mpr ⟨there, data, rfl⟩)).1
  rw [linked.recv.owed, linked.recv.drawn, ← total_dataOf owned, ← linked.heard_eq, ← linked.ofSender_eq,
    ← Store.total_add,
    ← Store.total_sub]
  apply Store.total_congr
  intro id inside
  unfold RecvSide.withheld
  by_cases heard : (s.msgs.get id).remoteAddr = r.addr ∧ id ∈ r.objs.keys
  · obtain ⟨towards, known⟩ := heard
    have paid := (linked.credited_of_settled settled).2 id inside
    unfold RecvSide.paid RecvSide.cost at paid
    rw [if_pos towards, if_pos towards, if_pos known] at paid
    rw [linked.wireSum_of_settled settled inside towards]
    simp only [towards, known, true_and, if_true]
    split <;> omega
  · have none : dataOf id (fromAddr s.addr r.arrived) = [] := by
      rw [List.eq_nil_iff_forall_not_mem]
      intro q there
      exact heard (linked.known_of_data there).2
    rw [none, if_neg heard, if_neg heard, if_neg fun all => heard ⟨all.1, all.2.1⟩]
    rfl

/-- A message of which all was sent is known, unless it credited itself and its data bypassed the accounts. -/
theorem known_iff_of_settled (inside : id ∈ s.msgs.keys) (towards : (s.msgs.get id).remoteAddr = r.addr)
    (bypasses : (s.msgs.get id).Bypasses) : id ∈ r.objs.keys ↔ (s.msgs.get id).isScheduled = true := by
  have ok := linked.send.msg id inside
  have name := linked.send.names id inside
  have reqs := ok.creditReqs_length
  rw [name] at reqs
  constructor
  · intro known
    obtain ⟨q, arrived, of, -, src⟩ := linked.recv.first id known
    have origin := linked.origin q arrived (of ▸ inside) (of ▸ towards)
    have request : q.isCreditReq = true := by
      apply (linked.recv.arrived q arrived).1.resolve_left
      intro data
      have none := linked.dataOf_of_landed settled.landed inside towards
      rw [if_pos bypasses] at none
      have there := mem_dataOf.mpr ⟨mem_fromAddr.mpr ⟨arrived, origin⟩, data, of⟩
      rw [none.eq_nil] at there
      cases there
    have out := (mem_toAddr.mp (linked.sent_of_arrived arrived origin).1).1
    by_contra unscheduled
    rw [Bool.not_eq_true] at unscheduled
    rw [unscheduled, Bool.false_and, if_neg Bool.false_ne_true] at reqs
    have there := mem_creditReqsOf.mpr ⟨out, request, of⟩
    rw [List.eq_nil_of_length_eq_zero reqs] at there
    cases there
  · intro scheduled
    have active := ok.active_of_unsent (settled.sent id inside towards)
    rw [scheduled, (ok.scheduled active scheduled).2, Bool.and_self, if_pos rfl] at reqs
    obtain ⟨q, there⟩ := List.exists_mem_of_length_pos (lt_of_lt_of_eq Nat.zero_lt_one reqs.symm)
    obtain ⟨out, request, of⟩ := mem_creditReqsOf.mp there
    rw [← name] at there
    have multi : q.isSingleReply = false := by
      unfold Packet.isCreditReq at request
      unfold Packet.isSingleReply
      rw [beq_iff_eq.mp request]
      rfl
    have dst := (ok.creditReqs q there).dst
    have arrived := settled.arrived.subset
      (List.mem_filter.mpr ⟨mem_toAddr.mpr ⟨out, dst.trans towards⟩, by rw [multi]; rfl⟩)
    rw [← of]
    exact (linked.recv.arrived q (mem_fromAddr.mp arrived).1).2.1

end Settled

end Linked

end PhantomPass
