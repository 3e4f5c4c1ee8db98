import PhantomPass.Credit.Debts

/-! Two hosts with nothing in flight between them. The sender's pool covers what
it owes; and once all that the receiver knows of is granted, it covers the rest
of every message. -/

set_option autoImplicit false

namespace PhantomPass

open Lib (Store)

def RecvSide.paid (r : RecvSide) (id : UniqReqId) (m : OutboundMsgState) : ℤ :=
  if m.remoteAddr = r.addr then m.selfAllocCredit + (if id ∈ r.objs.keys then (r.objs.get id).drawn else 0) else 0

/-- All that one host sent another has arrived, and so have the GRANTs for it. -/
structure Landed (s : SendSide) (r : RecvSide) : Prop where
  arrived : ((toAddr r.addr s.out).filter fun p => !p.isSingleReply).Perm (fromAddr s.addr r.arrived)
  grants : creditSum (fromAddr r.addr s.grants) = creditSum (toAddr s.addr r.grants)

namespace Linked

variable {cfg : Config} {s : SendSide} {r : RecvSide} {id : UniqReqId} {q : Packet}

section Known

variable (linked : Linked cfg s r) (inside : id ∈ s.msgs.keys) (towards : (s.msgs.get id).remoteAddr = r.addr)

include linked inside towards

theorem said_of_arrived (arrived : q ∈ r.arrived) (of : q.uniqReqId = id) :
    q.hdr.unsolCreditData = (s.msgs.get id).selfAllocCreditData ∧
      q.hdr.creditReq = if (s.msgs.get id).isScheduled && q.isData then 0 else (s.msgs.get id).totalBytes := by
  subst of
  obtain ⟨sent, -⟩ := linked.sent_of_arrived arrived (linked.origin q arrived inside towards)
  have out := (mem_toAddr.mp sent).1
  have packet := (linked.send.msg _ inside).packet (p := q)
  rw [linked.send.names _ inside] at packet
  have parts : q ∈ dataOf q.uniqReqId s.out ∨ q ∈ creditReqsOf q.uniqReqId s.out := by
    rcases (linked.send.owned q out).1 with data | req
    · exact Or.inl (mem_dataOf.mpr ⟨out, data, rfl⟩)
    · exact Or.inr (mem_creditReqsOf.mpr ⟨out, req, rfl⟩)
  obtain ⟨-, -, -, -, unsolData, told⟩ := packet parts
  exact ⟨unsolData, told⟩

/-- What a message credited itself and what it was granted pays for it, but for what is not granted yet. -/
theorem credited_eq (known : id ∈ r.objs.keys) (info : (r.objs.get id).receivedMsgInfo = true) :
    (r.objs.get id).dataBytesExpected = (s.msgs.get id).totalBytes ∧
      (s.msgs.get id).selfAllocCredit + (r.objs.get id).drawn =
        ethernet.wire (s.msgs.get id).totalBytes -
          ethernet.wire ((s.msgs.get id).totalBytes - (r.objs.get id).dataBytesGranted) := by
  have obj := linked.recv.obj id known
  obtain ⟨d, le, aligned, data, credit, -⟩ := (linked.send.msg id inside).alloc
  obtain ⟨q, arrived, of, told, size⟩ := obj.informed info
  have said := (linked.said_of_arrived inside towards arrived of).2
  have expected : (r.objs.get id).dataBytesExpected = (s.msgs.get id).totalBytes := by
    split at said <;> omega
  have base : (r.objs.get id).base = d := by
    obtain ⟨q, arrived, of, hdr, -⟩ := linked.recv.first id known
    unfold InboundMsgState.base
    rw [← hdr, (linked.said_of_arrived inside towards arrived of).1, data]
    rfl
  refine ⟨expected, ?_⟩
  unfold InboundMsgState.drawn
  rw [expected, base, credit, ← wire_prefix le aligned]
  push_cast
  ring

/-- A message gets no more than it costs, and just that when it is known, of known size and granted. -/
theorem credited_le : (s.msgs.get id).selfAllocCredit + (if id ∈ r.objs.keys then (r.objs.get id).drawn else 0) ≤
    ethernet.wire (s.msgs.get id).totalBytes := by
  obtain ⟨d, le, -, -, credit, -⟩ := (linked.send.msg id inside).alloc
  have part : (s.msgs.get id).selfAllocCredit ≤ ethernet.wire (s.msgs.get id).totalBytes := by
    rw [credit]
    exact_mod_cast ethernet.wire_mono le
  split
  · next known =>
    cases info : (r.objs.get id).receivedMsgInfo with
    | true =>
      obtain ⟨-, credited⟩ := linked.credited_eq inside towards known info
      rw [credited]
      omega
    | false =>
      have nothing : (r.objs.get id).drawn = 0 := by
        obtain ⟨-, expected, granted⟩ := (linked.recv.obj id known).idle info
        unfold InboundMsgState.drawn
        rw [expected, granted]
        simp
      rw [nothing]
      omega
  · omega

theorem granted_of_credited (known : id ∈ r.objs.keys)
    (credited : (s.msgs.get id).selfAllocCredit + (r.objs.get id).drawn = ethernet.wire (s.msgs.get id).totalBytes) :
    (r.objs.get id).receivedMsgInfo = true ∧ (r.objs.get id).dataBytesGranted = (s.msgs.get id).totalBytes := by
  have obj := linked.recv.obj id known
  have total := ethernet.wire_pos (linked.send.msg id inside).total_pos
  cases info : (r.objs.get id).receivedMsgInfo with
  | true =>
    obtain ⟨expected, eq⟩ := linked.credited_eq inside towards known info
    have le := obj.granted_le
    refine ⟨rfl, ?_⟩
    by_contra rest
    have := ethernet.wire_pos (n := (s.msgs.get id).totalBytes - (r.objs.get id).dataBytesGranted) (by omega)
    omega
  | false =>
    -- nothing is credited to a message whose size is not known
    obtain ⟨-, expected, granted⟩ := obj.idle info
    obtain ⟨base, -⟩ := linked.recv.quiet id known info
    have unsol := (linked.known_of_member inside towards known).2
    rw [obj.unsol, base, Lib.Framing.wire_zero] at unsol
    unfold InboundMsgState.drawn at credited
    rw [expected, granted, ← unsol] at credited
    simp at credited
    omega

end Known

section Landed

variable (linked : Linked cfg s r) (landed : Landed s r)

include linked landed

theorem avail_of_landed : s.avail r.addr + s.toward r.addr OutboundMsgState.spent = s.msgs.total r.paid := by
  have pool := linked.send.pool r.addr
  rw [← linked.send.spent, landed.grants, linked.recv.drawn, ← linked.ofSender_eq] at pool
  rw [pool]
  unfold SendSide.toward
  rw [← Store.total_add]
  apply Store.total_congr
  intro id _
  unfold RecvSide.paid
  by_cases towards : (s.msgs.get id).remoteAddr = r.addr
  · by_cases known : id ∈ r.objs.keys <;> simp [towards, known]
  · simp [towards]

theorem dataOf_of_landed (inside : id ∈ s.msgs.keys) (towards : (s.msgs.get id).remoteAddr = r.addr) :
    (dataOf id (fromAddr s.addr r.arrived)).Perm (if (s.msgs.get id).Bypasses then [] else dataOf id s.out) := by
  have ok := linked.send.msg id inside
  have name := linked.send.names id inside
  have single : ∀ p ∈ dataOf id s.out, (p.isSingleReply = true ↔ (s.msgs.get id).Bypasses) := by
    intro p there
    apply ok.isSingleReply_iff
    rwa [name]
  have aimed : dataOf id (toAddr r.addr s.out) = dataOf id s.out :=
    dataOf_filter fun p there => by
      rw [← name] at there
      exact beq_iff_eq.mpr ((ok.data p there).dst.trans towards)
  have moved := (landed.arrived.filter fun p => p.isData && p.uniqReqId == id).symm
  change (dataOf id (fromAddr s.addr r.arrived)).Perm (dataOf id ((toAddr r.addr s.out).filter _)) at moved
  split
  · next bypasses =>
    have none : dataOf id ((toAddr r.addr s.out).filter fun p => !p.isSingleReply) = [] := by
      rw [List.eq_nil_iff_forall_not_mem]
      intro p there
      obtain ⟨kept, data, of⟩ := mem_dataOf.mp there
      obtain ⟨sent, multi⟩ := List.mem_filter.mp kept
      have bypass := (single p (mem_dataOf.mpr ⟨(mem_toAddr.mp sent).1, data, of⟩)).mpr bypasses
      rw [bypass] at multi
      cases multi
    rwa [none] at moved
  · next counted =>
    have all : dataOf id ((toAddr r.addr s.out).filter fun p => !p.isSingleReply) = dataOf id s.out := by
      rw [← aimed]
      apply dataOf_filter
      intro p there
      rw [aimed] at there
      rw [Bool.not_eq_true', ← Bool.not_eq_true, single p there]
      exact counted
    rwa [all] at moved


theorem arrived_of_landed (sent : q ∈ s.out) (towards : (s.msgs.get q.uniqReqId).remoteAddr = r.addr)
    (multi : q.isSingleReply = false) : q ∈ r.arrived := by
  obtain ⟨kind, inside⟩ := linked.send.owned q sent
  have name := linked.send.names _ inside
  have packet := (linked.send.msg _ inside).packet (p := q)
  rw [name] at packet
  have dst : q.dst = (s.msgs.get q.uniqReqId).remoteAddr := by
    rcases kind with data | req
    · exact (packet (Or.inl (mem_dataOf.mpr ⟨sent, data, rfl⟩))).2.1
    · exact (packet (Or.inr (mem_creditReqsOf.mpr ⟨sent, req, rfl⟩))).2.1
  have out : q ∈ (toAddr r.addr s.out).filter fun p => !p.isSingleReply :=
    List.mem_filter.mpr ⟨mem_toAddr.mpr ⟨sent, dst.trans towards⟩, by rw [multi]; rfl⟩
  exact (mem_fromAddr.mp (landed.arrived.subset out)).1

/-- An active message is known, and so is its size, once it asked for credit or began with what it credited itself. -/
theorem informed_of_landed (inside : id ∈ s.msgs.keys) (towards : (s.msgs.get id).remoteAddr = r.addr)
    (counted : ¬ (s.msgs.get id).Bypasses) (active : (s.msgs.get id).active = true)
    (begun : (s.msgs.get id).isScheduled = true ∨ (s.msgs.get id).sentFirst = true) :
    id ∈ r.objs.keys ∧ (r.objs.get id).receivedMsgInfo = true := by
  have ok := linked.send.msg id inside
  have name := linked.send.names id inside
  -- the GRANT_REQ of a scheduled message, a data packet of one that credited itself
  obtain ⟨q, sent, of, multi, told⟩ : ∃ q ∈ s.out, q.uniqReqId = id ∧ q.isSingleReply = false ∧
      q.hdr.creditReq = (s.msgs.get id).totalBytes := by
    cases scheduled : (s.msgs.get id).isScheduled with
    | true =>
      have reqs := ok.creditReqs_length
      rw [name, scheduled, (ok.scheduled active scheduled).2, Bool.and_self, if_pos rfl] at reqs
      obtain ⟨q, there⟩ := List.exists_mem_of_length_pos (lt_of_lt_of_eq Nat.zero_lt_one reqs.symm)
      obtain ⟨out, request, of⟩ := mem_creditReqsOf.mp there
      rw [← name] at there
      refine ⟨q, out, of, ?_, (ok.creditReqs q there).creditReq⟩
      unfold Packet.isCreditReq at request
      unfold Packet.isSingleReply
      rw [beq_iff_eq.mp request]
      rfl
    | false =>
      have first := begun.resolve_left (by simp [scheduled])
      have data : dataOf id s.out ≠ [] := by
        intro none
        rw [← name] at none
        exact nomatch first.symm.trans (ok.sentFirst.mpr none)
      obtain ⟨q, there⟩ := List.exists_mem_of_ne_nil _ data
      obtain ⟨out, -, of⟩ := mem_dataOf.mp there
      rw [← name] at there
      have told := (ok.data q there).creditReq
      rw [scheduled, if_neg Bool.false_ne_true] at told
      refine ⟨q, out, of, ?_, told⟩
      rw [← Bool.not_eq_true, ok.isSingleReply_iff there]
      exact counted
  have arrived := linked.arrived_of_landed landed sent (by rw [of]; exact towards) multi
  have known : id ∈ r.objs.keys := of ▸ (linked.recv.arrived q arrived).2.1
  refine ⟨known, ?_⟩
  by_contra uninformed
  have silent := (linked.recv.quiet id known ((Bool.not_eq_true _).mp uninformed)).2 q arrived of
  have pos := ok.total_pos
  omega

/-- When every message that is not sent whole is granted whole, the pool covers what is left of each. -/
theorem unsent_le_of_landed (granted : ∀ id ∈ s.msgs.keys, (s.msgs.get id).remoteAddr = r.addr → id ∈ r.objs.keys ∧
      (r.objs.get id).receivedMsgInfo = true ∧ (r.objs.get id).dataBytesGranted = (r.objs.get id).dataBytesExpected)
    (inside : id ∈ s.msgs.keys) (towards : (s.msgs.get id).remoteAddr = r.addr) :
    (ethernet.wire (s.msgs.get id).unsentBytes : ℤ) ≤ s.avail r.addr := by
  have rest : s.avail r.addr = s.toward r.addr fun m => ethernet.wire m.unsentBytes := by
    have avail := linked.avail_of_landed landed
    have paid : s.msgs.total r.paid =
        s.toward r.addr (fun m => ethernet.wire m.unsentBytes) + s.toward r.addr OutboundMsgState.spent := by
      unfold SendSide.toward
      rw [← Store.total_add]
      apply Store.total_congr
      intro other member
      unfold RecvSide.paid
      split
      · next towards =>
        obtain ⟨known, info, whole⟩ := granted other member towards
        obtain ⟨expected, credited⟩ := linked.credited_eq member towards known info
        rw [whole, expected, Nat.sub_self, Lib.Framing.wire_zero] at credited
        rw [if_pos known, credited]
        unfold OutboundMsgState.spent
        push_cast
        ring
      · rfl
    omega
  rw [rest]
  unfold SendSide.toward
  have single := Finset.single_le_sum
    (f := fun id => if (s.msgs.get id).remoteAddr = r.addr then (ethernet.wire (s.msgs.get id).unsentBytes : ℤ) else 0)
    (fun other _ => by split <;> positivity) (List.mem_toFinset.mpr inside)
  rwa [if_pos towards] at single

end Landed

end Linked

end PhantomPass
