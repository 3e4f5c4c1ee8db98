import Mathlib
import PhantomPass.Credit.SendSide

/-! What every step of the sending half preserves. A message agrees with the
packets it has sent; the pool of a receiver holds what its messages credited
themselves and were granted, less what their packets cost, and always enough
for what the messages credited themselves that have not sent a packet. -/

set_option autoImplicit false

namespace PhantomPass

open Lib (Store)

structure DataHdr (addr : Addr) (m : OutboundMsgState) (p : Packet) : Prop where
  src : p.src = addr
  dst : p.dst = m.remoteAddr
  msgType : p.hdr.msgType = if m.isRequest then .request else .reply
  tuple : p.hdr.requestIdTuple = { m.r2p2Hdr.requestIdTuple with ts := m.msgCreationTime }
  pktId : p.hdr.pktId = m.r2p2Hdr.pktId
  creditReq : p.hdr.creditReq = if m.isScheduled then 0 else m.totalBytes
  unsol : p.hdr.unsolCredit = m.selfAllocCredit ∧ p.hdr.unsolCreditData = m.selfAllocCreditData
  credit : p.hdr.credit = 0
  size : p.size = ethernet.cost p.payload
  padding : p.padding = p.size - (p.payload + wireOverhead)

structure CreditReqHdr (addr : Addr) (m : OutboundMsgState) (p : Packet) : Prop where
  src : p.src = addr
  dst : p.dst = m.remoteAddr
  creditReq : p.hdr.creditReq = m.totalBytes
  unsol : p.hdr.unsolCredit = 0 ∧ p.hdr.unsolCreditData = 0
  credit : p.hdr.credit = 0
  size : p.size = minEthernetFrameOnWire
  padding : p.padding = 0

structure MsgOk (cfg : Config) (addr : Addr) (out : List Packet) (m : OutboundMsgState) : Prop where
  total_pos : 0 < m.totalBytes
  name : m.r2p2Hdr.uniqReqId = m.reqId
  plain : m.r2p2Hdr.unsolCredit = 0 ∧ m.r2p2Hdr.unsolCreditData = 0
  request : m.isRequest = true → m.reqId.clAddr = addr
  reply : m.isRequest = false → m.reqId.clAddr = m.remoteAddr
  remote : m.remoteAddr ≠ addr
  pktId : m.r2p2Hdr.pktId = (ethernet.lens m.totalBytes).length - if m.isRequest then 1 else 0
  created : 99 / 10 < m.msgCreationTime
  lens : (dataOf m.reqId out).map Packet.payload ++ ethernet.lens m.unsentBytes = ethernet.lens m.totalBytes
  seqs : m.isRequest = true → (dataOf m.reqId out).map (fun p => (p.hdr.seq, p.payload)) ++
    ethernet.frames m.seq m.unsentBytes = ethernet.frames 0 m.totalBytes
  data : ∀ p ∈ dataOf m.reqId out, DataHdr addr m p
  firsts : (dataOf m.reqId out).countP (·.hdr.first) = if m.sentFirst then 1 else 0
  sentFirst : m.sentFirst = false ↔ dataOf m.reqId out = []
  creditReqs : ∀ p ∈ creditReqsOf m.reqId out, CreditReqHdr addr m p
  creditReqs_length : (creditReqsOf m.reqId out).length = if m.isScheduled && m.sentAnouncement then 1 else 0
  idle : m.active = false → m.sentAnouncement = false ∧ m.unsentBytes = m.totalBytes
  alloc : ∃ d ≤ m.totalBytes, (d = m.totalBytes ∨ ethernet.mss ∣ d) ∧ m.selfAllocCreditData = (d : ℕ) ∧
    m.selfAllocCredit = ethernet.wire d ∧ (m.isScheduled = true ↔ d = 0)
  checked : m.isScheduled = !m.usnsolCheckDone
  unsolicited : m.isScheduled = false → Sender.unsolicited cfg m.totalBytes
  scheduled : m.active = true → m.isScheduled = true → ¬ Sender.unsolicited cfg m.totalBytes ∧ m.sentAnouncement = true
  announced : m.isScheduled = false → m.sentAnouncement = m.sentFirst

namespace OutboundMsgState

theorem nextPayload_eq (m : OutboundMsgState) : m.nextPayload = min ethernet.mss m.unsentBytes := by
  unfold nextPayload; split <;> simp only [ethernet] <;> omega

theorem nextCost_eq (m : OutboundMsgState) : m.nextCost = ethernet.cost m.nextPayload := by
  rw [nextPayload_eq]; rfl

theorem wire_unsent {m : OutboundMsgState} (pos : 0 < m.unsentBytes) :
    (ethernet.wire m.unsentBytes : ℤ) = m.nextCost + ethernet.wire (m.unsentBytes - m.nextPayload) := by
  rw [nextCost_eq, nextPayload_eq, ethernet.wire_of_pos pos]; push_cast; rfl

/-- A reply that fits into a packet, which passes the receiver's accounts. -/
def Bypasses (m : OutboundMsgState) : Prop := m.isRequest = false ∧ m.totalBytes ≤ maxR2p2Payload

instance (m : OutboundMsgState) : Decidable m.Bypasses := inferInstanceAs (Decidable (_ ∧ _))

end OutboundMsgState

theorem wire_prefix {total d : ℕ} (le : d ≤ total) (aligned : d = total ∨ ethernet.mss ∣ d) :
    ethernet.wire d + ethernet.wire (total - d) = ethernet.wire total := by
  rcases aligned with rfl | aligned
  · simp
  · rw [← ethernet.wire_add aligned, Nat.add_sub_cancel' le]

theorem cost_le_wire_prefix {total d : ℕ} (pre : Prefix total d) :
    ethernet.cost (min ethernet.mss total) ≤ ethernet.wire d := by
  have first : min ethernet.mss d = min ethernet.mss total := by
    rcases pre.aligned with rfl | aligned
    · rfl
    · have := Nat.le_of_dvd pre.pos aligned
      have := pre.le
      omega
  rw [ethernet.wire_of_pos pre.pos, first]
  exact Nat.le_add_right _ _

namespace MsgOk

variable {cfg : Config} {addr : Addr} {out : List Packet} {m : OutboundMsgState}

theorem payloadSum_add (ok : MsgOk cfg addr out m) : payloadSum (dataOf m.reqId out) + m.unsentBytes =
    m.totalBytes := by
  have := congrArg List.sum ok.lens
  rwa [List.sum_append, ethernet.sum_lens, ethernet.sum_lens] at this

theorem active_of_unsent (ok : MsgOk cfg addr out m) (sent : m.unsentBytes = 0) : m.active = true := by
  by_contra idle
  have unsent := (ok.idle (by simpa using idle)).2
  have total := ok.total_pos
  omega

theorem wireSum_add (ok : MsgOk cfg addr out m) :
    wireSum (dataOf m.reqId out) + ethernet.wire m.unsentBytes = ethernet.wire m.totalBytes := by
  have := congrArg (fun l => (l.map ethernet.cost).sum) ok.lens
  simp only [List.map_append, List.sum_append, List.map_map] at this
  rw [Lib.Framing.wire, Lib.Framing.wire, ← this, wireSum]
  have same : ((dataOf m.reqId out).map Packet.wireCost).sum =
      (((dataOf m.reqId out).map (ethernet.cost ∘ Packet.payload)).sum : ℕ) := by
    rw [Nat.cast_list_sum, List.map_map]; rfl
  rw [same]; push_cast; rfl

theorem payload_pos (ok : MsgOk cfg addr out m) {p : Packet} (inside : p ∈ dataOf m.reqId out) :
    0 < p.payload ∧ p.payload ≤ ethernet.mss := by
  refine ethernet.mem_lens (n := m.totalBytes) ?_
  rw [← ok.lens]
  exact List.mem_append_left _ (List.mem_map_of_mem inside)

theorem idle_data (ok : MsgOk cfg addr out m) (idle : m.active = false) : dataOf m.reqId out = [] := by
  have len := congrArg List.length ok.lens
  rw [(ok.idle idle).2, List.length_append, List.length_map] at len
  exact List.eq_nil_of_length_eq_zero (by omega)

theorem idle_creditReqs (ok : MsgOk cfg addr out m) (idle : m.active = false) : creditReqsOf m.reqId out = [] := by
  have len := ok.creditReqs_length
  rw [(ok.idle idle).1, Bool.and_false] at len
  exact List.eq_nil_of_length_eq_zero len

theorem idle_sentFirst (ok : MsgOk cfg addr out m) (idle : m.active = false) : m.sentFirst = false :=
  ok.sentFirst.mpr (ok.idle_data idle)

theorem unsent_of_sentFirst (ok : MsgOk cfg addr out m) (unsent : m.sentFirst = false) :
    m.unsentBytes = m.totalBytes := by
  have := ok.payloadSum_add
  rw [ok.sentFirst.mp unsent] at this
  simpa using this

theorem selfAlloc_cases (ok : MsgOk cfg addr out m) :
    m.isScheduled = true ∧ m.selfAllocCredit = 0 ∨
      m.isScheduled = false ∧ (ethernet.cost (min ethernet.mss m.totalBytes) : ℤ) ≤ m.selfAllocCredit := by
  obtain ⟨d, le, aligned, -, credit, scheduled⟩ := ok.alloc
  cases sched : m.isScheduled with
  | true =>
    have zero : d = 0 := scheduled.mp sched
    exact Or.inl ⟨rfl, by rw [credit, zero, Lib.Framing.wire_zero]; rfl⟩
  | false =>
    have pos : 0 < d := Nat.pos_of_ne_zero fun zero => by simp [scheduled.mpr zero] at sched
    exact Or.inr ⟨rfl, by rw [credit]; exact_mod_cast cost_le_wire_prefix ⟨pos, le, aligned⟩⟩

theorem selfAlloc_nonneg (ok : MsgOk cfg addr out m) : 0 ≤ m.selfAllocCredit := by
  obtain ⟨d, -, -, -, credit, -⟩ := ok.alloc
  rw [credit]; exact Int.natCast_nonneg _

theorem packet (ok : MsgOk cfg addr out m) {p : Packet}
    (inside : p ∈ dataOf m.reqId out ∨ p ∈ creditReqsOf m.reqId out) :
    p.src = addr ∧ p.dst = m.remoteAddr ∧ p.hdr.credit = 0 ∧
      p.hdr.unsolCredit = m.selfAllocCredit ∧ p.hdr.unsolCreditData = m.selfAllocCreditData ∧
      p.hdr.creditReq = if m.isScheduled && p.isData then 0 else m.totalBytes := by
  rcases inside with inside | inside
  · have hdr := ok.data p inside
    refine ⟨hdr.src, hdr.dst, hdr.credit, hdr.unsol.1, hdr.unsol.2, ?_⟩
    rw [hdr.creditReq, (mem_dataOf.mp inside).2.1, Bool.and_true]
  · have hdr := ok.creditReqs p inside
    have scheduled : m.isScheduled = true := by
      by_contra unscheduled
      have none := ok.creditReqs_length
      simp only [Bool.not_eq_true] at unscheduled
      rw [unscheduled, Bool.false_and] at none
      rw [List.eq_nil_of_length_eq_zero none] at inside
      simp at inside
    obtain ⟨d, -, -, data, credit, zero⟩ := ok.alloc
    have nothing : d = 0 := zero.mp scheduled
    have notData : p.isData = false := by
      have := (mem_creditReqsOf.mp inside).2.1
      unfold Packet.isCreditReq at this
      unfold Packet.isData
      cases type : p.hdr.msgType <;> simp_all
    refine ⟨hdr.src, hdr.dst, hdr.credit, ?_, ?_, ?_⟩
    · rw [hdr.unsol.1, credit, nothing]; simp
    · rw [hdr.unsol.2, data, nothing]; simp
    · rw [hdr.creditReq, notData, Bool.and_false]; rfl

theorem length_out_le (ok : MsgOk cfg addr out m) : (dataOf m.reqId out).length ≤
    (ethernet.lens m.totalBytes).length := by
  have lens := congrArg List.length ok.lens
  rw [List.length_append, List.length_map] at lens
  omega

theorem isSingleReply_iff (ok : MsgOk cfg addr out m) {p : Packet} (inside : p ∈ dataOf m.reqId out) :
    p.isSingleReply = true ↔ m.Bypasses := by
  have hdr := ok.data p inside
  have type := hdr.msgType
  unfold Packet.isSingleReply OutboundMsgState.Bypasses
  cases request : m.isRequest with
  | true =>
    rw [request, if_pos rfl] at type
    rw [type]
    simp
  | false =>
    have count := ok.pktId
    have frames := ethernet.length_lens m.totalBytes
    rw [request, if_neg Bool.false_ne_true] at type count
    rw [← hdr.pktId, sub_zero, frames] at count
    have mss : ethernet.mss = 1458 := rfl
    have max : maxR2p2Payload = 1458 := rfl
    have total := ok.total_pos
    have small : m.totalBytes ≤ maxR2p2Payload ↔ p.hdr.pktId = 1 := by
      rw [mss] at count
      split at count <;> omega
    rw [type, small]
    simp only [beq_self_eq_true, Bool.true_and, Bool.and_eq_true, beq_iff_eq, true_and, and_iff_right_iff_imp]
    intro one
    -- its one packet is the first one
    have length : (dataOf m.reqId out).length ≤ 1 := by
      have le := ok.length_out_le
      rw [frames] at le
      omega
    obtain ⟨q, only⟩ : ∃ q, dataOf m.reqId out = [q] :=
      List.length_eq_one_iff.mp (le_antisymm length (List.length_pos_of_mem inside))
    have firsts := ok.firsts
    have sent : m.sentFirst = true := by
      by_contra unsent
      rw [ok.sentFirst.mp (by simpa using unsent)] at inside
      cases inside
    rw [only, List.mem_singleton] at inside
    rw [sent, if_pos rfl, only, ← inside] at firsts
    by_contra behind
    rw [List.countP_singleton, if_neg behind] at firsts
    cases firsts

theorem append_other (ok : MsgOk cfg addr out m) {p : Packet} (other : p.uniqReqId ≠ m.reqId) :
    MsgOk cfg addr (out ++ [p]) m := by
  have data : dataOf m.reqId (out ++ [p]) = dataOf m.reqId out := dataOf_append_other (Or.inr other)
  have reqs : creditReqsOf m.reqId (out ++ [p]) = creditReqsOf m.reqId out := creditReqsOf_append_other (Or.inr other)
  exact { ok with
    lens := by rw [data]; exact ok.lens
    seqs := by rw [data]; exact ok.seqs
    data := by rw [data]; exact ok.data
    firsts := by rw [data]; exact ok.firsts
    sentFirst := by rw [data]; exact ok.sentFirst
    creditReqs := by rw [reqs]; exact ok.creditReqs
    creditReqs_length := by rw [reqs]; exact ok.creditReqs_length }

theorem of_new (new : NewMsg addr m) (data : dataOf m.reqId out = []) (reqs : creditReqsOf m.reqId out = []) :
    MsgOk cfg addr out m where
  total_pos := new.total_pos
  name := new.name
  plain := new.plain
  request := new.request
  reply := new.reply
  remote := new.remote
  pktId := new.pktId
  created := new.created
  lens := by rw [data, new.unsent]; rfl
  seqs _ := by rw [data, new.unsent, new.seq]; rfl
  data := by rw [data]; simp
  firsts := by rw [data, new.idle.2.1]; rfl
  sentFirst := by simp [data, new.idle]
  creditReqs := by rw [reqs]; simp
  creditReqs_length := by simp [reqs, new.idle]
  idle _ := ⟨new.idle.1, new.unsent⟩
  alloc := ⟨0, Nat.zero_le _, Or.inr (dvd_zero _), by simp [new.uncredited], by simp [new.uncredited], by
    simp [new.scheduled]⟩
  checked := by rw [new.scheduled.1, new.scheduled.2]; rfl
  unsolicited h := by simp [new.scheduled] at h
  scheduled h := by simp [new.idle] at h
  announced h := by simp [new.scheduled] at h

theorem credited (ok : MsgOk cfg addr out m) (idle : m.active = false) {prefixLen : ℕ}
    (unsolicited : Sender.unsolicited cfg m.totalBytes) (pre : Prefix m.totalBytes prefixLen) :
    MsgOk cfg addr out (m.credited cfg (ethernet.wire prefixLen) prefixLen) where
  total_pos := ok.total_pos
  name := by unfold OutboundMsgState.credited; dsimp only; split <;> exact ok.name
  plain := by unfold OutboundMsgState.credited; dsimp only; split <;> exact ok.plain
  request := ok.request
  reply := ok.reply
  remote := ok.remote
  pktId := by unfold OutboundMsgState.credited; dsimp only; split <;> exact ok.pktId
  created := ok.created
  lens := ok.lens
  seqs := ok.seqs
  data := by
    intro p inside
    simp [OutboundMsgState.credited, ok.idle_data idle] at inside
  firsts := ok.firsts
  sentFirst := ok.sentFirst
  creditReqs := by
    intro p inside
    simp [OutboundMsgState.credited, ok.idle_creditReqs idle] at inside
  creditReqs_length := by simp [OutboundMsgState.credited, ok.idle_creditReqs idle]
  idle := ok.idle
  alloc := ⟨prefixLen, pre.le, pre.aligned, rfl, rfl, by simp [OutboundMsgState.credited, pre.pos.ne']⟩
  checked := rfl
  unsolicited _ := unsolicited
  scheduled h := by simp [OutboundMsgState.credited, idle] at h
  announced _ := by simp [OutboundMsgState.credited, ok.idle idle, ok.idle_sentFirst idle]

theorem activated (ok : MsgOk cfg addr out m) (unscheduled : m.isScheduled = false) :
    MsgOk cfg addr out { m with active := true } :=
  { ok with
    data := fun p inside => { ok.data p inside with }
    creditReqs := fun p inside => { ok.creditReqs p inside with }
    idle := fun h => by simp at h
    scheduled := fun _ h => by simp [unscheduled] at h }

theorem requested (ok : MsgOk cfg addr out m) (idle : m.active = false) (scheduled : m.isScheduled = true)
    (unsolicited : ¬ Sender.unsolicited cfg m.totalBytes) {p : Packet}
    (carries : p.Carries m.grantReqHdr grantReqMsgSize addr m.remoteAddr) :
    MsgOk cfg addr (out ++ [p]) { m with sentAnouncement := true, active := true } := by
  have type : p.hdr.msgType = .grantReq := carries.msgType
  have of : p.uniqReqId = m.reqId := carries.uniqReqId.trans ok.name
  have data : dataOf m.reqId (out ++ [p]) = dataOf m.reqId out :=
    dataOf_append_other (Or.inl (by simp [Packet.isData, type]))
  have reqs : creditReqsOf m.reqId (out ++ [p]) = [p] := by
    rw [creditReqsOf_append_self (by simp [Packet.isCreditReq, type]) of, ok.idle_creditReqs idle, List.nil_append]
  exact { ok with
    lens := by dsimp only; rw [data]; exact ok.lens
    seqs := by dsimp only; rw [data]; exact ok.seqs
    data := by
      intro q inside
      dsimp only at inside
      rw [data, ok.idle_data idle] at inside
      simp at inside
    firsts := by dsimp only; rw [data]; exact ok.firsts
    sentFirst := by dsimp only; rw [data]; exact ok.sentFirst
    creditReqs := by
      intro q inside
      dsimp only at inside
      rw [reqs, List.mem_singleton] at inside
      subst inside
      refine ⟨carries.src, carries.dst, ?_, ?_, ?_, carries.size, by rw [carries.padding, carries.size]; decide⟩ <;>
        rw [carries.hdr] <;> simp [OutboundMsgState.grantReqHdr]
    creditReqs_length := by dsimp only; rw [reqs]; simp [scheduled]
    idle := fun h => by simp at h
    scheduled := fun _ _ => ⟨unsolicited, rfl⟩
    announced := fun h => by simp [scheduled] at h }

theorem sent (ok : MsgOk cfg addr out m) (active : m.active = true) (pos : 0 < m.unsentBytes) {ps : PolicyState}
    {p : Packet} (carries : p.Carries (m.packetHdr cfg ps) m.nextPayload addr m.remoteAddr) :
    MsgOk cfg addr (out ++ [p]) m.afterPacket := by
  have type : p.hdr.msgType = if m.isRequest then .request else .reply := carries.msgType
  have isData : p.isData = true := by unfold Packet.isData; rw [type]; cases m.isRequest <;> rfl
  have of : p.uniqReqId = m.reqId := carries.uniqReqId.trans ok.name
  have data : dataOf m.reqId (out ++ [p]) = dataOf m.reqId out ++ [p] := dataOf_append_self isData of
  have reqs : creditReqsOf m.reqId (out ++ [p]) = creditReqsOf m.reqId out :=
    creditReqsOf_append_other (Or.inl (by unfold Packet.isCreditReq; rw [type]; cases m.isRequest <;> rfl))
  have payload : p.payload = min ethernet.mss m.unsentBytes := carries.payload_eq.trans m.nextPayload_eq
  have header : DataHdr addr m p := by
    have uncredited : m.isScheduled = true → m.selfAllocCredit = 0 ∧ m.selfAllocCreditData = 0 := by
      intro scheduled
      obtain ⟨d, -, -, data, credit, zero⟩ := ok.alloc
      simp [data, credit, zero.mp scheduled]
    refine ⟨carries.src, carries.dst, type, ?_, ?_, ?_, ?_, ?_, ?_, ?_⟩
    · rw [carries.hdr]; rfl
    · rw [carries.hdr]; rfl
    · rw [carries.hdr]; rfl
    · rw [carries.hdr]
      cases sched : m.isScheduled <;> simp [OutboundMsgState.packetHdr, sched]
      rw [(uncredited sched).1, (uncredited sched).2]; exact ok.plain
    · rw [carries.hdr]; rfl
    · rw [carries.payload_eq]; exact carries.size
    · rw [carries.payload_eq]; exact carries.padding
  have first : p.hdr.first = !m.sentFirst := by rw [carries.hdr]; rfl
  -- what does not depend on first() outlives the first packet
  have hdr : ∀ f : Hdr → Prop, (∀ hdr : Hdr, f hdr → f { hdr with first := false }) → f m.r2p2Hdr →
    f m.afterPacket.r2p2Hdr := by
    intro f keeps holds
    unfold OutboundMsgState.afterPacket
    dsimp only
    split
    · exact holds
    · exact keeps _ holds
  have ids : m.afterPacket.r2p2Hdr.requestIdTuple = m.r2p2Hdr.requestIdTuple ∧
      m.afterPacket.r2p2Hdr.pktId = m.r2p2Hdr.pktId := by
    refine hdr (fun h => h.requestIdTuple = m.r2p2Hdr.requestIdTuple ∧ h.pktId = m.r2p2Hdr.pktId) ?_ ⟨rfl, rfl⟩
    exact fun _ same => same
  have keeps : ∀ q, DataHdr addr m q → DataHdr addr m.afterPacket q := fun q h =>
    { h with tuple := by rw [ids.1]; exact h.tuple, pktId := by rw [ids.2]; exact h.pktId }
  exact {
    total_pos := ok.total_pos
    name := hdr (fun h => h.uniqReqId = m.reqId) (fun _ h => h) ok.name
    plain := hdr (fun h => h.unsolCredit = 0 ∧ h.unsolCreditData = 0) (fun _ h => h) ok.plain
    request := ok.request
    reply := ok.reply
    remote := ok.remote
    pktId := ids.2.trans ok.pktId
    created := ok.created
    lens := by
      have split := ethernet.lens_of_pos pos
      have lens := ok.lens
      rw [split] at lens
      change (dataOf m.reqId (out ++ [p])).map Packet.payload ++ ethernet.lens (m.unsentBytes - m.nextPayload) = _
      rw [data, List.map_append, List.map_singleton, payload, m.nextPayload_eq, List.append_assoc]
      exact lens
    seqs := by
      intro (request : m.isRequest = true)
      have split := ethernet.frames_of_pos m.seq pos
      have seqs := ok.seqs request
      rw [split] at seqs
      have seq : p.hdr.seq = m.seq + m.nextPayload := by
        rw [carries.hdr]
        change (if m.isRequest then _ else _) = _
        rw [if_pos request]
      have after : m.afterPacket.seq = m.seq + m.nextPayload := if_pos request
      change (dataOf m.reqId (out ++ [p])).map _ ++ ethernet.frames m.afterPacket.seq (m.unsentBytes - m.nextPayload) =
        _
      rw [data, List.map_append, List.map_singleton, payload, seq, after, m.nextPayload_eq, List.append_assoc]
      exact seqs
    data := by
      intro q inside
      change q ∈ dataOf m.reqId (out ++ [p]) at inside
      rw [data, List.mem_append, List.mem_singleton] at inside
      rcases inside with inside | rfl
      · exact keeps q (ok.data q inside)
      · exact keeps q header
    firsts := by
      change (dataOf m.reqId (out ++ [p])).countP _ = _
      rw [data, List.countP_append, ok.firsts]
      cases sent : m.sentFirst <;> simp [first, sent, OutboundMsgState.afterPacket]
    sentFirst := by
      change true = false ↔ dataOf m.reqId (out ++ [p]) = []
      simp [data]
    creditReqs := by
      intro q inside
      change q ∈ creditReqsOf m.reqId (out ++ [p]) at inside
      rw [reqs] at inside
      exact { ok.creditReqs q inside with }
    creditReqs_length := by
      change (creditReqsOf m.reqId (out ++ [p])).length = _
      rw [reqs, ok.creditReqs_length]
      cases sched : m.isScheduled <;> simp [OutboundMsgState.afterPacket, sched]
    idle := fun h => absurd (active.symm.trans h) (by decide)
    alloc := ok.alloc
    checked := ok.checked
    unsolicited := ok.unsolicited
    scheduled := fun _ sched => ⟨(ok.scheduled active sched).1, by
      simp [OutboundMsgState.afterPacket, (ok.scheduled active sched).2]⟩
    announced := fun sched => by
      change m.isScheduled = false at sched
      simp [OutboundMsgState.afterPacket, sched] }

end MsgOk

namespace OutboundMsgState

def spent (m : OutboundMsgState) : ℤ := ethernet.wire m.totalBytes - ethernet.wire m.unsentBytes

/-- What a message credited itself, until its first packet tells the receiver. -/
def pledged (m : OutboundMsgState) : ℤ := if m.sentFirst then 0 else m.selfAllocCredit

end OutboundMsgState

def SendSide.costTo (s : SendSide) (rcvr : Addr) : ℤ := wireSum (dataPkts (toAddr rcvr s.out))

structure SendInv (cfg : Config) (s : SendSide) : Prop where
  names : ∀ id ∈ s.msgs.keys, (s.msgs.get id).reqId = id
  msg : ∀ id ∈ s.msgs.keys, MsgOk cfg s.addr s.out (s.msgs.get id)
  owned : ∀ p ∈ s.out, (p.isData = true ∨ p.isCreditReq = true) ∧ p.uniqReqId ∈ s.msgs.keys
  grants : ∀ p ∈ s.grants, p.isGrant = true
  spent : ∀ rcvr, s.toward rcvr OutboundMsgState.spent = s.costTo rcvr
  pool : ∀ rcvr, s.avail rcvr + s.costTo rcvr =
    s.toward rcvr OutboundMsgState.selfAllocCredit + creditSum (fromAddr rcvr s.grants)
  floor : ∀ rcvr, s.toward rcvr OutboundMsgState.pledged ≤ s.avail rcvr

namespace SendSide

variable {s s' : SendSide}

theorem costTo_eq (out : s'.out = s.out) (rcvr : Addr) : s'.costTo rcvr = s.costTo rcvr := by
  rw [costTo, out, costTo]

theorem costTo_append {p : Packet} (out : s'.out = s.out ++ [p]) (rcvr : Addr) :
    s'.costTo rcvr = s.costTo rcvr + if p.isData = true ∧ p.dst = rcvr then p.wireCost else 0 := by
  unfold costTo
  rw [out, toAddr_append, dataPkts_append, wireSum_append, toAddr_singleton]
  by_cases towards : p.dst = rcvr
  · rw [if_pos towards, dataPkts_singleton]
    cases kind : p.isData <;> simp [towards]
  · simp [towards, dataPkts]

end SendSide

namespace SendInv

variable {cfg : Config} {s : SendSide}

theorem pledged_nonneg (inv : SendInv cfg s) (rcvr : Addr) : ∀ id ∈ s.msgs.keys,
    0 ≤ if (s.msgs.get id).remoteAddr = rcvr then (s.msgs.get id).pledged else 0 := by
  intro id inside
  have := (inv.msg id inside).selfAlloc_nonneg
  unfold OutboundMsgState.pledged
  split <;> [split <;> omega; omega]

theorem avail_nonneg (inv : SendInv cfg s) (rcvr : Addr) : 0 ≤ s.avail rcvr :=
  le_trans (Store.total_nonneg _ (inv.pledged_nonneg rcvr)) (inv.floor rcvr)

/-- Messages that did not change stay in agreement when the log grows by a packet of another one. -/
theorem msg_of_modify {s' : SendSide} (inv : SendInv cfg s) {id : UniqReqId}
    {change : OutboundMsgState → OutboundMsgState} (addr : s'.addr = s.addr)
    (msgs : s'.msgs = s.msgs.modify id change)
    (out : s'.out = s.out ∨ ∃ p, p.uniqReqId = id ∧ s'.out = s.out ++ [p])
    (here : MsgOk cfg s'.addr s'.out (change (s.msgs.get id))) :
    ∀ other ∈ s'.msgs.keys, MsgOk cfg s'.addr s'.out (s'.msgs.get other) := by
  intro other inside
  rw [msgs, Store.keys_modify] at inside
  by_cases same : other = id
  · subst same
    rwa [msgs, Store.get_modify_self]
  · rw [msgs, Store.get_modify_of_ne _ _ same, addr]
    have ok := inv.msg other inside
    rcases out with out | ⟨p, of, out⟩
    · rwa [out]
    · rw [out]
      exact ok.append_other (by rw [of, inv.names other inside]; exact fun h => same h.symm)

theorem names_of_modify {s' : SendSide} (inv : SendInv cfg s) {id : UniqReqId}
    {change : OutboundMsgState → OutboundMsgState} (msgs : s'.msgs = s.msgs.modify id change)
    (keeps : (change (s.msgs.get id)).reqId = (s.msgs.get id).reqId) :
    ∀ other ∈ s'.msgs.keys, (s'.msgs.get other).reqId = other := by
  intro other inside
  rw [msgs, Store.keys_modify] at inside
  by_cases same : other = id
  · subst same
    rw [msgs, Store.get_modify_self, keeps]
    exact inv.names other inside
  · rw [msgs, Store.get_modify_of_ne _ _ same]
    exact inv.names other inside

theorem owned_append {s' : SendSide} (inv : SendInv cfg s) {p : Packet} (keys : s'.msgs.keys = s.msgs.keys)
    (out : s'.out = s.out ++ [p]) (kind : p.isData = true ∨ p.isCreditReq = true) (of : p.uniqReqId ∈ s.msgs.keys) :
    ∀ q ∈ s'.out, (q.isData = true ∨ q.isCreditReq = true) ∧ q.uniqReqId ∈ s'.msgs.keys := by
  intro q inside
  rw [out, List.mem_append, List.mem_singleton] at inside
  rw [keys]
  rcases inside with inside | rfl
  · exact inv.owned q inside
  · exact ⟨kind, of⟩

theorem fresh_out (inv : SendInv cfg s) {id : UniqReqId} (fresh : id ∉ s.msgs.keys) :
    dataOf id s.out = [] ∧ creditReqsOf id s.out = [] := by
  constructor <;>
  · refine List.filter_eq_nil_iff.mpr fun p inside => ?_
    have := (inv.owned p inside).2
    simp only [Bool.and_eq_true, beq_iff_eq, not_and]
    exact fun _ same => fresh (same ▸ this)

theorem enqueue (inv : SendInv cfg s) {m : OutboundMsgState} (fresh : m.reqId ∉ s.msgs.keys)
    (new : NewMsg s.addr m) : SendInv cfg (s.enqueue m) := by
  have spent : m.spent = 0 := by simp [OutboundMsgState.spent, new.unsent]
  have pledged : m.pledged = 0 := by simp [OutboundMsgState.pledged, new.uncredited]
  have get : ∀ id ∈ (s.enqueue m).msgs.keys,
      (s.enqueue m).msgs.get id = m ∧ id = m.reqId ∨ (s.enqueue m).msgs.get id = s.msgs.get id ∧ id ∈ s.msgs.keys := by
    intro id inside
    rcases (Store.mem_keys_insert ..).mp inside with inside | rfl
    · exact Or.inr ⟨Store.get_insert_of_ne _ _ fun same => fresh (same ▸ inside), inside⟩
    · exact Or.inl ⟨Store.get_insert_self .., rfl⟩
  constructor
  case names =>
    intro id inside
    rcases get id inside with ⟨here, rfl⟩ | ⟨there, inside⟩
    · rw [here]
    · rw [there]; exact inv.names id inside
  case msg =>
    intro id inside
    rcases get id inside with ⟨here, rfl⟩ | ⟨there, inside⟩
    · rw [here]; exact .of_new new (inv.fresh_out fresh).1 (inv.fresh_out fresh).2
    · rw [there]; exact inv.msg id inside
  case owned =>
    intro p inside
    exact ⟨(inv.owned p inside).1, (Store.mem_keys_insert ..).mpr (Or.inl (inv.owned p inside).2)⟩
  case grants => exact inv.grants
  case spent =>
    intro rcvr
    rw [SendSide.toward_insert _ _ fresh, spent, ite_self, add_zero]
    exact inv.spent rcvr
  case pool =>
    intro rcvr
    rw [SendSide.toward_insert _ _ fresh, new.uncredited.1, ite_self, add_zero]
    exact inv.pool rcvr
  case floor =>
    intro rcvr
    rw [SendSide.toward_insert _ _ fresh, pledged, ite_self, add_zero]
    exact inv.floor rcvr

theorem selfCredit (inv : SendInv cfg s) {id : UniqReqId} {prefixLen : ℕ} (inside : id ∈ s.msgs.keys)
    (idle : (s.msgs.get id).active = false) (unchecked : (s.msgs.get id).usnsolCheckDone = false)
    (unsolicited : Sender.unsolicited cfg (s.msgs.get id).totalBytes)
    (pre : Prefix (s.msgs.get id).totalBytes prefixLen) :
    SendInv cfg (s.selfCredit cfg id prefixLen) := by
  have ok := inv.msg id inside
  have msgs := s.msgs_selfCredit cfg id prefixLen
  have none : (s.msgs.get id).selfAllocCredit = 0 := by
    rcases ok.selfAlloc_cases with ⟨-, h⟩ | ⟨h, -⟩
    · exact h
    · have := ok.checked
      rw [unchecked, h] at this
      cases this
  have quiet : (s.msgs.get id).sentFirst = false := ok.idle_sentFirst idle
  constructor
  case names => exact inv.names_of_modify msgs rfl
  case msg => exact inv.msg_of_modify rfl msgs (Or.inl rfl) (ok.credited idle unsolicited pre)
  case owned => exact inv.owned
  case grants => exact inv.grants
  case spent =>
    intro rcvr
    have same : ((s.msgs.get id).credited cfg (ethernet.wire prefixLen) prefixLen).spent = (s.msgs.get id).spent := rfl
    rw [SendSide.toward_modify msgs inside rfl, same, sub_self, ite_self, add_zero]
    exact inv.spent rcvr
  case pool =>
    intro rcvr
    have pool := inv.pool rcvr
    have self : ((s.msgs.get id).credited cfg (ethernet.wire prefixLen) prefixLen).selfAllocCredit =
      ethernet.wire prefixLen := rfl
    have spent : (s.selfCredit cfg id prefixLen).costTo rcvr = s.costTo rcvr := SendSide.costTo_eq rfl rcvr
    rw [SendSide.toward_modify msgs inside rfl, self, none, spent]
    by_cases same : (s.msgs.get id).remoteAddr = rcvr
    · subst same
      simp only [SendSide.selfCredit, Function.update_self, if_true]
      omega
    · simp only [SendSide.selfCredit, Function.update_of_ne (Ne.symm same), if_neg same]
      omega
  case floor =>
    intro rcvr
    have floor := inv.floor rcvr
    have before : (s.msgs.get id).pledged = 0 := by simp [OutboundMsgState.pledged, quiet, none]
    have after : ((s.msgs.get id).credited cfg (ethernet.wire prefixLen) prefixLen).pledged =
      ethernet.wire prefixLen := by
      simp [OutboundMsgState.pledged, OutboundMsgState.credited, quiet]
    rw [SendSide.toward_modify msgs inside rfl, before, after]
    by_cases same : (s.msgs.get id).remoteAddr = rcvr
    · subst same
      simp only [SendSide.selfCredit, Function.update_self, if_true]
      omega
    · simp only [SendSide.selfCredit, Function.update_of_ne (Ne.symm same), if_neg same]
      omega

theorem of_frame {s' : SendSide} (inv : SendInv cfg s) {id : UniqReqId} {change : OutboundMsgState → OutboundMsgState}
    (inside : id ∈ s.msgs.keys) (msgs : s'.msgs = s.msgs.modify id change) (avail : s'.avail = s.avail)
    (grants : s'.grants = s.grants) (cost : ∀ rcvr, s'.costTo rcvr = s.costTo rcvr)
    (remote : (change (s.msgs.get id)).remoteAddr = (s.msgs.get id).remoteAddr)
    (name : (change (s.msgs.get id)).reqId = (s.msgs.get id).reqId)
    (spent : (change (s.msgs.get id)).spent = (s.msgs.get id).spent)
    (pledged : (change (s.msgs.get id)).pledged = (s.msgs.get id).pledged)
    (self : (change (s.msgs.get id)).selfAllocCredit = (s.msgs.get id).selfAllocCredit)
    (msg : ∀ other ∈ s'.msgs.keys, MsgOk cfg s'.addr s'.out (s'.msgs.get other))
    (owned : ∀ q ∈ s'.out, (q.isData = true ∨ q.isCreditReq = true) ∧ q.uniqReqId ∈ s'.msgs.keys) : SendInv cfg s' := by
  have same : ∀ rcvr (f : OutboundMsgState → ℤ), f (change (s.msgs.get id)) = f (s.msgs.get id) →
      s'.toward rcvr f = s.toward rcvr f := by
    intro rcvr f same
    rw [SendSide.toward_modify msgs inside remote, same, sub_self, ite_self, add_zero]
  constructor
  case names => exact inv.names_of_modify msgs name
  case msg => exact msg
  case owned => exact owned
  case grants => rw [grants]; exact inv.grants
  case spent => intro rcvr; rw [same rcvr _ spent, cost]; exact inv.spent rcvr
  case pool => intro rcvr; rw [same rcvr _ self, cost, avail, grants]; exact inv.pool rcvr
  case floor => intro rcvr; rw [same rcvr _ pledged, avail]; exact inv.floor rcvr

theorem activate (inv : SendInv cfg s) {id : UniqReqId} (inside : id ∈ s.msgs.keys)
    (unscheduled : (s.msgs.get id).isScheduled = false) : SendInv cfg (s.activate id) :=
  inv.of_frame inside (s.msgs_activate id) rfl rfl (SendSide.costTo_eq rfl) rfl rfl rfl rfl rfl
    (inv.msg_of_modify rfl (s.msgs_activate id) (Or.inl rfl) ((inv.msg id inside).activated unscheduled)) inv.owned

theorem announce (inv : SendInv cfg s) {id : UniqReqId} {p : Packet} (inside : id ∈ s.msgs.keys)
    (idle : (s.msgs.get id).active = false) (scheduled : (s.msgs.get id).isScheduled = true)
    (unsolicited : ¬ Sender.unsolicited cfg (s.msgs.get id).totalBytes)
    (carries : p.Carries (s.msgs.get id).grantReqHdr grantReqMsgSize s.addr (s.msgs.get id).remoteAddr) :
    SendInv cfg (s.announce id p) := by
  have ok := inv.msg id inside
  have of : p.uniqReqId = id := (carries.uniqReqId.trans ok.name).trans (inv.names id inside)
  have type : p.hdr.msgType = .grantReq := carries.msgType
  have notData : p.isData = false := by simp [Packet.isData, type]
  refine inv.of_frame inside (s.msgs_announce id p) rfl rfl (fun rcvr => ?_) rfl rfl rfl rfl rfl
    (inv.msg_of_modify rfl (s.msgs_announce id p) (Or.inr ⟨p, of, rfl⟩)
      (ok.requested idle scheduled unsolicited carries))
    (inv.owned_append rfl rfl (Or.inr (by simp [Packet.isCreditReq, type])) (of ▸ inside))
  rw [SendSide.costTo_append (s := s) rfl]
  simp [notData]

theorem pays_first (inv : SendInv cfg s) {id : UniqReqId} (inside : id ∈ s.msgs.keys)
    (credited : (s.msgs.get id).isScheduled = false) (quiet : (s.msgs.get id).sentFirst = false) :
    (s.msgs.get id).nextCost ≤ s.avail (s.msgs.get id).remoteAddr := by
  have ok := inv.msg id inside
  have single := Store.le_total s.msgs (f := fun _ m => if m.remoteAddr = (s.msgs.get id).remoteAddr then
    m.pledged else 0)
    inside (inv.pledged_nonneg _)
  beta_reduce at single
  have own : (s.msgs.get id).pledged = (s.msgs.get id).selfAllocCredit := by simp [OutboundMsgState.pledged, quiet]
  rw [if_pos rfl, own] at single
  have pays : (s.msgs.get id).nextCost ≤ (s.msgs.get id).selfAllocCredit := by
    rcases ok.selfAlloc_cases with ⟨scheduled, -⟩ | ⟨-, pays⟩
    · rw [credited] at scheduled
      cases scheduled
    · rw [OutboundMsgState.nextCost, ok.unsent_of_sentFirst quiet]
      exact pays
  exact pays.trans (single.trans (inv.floor _))

theorem pledged_eq_zero (inv : SendInv cfg s) {id : UniqReqId} (prior : s.Prior id)
    (announced : (s.msgs.get id).sentAnouncement = true) :
    s.toward (s.msgs.get id).remoteAddr OutboundMsgState.pledged = 0 := by
  unfold SendSide.toward Store.total
  refine Finset.sum_eq_zero fun other member => ?_
  have member := List.mem_toFinset.mp member
  have ok := inv.msg other member
  by_contra some_pledge
  beta_reduce at some_pledge
  have towards : (s.msgs.get other).remoteAddr = (s.msgs.get id).remoteAddr := by
    by_contra ne; exact some_pledge (if_neg ne)
  rw [if_pos towards] at some_pledge
  have quiet : (s.msgs.get other).sentFirst = false := by
    by_contra sent; exact some_pledge (by simp [OutboundMsgState.pledged, sent])
  simp only [OutboundMsgState.pledged, quiet, Bool.false_eq_true, if_false] at some_pledge
  rcases ok.selfAlloc_cases with ⟨-, zero⟩ | ⟨unscheduled, -⟩
  · exact some_pledge zero
  · have whole := ok.unsent_of_sentFirst quiet
    have short := prior announced other member towards (by rw [whole]; exact ok.total_pos)
      (by rw [ok.announced unscheduled, quiet])
    have enough := inv.pays_first member unscheduled quiet
    rw [towards] at enough
    omega

/-- An unannounced message pays its packet with its own credit, an announced one only when nothing is pledged. -/
theorem pledged_of_transmit (inv : SendInv cfg s) {id : UniqReqId} (inside : id ∈ s.msgs.keys)
    (active : (s.msgs.get id).active = true)
    (affordable : (s.msgs.get id).nextCost ≤ s.avail (s.msgs.get id).remoteAddr) (prior : s.Prior id) :
    s.toward (s.msgs.get id).remoteAddr OutboundMsgState.pledged - (s.msgs.get id).pledged ≤
      s.avail (s.msgs.get id).remoteAddr - (s.msgs.get id).nextCost := by
  have ok := inv.msg id inside
  have floor := inv.floor (s.msgs.get id).remoteAddr
  cases announced : (s.msgs.get id).sentAnouncement with
  | true =>
    have zero := inv.pledged_eq_zero prior announced
    have nonneg := inv.pledged_nonneg (s.msgs.get id).remoteAddr id inside
    rw [if_pos rfl] at nonneg
    omega
  | false =>
    have unscheduled : (s.msgs.get id).isScheduled = false := by
      by_contra sched
      have := (ok.scheduled active (by simpa using sched)).2
      simp [announced] at this
    have quiet : (s.msgs.get id).sentFirst = false := by rw [← ok.announced unscheduled, announced]
    have pays : (s.msgs.get id).nextCost ≤ (s.msgs.get id).selfAllocCredit := by
      rcases ok.selfAlloc_cases with ⟨h, -⟩ | ⟨-, h⟩
      · simp [unscheduled] at h
      · rw [OutboundMsgState.nextCost, ok.unsent_of_sentFirst quiet]; exact h
    have pledged : (s.msgs.get id).pledged = (s.msgs.get id).selfAllocCredit := by
      simp [OutboundMsgState.pledged, quiet]
    omega

theorem transmit (inv : SendInv cfg s) {id : UniqReqId} {ps : PolicyState} {p : Packet} (inside : id ∈ s.msgs.keys)
    (active : (s.msgs.get id).active = true) (pos : 0 < (s.msgs.get id).unsentBytes)
    (affordable : (s.msgs.get id).nextCost ≤ s.avail (s.msgs.get id).remoteAddr) (prior : s.Prior id)
    (carries : p.Carries ((s.msgs.get id).packetHdr cfg ps) (s.msgs.get id).nextPayload s.addr
    (s.msgs.get id).remoteAddr) : SendInv cfg (s.transmit id p) := by
  have ok := inv.msg id inside
  have msgs := s.msgs_transmit id p
  have of : p.uniqReqId = id := (carries.uniqReqId.trans ok.name).trans (inv.names id inside)
  have isData : p.isData = true := by
    have type : p.hdr.msgType = if (s.msgs.get id).isRequest then .request else .reply := carries.msgType
    unfold Packet.isData; rw [type]; cases (s.msgs.get id).isRequest <;> rfl
  have cost : ∀ rcvr, (s.transmit id p).costTo rcvr =
      s.costTo rcvr + if (s.msgs.get id).remoteAddr = rcvr then (s.msgs.get id).nextCost else 0 := by
    intro rcvr
    rw [SendSide.costTo_append (s := s) rfl, carries.dst, carries.wireCost_eq, ← OutboundMsgState.nextCost_eq]
    simp [isData]
  have wire := OutboundMsgState.wire_unsent pos
  have spent : (s.msgs.get id).afterPacket.spent = (s.msgs.get id).spent + (s.msgs.get id).nextCost := by
    simp only [OutboundMsgState.spent, OutboundMsgState.afterPacket]; omega
  constructor
  case names => exact inv.names_of_modify msgs rfl
  case msg => exact inv.msg_of_modify rfl msgs (Or.inr ⟨p, of, rfl⟩) (ok.sent active pos carries)
  case owned => exact inv.owned_append rfl rfl (Or.inl isData) (of ▸ inside)
  case grants => exact inv.grants
  case spent =>
    intro rcvr
    rw [SendSide.toward_modify msgs inside rfl, cost, spent, inv.spent rcvr]
    split <;> omega
  case pool =>
    intro rcvr
    have pool := inv.pool rcvr
    have self : (s.msgs.get id).afterPacket.selfAllocCredit = (s.msgs.get id).selfAllocCredit := rfl
    rw [SendSide.toward_modify msgs inside rfl, self, sub_self, ite_self, add_zero, cost]
    by_cases same : (s.msgs.get id).remoteAddr = rcvr
    · subst same
      simp only [SendSide.transmit, Function.update_self, if_true]
      omega
    · simp only [SendSide.transmit, Function.update_of_ne (Ne.symm same), if_neg same]
      omega
  case floor =>
    intro rcvr
    have floor := inv.floor rcvr
    have after : (s.msgs.get id).afterPacket.pledged = 0 := by
      simp [OutboundMsgState.pledged, OutboundMsgState.afterPacket]
    rw [SendSide.toward_modify msgs inside rfl, after]
    by_cases same : (s.msgs.get id).remoteAddr = rcvr
    · subst same
      have := inv.pledged_of_transmit inside active affordable prior
      simp only [SendSide.transmit, Function.update_self, if_true]
      omega
    · simp only [SendSide.transmit, Function.update_of_ne (Ne.symm same), if_neg same]
      omega

theorem credit (inv : SendInv cfg s) {p : Packet} (grant : p.isGrant = true) (nonneg : 0 ≤ p.hdr.credit) :
    SendInv cfg (s.credit p) := by
  constructor
  case names => exact inv.names
  case msg => exact inv.msg
  case owned => exact inv.owned
  case grants =>
    intro q inside
    rcases List.mem_append.mp inside with inside | inside
    · exact inv.grants q inside
    · rw [List.mem_singleton.mp inside]; exact grant
  case spent => exact inv.spent
  case pool =>
    intro rcvr
    have pool := inv.pool rcvr
    have same_cost : (s.credit p).costTo rcvr = s.costTo rcvr := rfl
    have same_self : (s.credit p).toward rcvr OutboundMsgState.selfAllocCredit =
        s.toward rcvr OutboundMsgState.selfAllocCredit := rfl
    rw [same_cost, same_self]
    simp only [SendSide.credit, fromAddr_append, creditSum_append, fromAddr_singleton]
    by_cases same : p.src = rcvr
    · subst same
      rw [Function.update_self, if_pos rfl, creditSum_singleton]; omega
    · rw [Function.update_of_ne (Ne.symm same), if_neg same, creditSum_nil]; omega
  case floor =>
    intro rcvr
    have floor := inv.floor rcvr
    have same_pledged : (s.credit p).toward rcvr OutboundMsgState.pledged = s.toward rcvr OutboundMsgState.pledged :=
      rfl
    rw [same_pledged]
    simp only [SendSide.credit]
    by_cases same : p.src = rcvr
    · subst same
      rw [Function.update_self]; omega
    · rwa [Function.update_of_ne (Ne.symm same)]

theorem step {s' : SendSide} (inv : SendInv cfg s) (step : SendSide.Step cfg s s') : SendInv cfg s' := by
  cases step with
  | enqueue m fresh new => exact inv.enqueue fresh new
  | selfCredit id prefixLen inside idle unchecked unsolicited pre =>
    exact inv.selfCredit inside idle unchecked unsolicited pre
  | activate id inside idle unscheduled => exact inv.activate inside unscheduled
  | announce id p inside idle scheduled unsolicited carries =>
    exact inv.announce inside idle scheduled unsolicited carries
  | transmit id ps p inside active pos affordable prior carries =>
    exact inv.transmit inside active pos affordable prior carries
  | credit p grant nonneg => exact inv.credit grant nonneg

theorem steps {s' : SendSide} (inv : SendInv cfg s) (steps : SendSide.Steps cfg s s') : SendInv cfg s' := by
  induction steps with
  | refl => exact inv
  | tail _ last ih => exact ih.step last

end SendInv

end PhantomPass
