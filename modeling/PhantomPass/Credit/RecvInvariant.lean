import PhantomPass.Credit.RecvSide

/-! How an inbound message agrees with the packets of it that arrived, in
whatever order, and with the GRANTs that were sent for it. -/

set_option autoImplicit false

namespace PhantomPass

open Lib (Store)

namespace Packet

def grantLen (p : Packet) : ℕ := (p.hdr.credit - p.hdr.creditPad - wireOverhead).toNat

def grantFrame (p : Packet) : ℤ × ℕ := (p.hdr.seq, p.grantLen)

end Packet

structure GrantPkt (addr : Addr) (o : InboundMsgState) (p : Packet) : Prop where
  src : p.src = addr
  dst : p.dst = o.remoteAddr
  msgType : p.hdr.msgType = .grant
  creditReq : p.hdr.creditReq = 0
  credit : p.hdr.credit = ethernet.cost p.grantLen
  creditPad : p.hdr.creditPad = ethernet.cost p.grantLen - (p.grantLen + wireOverhead : ℕ)
  len : 0 < p.grantLen ∧ p.grantLen ≤ ethernet.mss
  size : p.size = minEthernetFrameOnWire
  padding : p.padding = 0

/-- An inbound message agrees with what arrived of it and what was granted to it. -/
structure ObjOk (arrived grants : List Packet) (id : UniqReqId) (o : InboundMsgState) : Prop where
  name : o.reqId = id
  received : o.dataBytesReceived = payloadSum (dataOf id arrived)
  seqs : (grantsOf id grants).map Packet.grantFrame ++ ethernet.frames o.seq
    (o.dataBytesExpected - o.dataBytesGranted) =
    ethernet.frames 0 (o.dataBytesExpected - o.base)
  granted_le : o.dataBytesGranted ≤ o.dataBytesExpected
  base_le : o.receivedMsgInfo = true → o.base ≤ o.dataBytesGranted
  unsol : o.firstHeader.unsolCredit = ethernet.wire o.base
  idle : o.receivedMsgInfo = false → o.seq = 0 ∧ o.dataBytesExpected = 0 ∧ o.dataBytesGranted = 0
  informed : o.receivedMsgInfo = true →
    ∃ q ∈ arrived, q.uniqReqId = id ∧ 0 < q.hdr.creditReq ∧ q.hdr.creditReq = o.dataBytesExpected
  bound : o.receivedMsgInfo = true → o.dataBytesReceived ≤ o.dataBytesExpected

/-- A packet that arrives belongs to a message of its source, of which no packet
arrives twice. -/
structure Fits (cfg : Config) (addr : Addr) (log : List Packet) (p : Packet) (out : List Packet)
    (m : OutboundMsgState) : Prop where
  ok : MsgOk cfg p.src out m
  name : p.uniqReqId = m.reqId
  here : m.remoteAddr = addr
  kind : p.isData = true ∨ p.isCreditReq = true
  data : (dataOf m.reqId (log ++ [p])).Subperm (dataOf m.reqId out)
  creditReqs : (creditReqsOf m.reqId (log ++ [p])).Subperm (creditReqsOf m.reqId out)

namespace Fits

variable {cfg : Config} {addr : Addr} {log out : List Packet} {p : Packet} {m : OutboundMsgState}

theorem packet (fits : Fits cfg addr log p out m) {q : Packet} (inside : q ∈ log ++ [p]) (of : q.uniqReqId = m.reqId)
    (kind : q.isData = true ∨ q.isCreditReq = true) :
    q.src = p.src ∧ q.dst = m.remoteAddr ∧ q.hdr.credit = 0 ∧
      q.hdr.unsolCredit = m.selfAllocCredit ∧ q.hdr.unsolCreditData = m.selfAllocCreditData ∧
      q.hdr.creditReq = if m.isScheduled && q.isData then 0 else m.totalBytes := by
  refine fits.ok.packet ?_
  rcases kind with data | req
  · exact Or.inl (fits.data.subset (mem_dataOf.mpr ⟨inside, data, of⟩))
  · exact Or.inr (fits.creditReqs.subset (mem_creditReqsOf.mpr ⟨inside, req, of⟩))

theorem self (fits : Fits cfg addr log p out m) :
    p.hdr.credit = 0 ∧ p.hdr.unsolCredit = m.selfAllocCredit ∧ p.hdr.unsolCreditData = m.selfAllocCreditData ∧
      p.hdr.creditReq = if m.isScheduled && p.isData then 0 else m.totalBytes :=
  (fits.packet (List.mem_append_right _ (List.mem_singleton_self p)) fits.name fits.kind).2.2

theorem isCreditReq_of_not_data (fits : Fits cfg addr log p out m) (notData : p.isData = false) :
    p.isCreditReq = true := by
  simpa [notData] using fits.kind

theorem payload_le (fits : Fits cfg addr log p out m) : payloadSum (dataOf m.reqId (log ++ [p])) ≤ m.totalBytes := by
  obtain ⟨arrived, perm, sub⟩ := fits.data
  have le : payloadSum arrived ≤ payloadSum (dataOf m.reqId out) := (sub.map _).sum_le_sum fun _ _ => Nat.zero_le _
  have := fits.ok.payloadSum_add
  rw [← payloadSum_perm perm]
  omega

theorem payload_pos (fits : Fits cfg addr log p out m) (data : p.isData = true) : 0 < p.payload ∧
    p.payload ≤ ethernet.mss :=
  fits.ok.payload_pos (fits.data.subset
    (mem_dataOf.mpr ⟨List.mem_append_right _ (List.mem_singleton_self p), data, fits.name⟩))

theorem arrived_payload (fits : Fits cfg addr log p out m) :
    payloadSum (dataOf m.reqId (log ++ [p])) = payloadSum (dataOf m.reqId log) + if p.isData then p.payload else 0 := by
  cases data : p.isData with
  | true => rw [dataOf_append_self data fits.name, payloadSum_append]; simp
  | false => rw [dataOf_append_other (Or.inl data)]; simp

theorem unsol (fits : Fits cfg addr log p out m) : ∃ d ≤ m.totalBytes, p.hdr.unsolCreditData = (d : ℕ) ∧
    p.hdr.unsolCredit = ethernet.wire d ∧ (m.isScheduled = true ↔ d = 0) := by
  obtain ⟨d, le, -, data, credit, zero⟩ := fits.ok.alloc
  obtain ⟨-, unsol, unsolData, -⟩ := fits.self
  exact ⟨d, le, unsolData.trans data, unsol.trans credit, zero⟩

theorem not_learned_twice (fits : Fits cfg addr log p out m) {q : Packet} (inside : q ∈ log)
    (of : q.uniqReqId = m.reqId) (kind : q.isData = true ∨ q.isCreditReq = true) (before : 0 < q.hdr.creditReq) :
    p.isData = true := by
  by_contra notData
  simp only [Bool.not_eq_true] at notData
  have req := fits.isCreditReq_of_not_data notData
  have scheduled : m.isScheduled = true := by
    by_contra unscheduled
    have none := fits.ok.creditReqs_length
    simp only [Bool.not_eq_true] at unscheduled
    simp only [unscheduled, Bool.false_and, Bool.false_eq_true, if_false] at none
    have := fits.creditReqs.length_le
    rw [creditReqsOf_append_self req fits.name, List.length_append, List.length_singleton] at this
    omega
  have qReq : q ∈ creditReqsOf m.reqId log := by
    refine mem_creditReqsOf.mpr ⟨inside, ?_, of⟩
    rcases kind with data | req
    · have := (fits.packet (List.mem_append_left _ inside) of (Or.inl data)).2.2.2.2.2
      simp [scheduled, data] at this
      omega
    · exact req
  have two := fits.creditReqs.length_le
  rw [creditReqsOf_append_self req fits.name, List.length_append, List.length_singleton, fits.ok.creditReqs_length]
    at two
  have := List.length_pos_of_mem qReq
  split at two <;> omega

theorem creditReq_of_pos (fits : Fits cfg addr log p out m) {q : Packet} (inside : q ∈ log ++ [p])
    (of : q.uniqReqId = m.reqId) (kind : q.isData = true ∨ q.isCreditReq = true) (told : 0 < q.hdr.creditReq) :
    q.hdr.creditReq = m.totalBytes := by
  have := (fits.packet inside of kind).2.2.2.2.2
  split at this <;> omega

end Fits

namespace InboundMsgState

variable (o : InboundMsgState) (p : Packet)

@[simp] theorem arrive_reqId : (o.arrive p).reqId = o.reqId := by unfold arrive; dsimp only; split <;> split <;> rfl

@[simp] theorem arrive_remoteAddr : (o.arrive p).remoteAddr = o.remoteAddr := by
  unfold arrive; dsimp only; split <;> split <;> rfl

@[simp] theorem arrive_seq : (o.arrive p).seq = o.seq := by unfold arrive; dsimp only; split <;> split <;> rfl

@[simp] theorem arrive_firstHeader : (o.arrive p).firstHeader = o.firstHeader := by
  unfold arrive; dsimp only; split <;> split <;> rfl

@[simp] theorem arrive_base : (o.arrive p).base = o.base := by rw [base, arrive_firstHeader, base]

theorem arrive_expected : (o.arrive p).dataBytesExpected = if o.learns p then p.hdr.creditReq
    else o.dataBytesExpected := by
  unfold arrive; dsimp only; split <;> split <;> rfl

theorem arrive_info : (o.arrive p).receivedMsgInfo = (o.learns p || o.receivedMsgInfo) := by
  unfold arrive; dsimp only
  cases learns : o.learns p <;> split <;> simp [received, noted]

theorem arrive_granted : (o.arrive p).dataBytesGranted =
    if o.learns p = true ∧ 0 < p.hdr.unsolCredit then p.hdr.unsolCreditData.toNat else o.dataBytesGranted := by
  unfold arrive noted received; dsimp only
  by_cases learns : o.learns p = true <;> by_cases unsol : 0 < p.hdr.unsolCredit <;> simp [learns, unsol] <;>
    split <;> rfl

theorem arrive_received : (o.arrive p).dataBytesReceived = o.dataBytesReceived + if p.isData then p.payload else 0 := by
  unfold arrive; dsimp only; split <;> split <;> rfl

theorem learns_iff : o.learns p = true ↔ 0 < p.hdr.creditReq ∧ o.receivedMsgInfo = false := by
  simp [learns]

end InboundMsgState

namespace ObjOk

variable {cfg : Config} {addr : Addr} {arrived grants out : List Packet} {p : Packet} {m : OutboundMsgState}
  {o : InboundMsgState}

theorem fresh (fits : Fits cfg addr arrived p out m) (data : dataOf p.uniqReqId arrived = [])
    (none : grantsOf p.uniqReqId grants = []) : ObjOk arrived grants p.uniqReqId (.fresh p) where
  name := rfl
  received := by rw [data]; rfl
  seqs := by rw [none]; simp [InboundMsgState.fresh]
  granted_le := le_refl _
  base_le h := by simp [InboundMsgState.fresh] at h
  unsol := by
    obtain ⟨d, -, data, credit, -⟩ := fits.unsol
    simp [InboundMsgState.fresh, InboundMsgState.base, data, credit]
  idle _ := ⟨rfl, rfl, rfl⟩
  informed h := by simp [InboundMsgState.fresh] at h
  bound h := by simp [InboundMsgState.fresh] at h

theorem granted_of_learns (ok : ObjOk arrived grants p.uniqReqId o) (fits : Fits cfg addr arrived p out m)
    (same : o.firstHeader.unsolCreditData = p.hdr.unsolCreditData) (learns : o.learns p = true) :
    (o.arrive p).dataBytesGranted = o.base ∧ (o.arrive p).dataBytesExpected = m.totalBytes ∧ o.base ≤ m.totalBytes := by
  obtain ⟨told, ignorant⟩ := (o.learns_iff p).mp learns
  obtain ⟨d, le, data, credit, -⟩ := fits.unsol
  have base : o.base = d := by rw [InboundMsgState.base, same, data]; rfl
  have expected := fits.creditReq_of_pos (List.mem_append_right _ (List.mem_singleton_self p)) fits.name fits.kind told
  refine ⟨?_, by rw [o.arrive_expected, if_pos learns, expected], by rw [base]; exact le⟩
  rw [o.arrive_granted]
  split
  · rw [data, base]; rfl
  · next none =>
    rw [(ok.idle ignorant).2.2, base]
    by_contra pos
    have := ethernet.wire_pos (Nat.pos_of_ne_zero fun zero => pos zero.symm)
    exact none ⟨learns, by rw [credit]; exact_mod_cast this⟩

theorem arrive (ok : ObjOk arrived grants p.uniqReqId o) (fits : Fits cfg addr arrived p out m)
    (same : o.firstHeader.unsolCreditData = p.hdr.unsolCreditData)
    (known : ∀ q ∈ arrived, q.isData = true ∨ q.isCreditReq = true) :
    ObjOk (arrived ++ [p]) grants p.uniqReqId (o.arrive p) := by
  have received : (o.arrive p).dataBytesReceived = payloadSum (dataOf p.uniqReqId (arrived ++ [p])) := by
    rw [o.arrive_received, ok.received, fits.name, fits.arrived_payload]
  have le := fits.payload_le
  rw [← fits.name, ← received] at le
  cases learns : o.learns p with
  | true =>
    obtain ⟨granted, expected, base_le⟩ := ok.granted_of_learns fits same learns
    obtain ⟨told, ignorant⟩ := (o.learns_iff p).mp learns
    obtain ⟨seq, nothing, -⟩ := ok.idle ignorant
    have none : (grantsOf p.uniqReqId grants).map Packet.grantFrame = [] := by
      have seqs := ok.seqs
      rw [nothing, Nat.zero_sub, Nat.zero_sub, Lib.Framing.frames_zero, Lib.Framing.frames_zero,
        List.append_nil] at seqs
      exact seqs
    exact {
      name := by rw [o.arrive_reqId]; exact ok.name
      received := received
      seqs := by rw [none, List.nil_append, granted, o.arrive_seq, o.arrive_base, seq]
      granted_le := by rw [granted, expected]; exact base_le
      base_le := fun _ => by rw [granted, o.arrive_base]
      unsol := by rw [o.arrive_firstHeader, o.arrive_base]; exact ok.unsol
      idle := fun h => by simp [o.arrive_info, learns] at h
      informed := fun _ => ⟨p, List.mem_append_right _ (List.mem_singleton_self p), rfl, told, by
        rw [o.arrive_expected, if_pos learns]⟩
      bound := fun _ => by rw [expected]; exact le }
  | false =>
    have granted : (o.arrive p).dataBytesGranted = o.dataBytesGranted := by rw [o.arrive_granted]; simp [learns]
    have expected : (o.arrive p).dataBytesExpected = o.dataBytesExpected := by rw [o.arrive_expected]; simp [learns]
    have info : (o.arrive p).receivedMsgInfo = o.receivedMsgInfo := by rw [o.arrive_info]; simp [learns]
    exact {
      name := by rw [o.arrive_reqId]; exact ok.name
      received := received
      seqs := by rw [granted, expected, o.arrive_seq, o.arrive_base]; exact ok.seqs
      granted_le := by rw [granted, expected]; exact ok.granted_le
      base_le := by rw [info, granted, o.arrive_base]; exact ok.base_le
      unsol := by rw [o.arrive_firstHeader, o.arrive_base]; exact ok.unsol
      idle := by rw [info, o.arrive_seq, expected, granted]; exact ok.idle
      informed := by
        rw [info, expected]
        intro h
        obtain ⟨q, inside, rest⟩ := ok.informed h
        exact ⟨q, List.mem_append_left _ inside, rest⟩
      bound := by
        rw [info, expected]
        intro h
        obtain ⟨q, inside, of, pos, size⟩ := ok.informed h
        have := fits.creditReq_of_pos (List.mem_append_left _ inside) (of.trans fits.name) (known q inside) pos
        omega }

theorem arrive_other {id : UniqReqId} (ok : ObjOk arrived grants id o) (other : p.uniqReqId ≠ id) :
    ObjOk (arrived ++ [p]) grants id o :=
  { ok with
    received := by rw [dataOf_append_other (Or.inr other)]; exact ok.received
    informed := fun h => by
      obtain ⟨q, inside, rest⟩ := ok.informed h
      exact ⟨q, List.mem_append_left _ inside, rest⟩ }

theorem grant_other {id : UniqReqId} (ok : ObjOk arrived grants id o) (other : p.uniqReqId ≠ id) :
    ObjOk arrived (grants ++ [p]) id o :=
  { ok with seqs := by rw [grantsOf_append_other (Or.inr other)]; exact ok.seqs }

end ObjOk

section Grant

variable {addr : Addr} {arrived grants : List Packet} {p : Packet} {o : InboundMsgState} {id : UniqReqId} {now : Time}

theorem nextData_pos (needs : o.dataBytesGranted < o.dataBytesExpected) :
    0 < o.nextData ∧ o.nextData ≤ ethernet.mss ∧ o.nextData ≤ o.dataBytesExpected - o.dataBytesGranted := by
  have := ethernet.mss_pos
  unfold InboundMsgState.nextData
  omega

theorem grantLen_eq
    (carries : p.Carries (Host.grantHdr o.afterGrant (ethernet.cost o.nextData)
      (ethernet.cost o.nextData - (o.nextData + wireOverhead : ℕ)) now) grantMsgSize addr o.remoteAddr) :
    p.grantLen = o.nextData := by
  have credit : p.hdr.credit = ethernet.cost o.nextData := by rw [carries.hdr]; rfl
  have pad : p.hdr.creditPad = ethernet.cost o.nextData - (o.nextData + wireOverhead : ℕ) := by rw [carries.hdr]; rfl
  unfold Packet.grantLen
  rw [credit, pad]
  push_cast
  omega

theorem grantPkt (needs : o.dataBytesGranted < o.dataBytesExpected)
    (carries : p.Carries (Host.grantHdr o.afterGrant (ethernet.cost o.nextData)
      (ethernet.cost o.nextData - (o.nextData + wireOverhead : ℕ)) now) grantMsgSize addr o.remoteAddr) :
    GrantPkt addr o p := by
  have len : p.grantLen = o.nextData := grantLen_eq carries
  have pos := nextData_pos needs
  refine ⟨carries.src, carries.dst, by rw [carries.hdr]; rfl, by rw [carries.hdr]; rfl, ?_, ?_, ?_, carries.size, ?_⟩
  · rw [len, carries.hdr]; rfl
  · rw [len, carries.hdr]; rfl
  · rw [len]; exact ⟨pos.1, pos.2.1⟩
  · rw [carries.padding, carries.size]; decide

theorem ObjOk.grant
    (ok : ObjOk arrived grants id o) (needs : o.dataBytesGranted < o.dataBytesExpected) (of : p.uniqReqId = id)
    (grant : p.isGrant = true) (len : p.grantLen = o.nextData) (seq : p.hdr.seq = o.afterGrant.seq) :
    ObjOk arrived (grants ++ [p]) id o.afterGrant := by
  have pos := nextData_pos needs
  exact { ok with
    seqs := by
      have seqs := ok.seqs
      rw [ethernet.frames_of_pos o.seq (by omega)] at seqs
      rw [grantsOf_append_self grant of, List.map_append, List.append_assoc, List.map_singleton,
        Packet.grantFrame, len, seq]
      have rest : o.afterGrant.dataBytesExpected - o.afterGrant.dataBytesGranted =
          o.dataBytesExpected - o.dataBytesGranted - o.nextData := by
        simp only [InboundMsgState.afterGrant]; omega
      rw [rest]
      exact seqs
    granted_le := by simp only [InboundMsgState.afterGrant]; omega
    base_le := fun info => le_trans (ok.base_le info) (Nat.le_add_right _ _)
    idle := fun ignorant => by have := (ok.idle ignorant).2; omega }

theorem drawn_afterGrant {o : InboundMsgState} (needs : o.dataBytesGranted < o.dataBytesExpected) :
    o.afterGrant.drawn = o.drawn + ethernet.cost o.nextData := by
  have pos := nextData_pos needs
  have rest : o.afterGrant.dataBytesExpected - o.afterGrant.dataBytesGranted =
      o.dataBytesExpected - o.dataBytesGranted - o.nextData := by
    simp only [InboundMsgState.afterGrant]; omega
  have wire := ethernet.wire_of_pos (n := o.dataBytesExpected - o.dataBytesGranted) (by omega)
  unfold InboundMsgState.drawn
  rw [rest, wire]
  change (ethernet.wire (o.dataBytesExpected - o.base) : ℤ) - _ = ethernet.wire (o.dataBytesExpected - o.base) - _ + _
  unfold InboundMsgState.nextData
  push_cast
  ring

end Grant

end PhantomPass
