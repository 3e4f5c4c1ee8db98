import PhantomPass.Credit.RecvInvariant

/-! The accounts of the receiving half. What a sender owes is what its messages
credited themselves and were granted, less what its data cost; the budgets of
all senders add up to the global one. -/

set_option autoImplicit false

namespace PhantomPass

open Lib (Store)

structure RecvInv (r : RecvSide) : Prop where
  obj : ∀ id ∈ r.objs.keys, ObjOk r.arrived r.grants id (r.objs.get id)
  first : ∀ id ∈ r.objs.keys, ∃ q ∈ r.arrived, q.uniqReqId = id ∧ q.hdr = (r.objs.get id).firstHeader ∧
    q.src = (r.objs.get id).remoteAddr
  quiet : ∀ id ∈ r.objs.keys, (r.objs.get id).receivedMsgInfo = false →
    (r.objs.get id).base = 0 ∧ ∀ q ∈ r.arrived, q.uniqReqId = id → q.hdr.creditReq = 0
  arrived : ∀ q ∈ r.arrived, (q.isData = true ∨ q.isCreditReq = true) ∧ q.uniqReqId ∈ r.objs.keys ∧ q.src ∈ r.senders
  live : ∀ id ∈ r.live, id ∈ r.objs.keys
  retired : ∀ id ∈ r.objs.keys, id ∉ r.live → (r.objs.get id).Complete
  grants : ∀ g ∈ r.grants, g.uniqReqId ∈ r.objs.keys ∧ GrantPkt r.addr (r.objs.get g.uniqReqId) g
  nodup : r.senders.Nodup
  owed : ∀ sender, r.owed sender = r.ofSender sender (·.firstHeader.unsolCredit) +
    creditSum (toAddr sender r.grants) - wireSum (dataPkts (fromAddr sender r.arrived))
  drawn : ∀ sender, creditSum (toAddr sender r.grants) = r.ofSender sender InboundMsgState.drawn
  strangers : ∀ sender ∉ r.senders, r.owed sender = 0
  lent : r.lent = ∑ sender ∈ r.senders.toFinset, r.owed sender
  balance : r.lent = r.granted - r.replenished
  requested : r.requested = r.objs.total fun _ o => (o.dataBytesExpected : ℤ)
  dataGranted : r.dataGranted = r.objs.total fun _ o => (o.dataBytesGranted : ℤ) - o.base

namespace RecvInv

variable {cfg : Config} {r : RecvSide} {p : Packet} {out : List Packet} {m : OutboundMsgState}

theorem known (inv : RecvInv r) : ∀ q ∈ r.arrived, q.isData = true ∨ q.isCreditReq = true :=
  fun q inside => (inv.arrived q inside).1

theorem not_complete (inv : RecvInv r) (fits : Fits cfg r.addr r.arrived p out m) (inside : p.uniqReqId ∈ r.objs.keys) :
    ¬ (r.objs.get p.uniqReqId).Complete := by
  rintro ⟨info, received, -⟩
  have ok := inv.obj _ inside
  obtain ⟨q, member, of, pos, size⟩ := ok.informed info
  have total := fits.creditReq_of_pos (List.mem_append_left _ member) (of.trans fits.name) (inv.known q member) pos
  have le := fits.payload_le
  rw [fits.arrived_payload, ← fits.name, ← ok.received] at le
  have data : p.isData = true := fits.not_learned_twice member (of.trans fits.name) (inv.known q member) pos
  have := (fits.payload_pos data).1
  rw [if_pos data] at le
  omega

/-- The message of an arriving packet is in the table of live ones, or was never heard of. -/
theorem current_cases (inv : RecvInv r) (fits : Fits cfg r.addr r.arrived p out m) :
    p.uniqReqId ∈ r.objs.keys ∧ p.uniqReqId ∈ r.live ∧ r.current p = r.objs.get p.uniqReqId ∨
      p.uniqReqId ∉ r.objs.keys ∧ r.current p = .fresh p := by
  unfold RecvSide.current
  by_cases live : p.uniqReqId ∈ r.live
  · exact Or.inl ⟨inv.live _ live, live, if_pos live⟩
  · refine Or.inr ⟨fun inside => ?_, if_neg live⟩
    exact inv.not_complete fits inside (inv.retired _ inside live)

theorem none_arrived (inv : RecvInv r) {id : UniqReqId} (unknown : id ∉ r.objs.keys) : ∀ q ∈ r.arrived,
    q.uniqReqId ≠ id :=
  fun q inside same => unknown (same ▸ (inv.arrived q inside).2.1)

theorem current_ok (inv : RecvInv r) (fits : Fits cfg r.addr r.arrived p out m) :
    ObjOk r.arrived r.grants p.uniqReqId (r.current p) := by
  rcases inv.current_cases fits with ⟨inside, -, here⟩ | ⟨unknown, here⟩
  · rw [here]; exact inv.obj _ inside
  · rw [here]
    refine .fresh fits (List.filter_eq_nil_iff.mpr fun q member => ?_) (List.filter_eq_nil_iff.mpr fun g member => ?_)
    · simp [inv.none_arrived unknown q member]
    · have := (inv.grants g member).1
      simp only [Bool.and_eq_true, beq_iff_eq, not_and]
      exact fun _ same => unknown (same ▸ this)

theorem current_first (inv : RecvInv r) (fits : Fits cfg r.addr r.arrived p out m) :
    (r.current p).firstHeader.unsolCreditData = p.hdr.unsolCreditData ∧
      (r.current p).firstHeader.unsolCredit = p.hdr.unsolCredit ∧ (r.current p).remoteAddr = p.src := by
  rcases inv.current_cases fits with ⟨inside, -, here⟩ | ⟨-, here⟩
  · obtain ⟨q, member, of, hdr, src⟩ := inv.first _ inside
    have same := fits.packet (List.mem_append_left _ member) (of.trans fits.name) (inv.known q member)
    obtain ⟨-, unsol, data, -⟩ := fits.self
    rw [here, ← hdr, ← src]
    exact ⟨same.2.2.2.2.1.trans data.symm, same.2.2.2.1.trans unsol.symm, same.1⟩
  · rw [here]; exact ⟨rfl, rfl, rfl⟩

theorem base_of_ignorant (fits : Fits cfg r.addr r.arrived p out m) (silent : p.hdr.creditReq = 0) :
    p.hdr.unsolCreditData = 0 ∧ p.hdr.unsolCredit = 0 := by
  obtain ⟨d, -, data, credit, zero⟩ := fits.unsol
  have scheduled : m.isScheduled = true := by
    have := fits.self.2.2.2
    have := fits.ok.total_pos
    cases sched : m.isScheduled <;> simp_all
  rw [data, credit, zero.mp scheduled]
  simp

theorem learns_known (inv : RecvInv r) (fits : Fits cfg r.addr r.arrived p out m) (inside : p.uniqReqId ∈ r.objs.keys)
    (learns : (r.current p).learns p = true) : (r.current p).base = 0 ∧ p.hdr.unsolCredit = 0 := by
  obtain ⟨-, ignorant⟩ := (InboundMsgState.learns_iff _ p).mp learns
  have unsol := (inv.current_ok fits).unsol
  rcases inv.current_cases fits with ⟨-, -, here⟩ | ⟨unknown, -⟩
  · have zero : (r.current p).base = 0 := by
      rw [here] at ignorant ⊢
      exact (inv.quiet _ inside ignorant).1
    rw [zero, (inv.current_first fits).2.1] at unsol
    exact ⟨zero, by rw [unsol]; simp⟩
  · exact absurd inside unknown

theorem debit_eq (inv : RecvInv r) (fits : Fits cfg r.addr r.arrived p out m) :
    (r.current p).debit p = p.hdr.unsolCredit - if p.uniqReqId ∈ r.objs.keys then p.hdr.unsolCredit else 0 := by
  obtain ⟨d, -, -, credit, zero⟩ := fits.unsol
  unfold InboundMsgState.debit
  by_cases inside : p.uniqReqId ∈ r.objs.keys
  · rw [if_pos inside, sub_self]
    split
    · next h => exact (inv.learns_known fits inside h.1).2
    · rfl
  · rw [if_neg inside, sub_zero]
    rcases inv.current_cases fits with ⟨absurd_inside, -, -⟩ | ⟨-, here⟩
    · exact absurd absurd_inside inside
    · rw [here]
      split
      · rfl
      · next silent =>
        by_contra ne
        have pos : 0 < p.hdr.unsolCredit := by rw [credit] at ne ⊢; omega
        refine silent ⟨(InboundMsgState.learns_iff _ p).mpr ⟨?_, rfl⟩, pos⟩
        by_contra told
        exact ne (base_of_ignorant fits (by omega)).2.symm

theorem ofSender_arrive (inv : RecvInv r) (fits : Fits cfg r.addr r.arrived p out m) (sender : Addr)
    (f : InboundMsgState → ℤ) : (r.arrive p).ofSender sender f = r.ofSender sender f +
      if p.src = sender then f ((r.current p).arrive p) - (if p.uniqReqId ∈ r.objs.keys then f (r.current p) else 0)
      else 0 := by
  have remote := (inv.current_first fits).2.2
  change (r.objs.insert p.uniqReqId ((r.current p).arrive p)).total _ = _
  rw [Store.total_insert_or, InboundMsgState.arrive_remoteAddr, remote]
  rcases inv.current_cases fits with ⟨inside, -, here⟩ | ⟨unknown, -⟩
  · rw [if_pos inside, if_pos inside, ← here, remote]
    unfold RecvSide.ofSender
    split <;> ring
  · rw [if_neg unknown, if_neg unknown]
    unfold RecvSide.ofSender
    split <;> ring

theorem total_arrive (inv : RecvInv r) (fits : Fits cfg r.addr r.arrived p out m) (f : InboundMsgState → ℤ) :
    ((r.arrive p).objs.total fun _ o => f o) = (r.objs.total fun _ o => f o) + f ((r.current p).arrive p) -
      if p.uniqReqId ∈ r.objs.keys then f (r.current p) else 0 := by
  change (r.objs.insert p.uniqReqId ((r.current p).arrive p)).total _ = _
  rw [Store.total_insert_or]
  rcases inv.current_cases fits with ⟨inside, -, here⟩ | ⟨unknown, -⟩
  · rw [if_pos inside, if_pos inside, here]
  · rw [if_neg unknown, if_neg unknown]

theorem get_arrive {id : UniqReqId} (inside : id ∈ (r.arrive p).objs.keys) :
    id = p.uniqReqId ∧ (r.arrive p).objs.get id = (r.current p).arrive p ∨
      id ≠ p.uniqReqId ∧ id ∈ r.objs.keys ∧ (r.arrive p).objs.get id = r.objs.get id := by
  by_cases same : id = p.uniqReqId
  · subst same
    exact Or.inl ⟨rfl, Store.get_insert_self ..⟩
  · have member := ((Store.mem_keys_insert ..).mp inside).resolve_right same
    exact Or.inr ⟨same, member, Store.get_insert_of_ne _ _ same⟩

theorem drawn_arrive (inv : RecvInv r) (fits : Fits cfg r.addr r.arrived p out m) :
    ((r.current p).arrive p).drawn = if p.uniqReqId ∈ r.objs.keys then (r.current p).drawn else 0 := by
  have ok := inv.current_ok fits
  cases learns : (r.current p).learns p with
  | true =>
    obtain ⟨granted, -, -⟩ := ok.granted_of_learns fits (inv.current_first fits).1 learns
    obtain ⟨-, none, nothing⟩ := ok.idle ((InboundMsgState.learns_iff _ p).mp learns).2
    have after : ((r.current p).arrive p).drawn = 0 := by
      unfold InboundMsgState.drawn
      rw [granted, InboundMsgState.arrive_base, sub_self]
    have before : (r.current p).drawn = 0 := by simp [InboundMsgState.drawn, none]
    rw [after, before, ite_self]
  | false =>
    have same : ((r.current p).arrive p).drawn = (r.current p).drawn := by
      unfold InboundMsgState.drawn
      rw [InboundMsgState.arrive_base, InboundMsgState.arrive_granted, InboundMsgState.arrive_expected]
      simp [learns]
    rcases inv.current_cases fits with ⟨inside, -, -⟩ | ⟨unknown, here⟩
    · rw [same, if_pos inside]
    · rw [same, if_neg unknown, here]
      simp [InboundMsgState.drawn, InboundMsgState.fresh]

theorem expected_arrive (inv : RecvInv r) (fits : Fits cfg r.addr r.arrived p out m) :
    (((r.current p).arrive p).dataBytesExpected : ℤ) -
        (if p.uniqReqId ∈ r.objs.keys then ((r.current p).dataBytesExpected : ℤ) else 0) =
      if (r.current p).learns p then (p.hdr.creditReq : ℤ) else 0 := by
  have ok := inv.current_ok fits
  rw [InboundMsgState.arrive_expected]
  cases learns : (r.current p).learns p with
  | true =>
    obtain ⟨-, none, -⟩ := ok.idle ((InboundMsgState.learns_iff _ p).mp learns).2
    simp [none]
  | false =>
    rcases inv.current_cases fits with ⟨inside, -, -⟩ | ⟨unknown, here⟩
    · simp [inside]
    · simp [unknown, here, InboundMsgState.fresh]

theorem dataGranted_arrive (inv : RecvInv r) (fits : Fits cfg r.addr r.arrived p out m) :
    (((r.current p).arrive p).dataBytesGranted : ℤ) - ((r.current p).arrive p).base =
      if p.uniqReqId ∈ r.objs.keys then ((r.current p).dataBytesGranted : ℤ) - (r.current p).base else 0 := by
  have ok := inv.current_ok fits
  cases learns : (r.current p).learns p with
  | true =>
    obtain ⟨granted, -, -⟩ := ok.granted_of_learns fits (inv.current_first fits).1 learns
    obtain ⟨-, -, nothing⟩ := ok.idle ((InboundMsgState.learns_iff _ p).mp learns).2
    rw [granted, InboundMsgState.arrive_base, sub_self, nothing]
    split
    · next inside => rw [(inv.learns_known fits inside learns).1]; rfl
    · rfl
  | false =>
    have granted : ((r.current p).arrive p).dataBytesGranted = (r.current p).dataBytesGranted := by
      rw [InboundMsgState.arrive_granted]; simp [learns]
    rw [granted, InboundMsgState.arrive_base]
    rcases inv.current_cases fits with ⟨inside, -, -⟩ | ⟨unknown, here⟩
    · rw [if_pos inside]
    · rw [if_neg unknown]
      have silent : p.hdr.creditReq = 0 := by
        by_contra told
        have : (r.current p).learns p = true := by
          rw [here]; exact (InboundMsgState.learns_iff _ p).mpr ⟨Nat.pos_of_ne_zero told, rfl⟩
        simp [learns] at this
      simp [here, InboundMsgState.fresh, InboundMsgState.base, (base_of_ignorant fits silent).1]

theorem wireSum_arrive (r : RecvSide) (p : Packet) (sender : Addr) :
    wireSum (dataPkts (fromAddr sender (r.arrive p).arrived)) =
      wireSum (dataPkts (fromAddr sender r.arrived)) + if p.src = sender then p.refund else 0 := by
  change wireSum (dataPkts (fromAddr sender (r.arrived ++ [p]))) = _
  rw [fromAddr_append, dataPkts_append, wireSum_append, fromAddr_singleton]
  unfold Packet.refund
  split
  · rw [dataPkts_singleton]; split <;> simp
  · simp [dataPkts]

theorem owed_arrive (inv : RecvInv r) (fits : Fits cfg r.addr r.arrived p out m) (sender : Addr) :
    (r.arrive p).owed sender = r.owed sender + if p.src = sender then (r.current p).debit p - p.refund else 0 := by
  change r.owed sender + _ - _ = _
  rw [(inv.current_first fits).2.2]
  split <;> ring

theorem quiet_arrive (inv : RecvInv r) (fits : Fits cfg r.addr r.arrived p out m)
    (ignorant : ((r.current p).arrive p).receivedMsgInfo = false) :
    ((r.current p).arrive p).base = 0 ∧ ∀ q ∈ r.arrived ++ [p], q.uniqReqId = p.uniqReqId → q.hdr.creditReq = 0 := by
  rw [InboundMsgState.arrive_info] at ignorant
  simp only [Bool.or_eq_false_iff] at ignorant
  have silent : p.hdr.creditReq = 0 := by
    by_contra told
    have : (r.current p).learns p = true :=
      (InboundMsgState.learns_iff _ p).mpr ⟨Nat.pos_of_ne_zero told, ignorant.2⟩
    simp [ignorant.1] at this
  constructor
  · rw [InboundMsgState.arrive_base, InboundMsgState.base, (inv.current_first fits).1, (base_of_ignorant fits silent).1]
    rfl
  · intro q member of
    rcases List.mem_append.mp member with old | new
    · rcases inv.current_cases fits with ⟨inside, -, here⟩ | ⟨unknown, -⟩
      · exact (inv.quiet _ inside (by rw [← here]; exact ignorant.2)).2 q old of
      · exact absurd of (inv.none_arrived unknown q old)
    · rw [List.mem_singleton.mp new]; exact silent

theorem arrive (inv : RecvInv r) (fits : Fits cfg r.addr r.arrived p out m) (met : p.src ∈ r.senders) :
    RecvInv (r.arrive p) := by
  constructor
  case obj =>
    intro id inside
    rcases get_arrive inside with ⟨rfl, here⟩ | ⟨other, member, there⟩
    · rw [here]; exact (inv.current_ok fits).arrive fits (inv.current_first fits).1 inv.known
    · rw [there]; exact (inv.obj id member).arrive_other (Ne.symm other)
  case first =>
    intro id inside
    rcases get_arrive inside with ⟨rfl, here⟩ | ⟨other, member, there⟩
    · rw [here, InboundMsgState.arrive_firstHeader, InboundMsgState.arrive_remoteAddr]
      rcases inv.current_cases fits with ⟨member, -, here⟩ | ⟨-, here⟩
      · obtain ⟨q, old, rest⟩ := inv.first _ member
        rw [here]; exact ⟨q, List.mem_append_left _ old, rest⟩
      · rw [here]; exact ⟨p, List.mem_append_right _ (List.mem_singleton_self p), rfl, rfl, rfl⟩
    · obtain ⟨q, old, rest⟩ := inv.first _ member
      rw [there]; exact ⟨q, List.mem_append_left _ old, rest⟩
  case quiet =>
    intro id inside ignorant
    rcases get_arrive inside with ⟨rfl, here⟩ | ⟨other, member, there⟩
    · rw [here] at ignorant ⊢; exact inv.quiet_arrive fits ignorant
    · rw [there] at ignorant ⊢
      obtain ⟨base, silent⟩ := inv.quiet id member ignorant
      refine ⟨base, fun q new of => ?_⟩
      rcases List.mem_append.mp new with old | new
      · exact silent q old of
      · rw [List.mem_singleton.mp new] at of; exact absurd of.symm other
  case arrived =>
    intro q new
    have keys : ∀ id, id ∈ r.objs.keys ∨ id = p.uniqReqId → id ∈ (r.arrive p).objs.keys :=
      fun id h => (Store.mem_keys_insert ..).mpr h
    rcases List.mem_append.mp new with old | new
    · obtain ⟨kind, inside, src⟩ := inv.arrived q old
      exact ⟨kind, keys _ (Or.inl inside), src⟩
    · rw [List.mem_singleton.mp new]
      exact ⟨fits.kind, keys _ (Or.inr rfl), met⟩
  case live =>
    intro id live
    refine (Store.mem_keys_insert ..).mpr ?_
    rcases Finset.mem_insert.mp live with same | live
    · exact Or.inr same
    · exact Or.inl (inv.live id live)
  case retired =>
    intro id inside dead
    have dead := Finset.mem_insert.not.mp dead
    rcases get_arrive inside with ⟨same, -⟩ | ⟨other, member, there⟩
    · exact absurd (Or.inl same) dead
    · rw [there]; exact inv.retired id member fun live => dead (Or.inr live)
  case grants =>
    intro g member
    obtain ⟨inside, ok⟩ := inv.grants g member
    have inside' : g.uniqReqId ∈ (r.arrive p).objs.keys := (Store.mem_keys_insert ..).mpr (Or.inl inside)
    refine ⟨inside', ?_⟩
    rcases get_arrive inside' with ⟨same, here⟩ | ⟨-, -, there⟩
    · refine { ok with dst := ?_ }
      rw [here, InboundMsgState.arrive_remoteAddr]
      rcases inv.current_cases fits with ⟨-, -, known⟩ | ⟨unknown, -⟩
      · rw [known, ← same]; exact ok.dst
      · exact absurd (same ▸ inside) unknown
    · rw [there]; exact ok
  case nodup => exact inv.nodup
  case owed =>
    intro sender
    have grants : (r.arrive p).grants = r.grants := rfl
    rw [inv.owed_arrive fits, inv.ofSender_arrive fits, wireSum_arrive, inv.owed sender, grants,
      inv.debit_eq fits, InboundMsgState.arrive_firstHeader, (inv.current_first fits).2.1]
    split <;> ring
  case drawn =>
    intro sender
    rw [inv.ofSender_arrive fits, inv.drawn_arrive fits, sub_self, ite_self, add_zero]
    exact inv.drawn sender
  case strangers =>
    intro sender stranger
    have apart : p.src ≠ sender := fun same => stranger (same ▸ met)
    rw [inv.owed_arrive fits, if_neg apart, add_zero]
    exact inv.strangers sender stranger
  case lent =>
    have change : (r.arrive p).lent = r.lent + ((r.current p).debit p - p.refund) := by
      change r.lent + _ - _ = _; ring
    have senders : (r.arrive p).senders = r.senders := rfl
    rw [change, senders, Finset.sum_congr rfl fun sender _ => inv.owed_arrive fits sender, Finset.sum_add_distrib,
      inv.lent, Finset.sum_ite_eq, if_pos (List.mem_toFinset.mpr met)]
  case balance =>
    have balance := inv.balance
    change r.lent + _ - _ = r.granted + _ - (r.replenished + _)
    rw [balance]; ring
  case requested =>
    have expected := inv.expected_arrive fits
    rw [inv.total_arrive fits fun o => (o.dataBytesExpected : ℤ)]
    change r.requested + _ = _
    rw [inv.requested]
    omega
  case dataGranted =>
    have granted := inv.dataGranted_arrive fits
    rw [inv.total_arrive fits fun o => (o.dataBytesGranted : ℤ) - o.base, granted]
    change r.dataGranted = _
    rw [inv.dataGranted]
    ring

theorem meet (inv : RecvInv r) (sender : Addr) : RecvInv (r.meet sender) := by
  by_cases known : sender ∈ r.senders
  · have same : r.meet sender = r := by unfold RecvSide.meet; rw [if_pos known]
    rw [same]; exact inv
  · have senders : (r.meet sender).senders = r.senders ++ [sender] := if_neg known
    exact { inv with
      arrived := fun q inside => by
        obtain ⟨kind, member, src⟩ := inv.arrived q inside
        exact ⟨kind, member, by rw [senders]; exact List.mem_append_left _ src⟩
      nodup := by
        rw [senders]
        exact List.nodup_append.mpr ⟨inv.nodup, List.nodup_singleton _, fun a h b h' same =>
          known (List.mem_singleton.mp h' ▸ same ▸ h)⟩
      strangers := fun other stranger => by
        rw [senders] at stranger
        exact inv.strangers other fun h => stranger (List.mem_append_left _ h)
      lent := by
        have zero := inv.strangers sender known
        have fresh : sender ∉ r.senders.toFinset := fun h => known (List.mem_toFinset.mp h)
        rw [senders, List.toFinset_append, List.toFinset_cons, List.toFinset_nil, insert_empty_eq, Finset.union_comm,
          ← Finset.insert_eq, Finset.sum_insert fresh]
        change r.lent = r.owed sender + ∑ sender ∈ r.senders.toFinset, r.owed sender
        rw [zero, inv.lent, zero_add] }

theorem remote_met (inv : RecvInv r) {id : UniqReqId} (inside : id ∈ r.objs.keys) :
    (r.objs.get id).remoteAddr ∈ r.senders := by
  obtain ⟨q, member, -, -, src⟩ := inv.first id inside
  rw [← src]; exact (inv.arrived q member).2.2

theorem retire (inv : RecvInv r) {id : UniqReqId} (complete : (r.objs.get id).Complete) :
    RecvInv (r.retire id) :=
  { inv with
    live := fun other live => inv.live other (Finset.mem_of_mem_erase live)
    retired := fun other inside dead => by
      by_cases same : other = id
      · subst same; exact complete
      · exact inv.retired other inside fun live => dead (Finset.mem_erase.mpr ⟨same, live⟩) }
section Grant

variable {id : UniqReqId} {now : Time}

theorem get_grant (r : RecvSide) (id : UniqReqId) (p : Packet) (other : UniqReqId) :
    other = id ∧ (r.grant id p).objs.get other = (r.objs.get id).afterGrant ∨
      other ≠ id ∧ (r.grant id p).objs.get other = r.objs.get other := by
  by_cases same : other = id
  · subst same; exact Or.inl ⟨rfl, Store.get_modify_self ..⟩
  · exact Or.inr ⟨same, Store.get_modify_of_ne _ _ same⟩

theorem grant (inv : RecvInv r) (live : id ∈ r.live) (info : (r.objs.get id).receivedMsgInfo = true)
    (needs : (r.objs.get id).dataBytesGranted < (r.objs.get id).dataBytesExpected)
    (carries : p.Carries (Host.grantHdr (r.objs.get id).afterGrant (ethernet.cost (r.objs.get id).nextData)
      (ethernet.cost (r.objs.get id).nextData - ((r.objs.get id).nextData + wireOverhead : ℕ)) now)
      grantMsgSize r.addr (r.objs.get id).remoteAddr) : RecvInv (r.grant id p) := by
  have inside := inv.live id live
  have objs : (r.grant id p).objs = r.objs.modify id InboundMsgState.afterGrant := rfl
  have len := grantLen_eq carries
  have pkt := grantPkt needs carries
  -- the GRANT carries the name in the first header of the message
  have of : p.uniqReqId = id := by
    obtain ⟨q, -, of, hdr, -⟩ := inv.first id inside
    have named : (r.objs.get id).firstHeader.uniqReqId = id := by rw [← hdr]; exact of
    rw [carries.uniqReqId]; exact named
  have isGrant : p.isGrant = true := by unfold Packet.isGrant; rw [pkt.msgType]; rfl
  have credit : p.hdr.credit = ethernet.cost (r.objs.get id).nextData := by rw [pkt.credit, len]
  -- the sender of the message owes what it is granted, no one else owes more
  have owed : ∀ sender, (r.grant id p).owed sender =
      r.owed sender + if (r.objs.get id).remoteAddr = sender then (ethernet.cost (r.objs.get id).nextData : ℤ)
        else 0 := by
    intro sender
    change Function.update r.owed _ _ sender = _
    by_cases same : (r.objs.get id).remoteAddr = sender
    · subst same; rw [Function.update_self, if_pos rfl]
    · rw [Function.update_of_ne (Ne.symm same), if_neg same, add_zero]
  have credits : ∀ sender, creditSum (toAddr sender (r.grant id p).grants) = creditSum (toAddr sender r.grants) +
      if (r.objs.get id).remoteAddr = sender then (ethernet.cost (r.objs.get id).nextData : ℤ) else 0 := by
    intro sender
    change creditSum (toAddr sender (r.grants ++ [p])) = _
    rw [toAddr_append, creditSum_append, toAddr_singleton, pkt.dst]
    split <;> simp [credit]
  constructor
  case obj =>
    intro other member
    rcases get_grant r id p other with ⟨rfl, here⟩ | ⟨ne, there⟩
    · rw [here]
      exact (inv.obj _ inside).grant needs of isGrant len (by rw [carries.hdr]; rfl)
    · rw [there]
      exact (inv.obj other member).grant_other (by rw [of]; exact Ne.symm ne)
  case first =>
    intro other member
    rcases get_grant r id p other with ⟨rfl, here⟩ | ⟨-, there⟩
    · rw [here]; exact inv.first _ inside
    · rw [there]; exact inv.first other member
  case quiet =>
    intro other member ignorant
    rcases get_grant r id p other with ⟨rfl, here⟩ | ⟨-, there⟩
    · rw [here] at ignorant; exact absurd (info.symm.trans ignorant) (by decide)
    · rw [there] at ignorant ⊢; exact inv.quiet other member ignorant
  case arrived => exact inv.arrived
  case live => exact inv.live
  case retired =>
    intro other member dead
    rcases get_grant r id p other with ⟨rfl, -⟩ | ⟨-, there⟩
    · exact absurd live dead
    · rw [there]; exact inv.retired other member dead
  case grants =>
    intro g member
    have remote : ∀ other ∈ r.objs.keys,
        ((r.grant id p).objs.get other).remoteAddr = (r.objs.get other).remoteAddr := by
      intro other member
      rcases get_grant r id p other with ⟨rfl, here⟩ | ⟨-, there⟩
      · rw [here]; rfl
      · rw [there]
    rcases List.mem_append.mp member with old | new
    · obtain ⟨known, ok⟩ := inv.grants g old
      exact ⟨known, { ok with dst := by rw [remote _ known]; exact ok.dst }⟩
    · rw [List.mem_singleton.mp new]
      have known : p.uniqReqId ∈ r.objs.keys := of ▸ inside
      exact ⟨known, { pkt with dst := by rw [remote _ known, of]; exact pkt.dst }⟩
  case nodup => exact inv.nodup
  case owed =>
    intro sender
    have arrived : (r.grant id p).arrived = r.arrived := rfl
    have same : (r.objs.get id).afterGrant.firstHeader.unsolCredit = (r.objs.get id).firstHeader.unsolCredit := rfl
    rw [owed, RecvSide.ofSender_modify objs inside rfl, credits, inv.owed sender, same, sub_self, ite_self, arrived]
    ring
  case drawn =>
    intro sender
    rw [credits, RecvSide.ofSender_modify objs inside rfl, drawn_afterGrant needs, inv.drawn sender]
    split <;> ring
  case strangers =>
    intro sender stranger
    have apart : (r.objs.get id).remoteAddr ≠ sender := fun same => stranger (same ▸ inv.remote_met inside)
    rw [owed, if_neg apart, add_zero]
    exact inv.strangers sender stranger
  case lent =>
    have met := List.mem_toFinset.mpr (inv.remote_met inside)
    have senders : (r.grant id p).senders = r.senders := rfl
    have change : (r.grant id p).lent = r.lent + ethernet.cost (r.objs.get id).nextData := rfl
    rw [change, senders, Finset.sum_congr rfl fun sender _ => owed sender, Finset.sum_add_distrib, inv.lent,
      Finset.sum_ite_eq, if_pos met]
  case balance =>
    have balance := inv.balance
    change r.lent + _ = r.granted + _ - r.replenished
    rw [balance]; ring
  case requested =>
    rw [objs, Store.total_modify_of_eq _ _ _ _ rfl]
    exact inv.requested
  case dataGranted =>
    rw [objs, Store.total_modify _ _ inside, ← inv.dataGranted]
    change r.dataGranted + ((r.objs.get id).nextData : ℤ) = r.dataGranted - _ +
      ((((r.objs.get id).dataBytesGranted + (r.objs.get id).nextData : ℕ) : ℤ) - (r.objs.get id).base)
    push_cast
    ring

end Grant

theorem step {r' : RecvSide} (inv : RecvInv r) (step : RecvSide.Step r r') : RecvInv r' := by
  cases step with
  | grant id now p live info needs carries => exact inv.grant live info needs carries
  | retire id live complete => exact inv.retire complete

end RecvInv

end PhantomPass
