import PhantomPass.Credit.SendInvariant

/-! What pays for the packets to a receiver, in the order they were sent: every
first part of the data is paid by what the receiver granted and by the messages
that have a packet in that part. -/

set_option autoImplicit false

namespace PhantomPass

open Lib (Store)

namespace OutboundMsgState

/-- What a message credited itself, once a packet of it is among the given ones. -/
def openedBy (front : List Packet) (m : OutboundMsgState) : ℤ :=
  if dataOf m.reqId front = [] then 0 else m.selfAllocCredit

end OutboundMsgState

namespace SendSide

def Covered (s : SendSide) : Prop := ∀ rcvr front, front <+: dataPkts (toAddr rcvr s.out) →
  wireSum front ≤ s.toward rcvr (·.openedBy front) + creditSum (fromAddr rcvr s.grants)

end SendSide

namespace SendInv

variable {cfg : Config} {s s' : SendSide}

theorem dataOf_sent (inv : SendInv cfg s) {id : UniqReqId} (inside : id ∈ s.msgs.keys) :
    dataOf (s.msgs.get id).reqId (dataPkts (toAddr (s.msgs.get id).remoteAddr s.out)) = dataOf
    (s.msgs.get id).reqId s.out :=
  dataOf_toAddr fun p member => ((inv.msg id inside).data p member).dst

/-- All the data is paid for: what messages credited themselves is either pledged or opened. -/
theorem covered_all (inv : SendInv cfg s) (rcvr : Addr) :
    wireSum (dataPkts (toAddr rcvr s.out)) ≤
      s.toward rcvr (·.openedBy (dataPkts (toAddr rcvr s.out))) + creditSum (fromAddr rcvr s.grants) := by
  have pool := inv.pool rcvr
  have floor := inv.floor rcvr
  have split : s.toward rcvr OutboundMsgState.selfAllocCredit ≤
      s.toward rcvr OutboundMsgState.pledged + s.toward rcvr (·.openedBy (dataPkts (toAddr rcvr s.out))) := by
    rw [SendSide.toward_add]
    refine SendSide.toward_mono fun id inside towards => ?_
    have sent := (inv.msg id inside).sentFirst
    subst towards
    rw [← inv.dataOf_sent inside] at sent
    unfold OutboundMsgState.pledged OutboundMsgState.openedBy
    cases first : (s.msgs.get id).sentFirst with
    | true =>
      have some_data : dataOf (s.msgs.get id).reqId (dataPkts (toAddr (s.msgs.get id).remoteAddr s.out)) ≠ [] :=
        fun empty => by simp [sent.mpr empty] at first
      rw [if_neg some_data, if_pos rfl, zero_add]
    | false => simp [sent.mp first]
  unfold SendSide.costTo at pool
  omega

/-- A part is still paid for when no message lost what it credited itself and the GRANTs only grew. -/
theorem covered_front {rcvr : Addr} {front : List Packet} (covered : s.Covered)
    (old : front <+: dataPkts (toAddr rcvr s.out))
    (opened : s.toward rcvr (·.openedBy front) ≤ s'.toward rcvr (·.openedBy front))
    (grants : creditSum (fromAddr rcvr s.grants) ≤ creditSum (fromAddr rcvr s'.grants)) :
    wireSum front ≤ s'.toward rcvr (·.openedBy front) + creditSum (fromAddr rcvr s'.grants) := by
  have := covered rcvr front old
  omega

/-- Changing a message leaves what a part opened, when it keeps its name and its credit or has no packet there. -/
theorem opened_of_modify {id : UniqReqId} {change : OutboundMsgState → OutboundMsgState} (inside : id ∈ s.msgs.keys)
    (msgs : s'.msgs = s.msgs.modify id change)
    (remote : (change (s.msgs.get id)).remoteAddr = (s.msgs.get id).remoteAddr)
    (name : (change (s.msgs.get id)).reqId = (s.msgs.get id).reqId) {front : List Packet}
    (credit : (change (s.msgs.get id)).selfAllocCredit = (s.msgs.get id).selfAllocCredit ∨
      dataOf (s.msgs.get id).reqId front = []) (rcvr : Addr) :
    s'.toward rcvr (·.openedBy front) = s.toward rcvr (·.openedBy front) := by
  have same : (change (s.msgs.get id)).openedBy front = (s.msgs.get id).openedBy front := by
    unfold OutboundMsgState.openedBy
    rw [name]
    rcases credit with credit | none
    · rw [credit]
    · rw [if_pos none, if_pos none]
  rw [SendSide.toward_modify msgs inside remote, same, sub_self, ite_self, add_zero]

theorem covered_step (inv : SendInv cfg s) (covered : s.Covered) (step : SendSide.Step cfg s s') : s'.Covered := by
  intro rcvr front
  have inv' := inv.step step
  cases step with
  | enqueue m fresh new =>
    intro old
    have none : m.openedBy front = 0 := by simp [OutboundMsgState.openedBy, new.uncredited.1]
    refine covered_front covered old (le_of_eq ?_) (le_refl _)
    rw [SendSide.toward_insert _ _ fresh, none, ite_self, add_zero]
  | selfCredit id prefixLen inside idle unchecked unsolicited pre =>
    intro old
    have none : dataOf (s.msgs.get id).reqId front = [] := by
      refine List.filter_eq_nil_iff.mpr fun p member => ?_
      have empty := List.filter_eq_nil_iff.mp ((inv.msg id inside).idle_data idle)
      exact empty p (mem_toAddr.mp (mem_dataPkts.mp (old.subset member)).1).1
    exact covered_front covered old
      (le_of_eq (opened_of_modify inside (s.msgs_selfCredit cfg id prefixLen) rfl rfl (Or.inr none) rcvr).symm)
        (le_refl _)
  | activate id inside idle unscheduled =>
    intro old
    exact covered_front covered old
      (le_of_eq (opened_of_modify inside (s.msgs_activate id) rfl rfl (Or.inl rfl) rcvr).symm) (le_refl _)
  | announce id p inside idle scheduled unsolicited carries =>
    intro old
    have notData : p.isData = false := by
      have type : p.hdr.msgType = .grantReq := carries.msgType
      simp [Packet.isData, type]
    have same : dataPkts (toAddr rcvr (s.announce id p).out) = dataPkts (toAddr rcvr s.out) := by
      simp [SendSide.announce, dataPkts, toAddr, notData]
    rw [same] at old
    exact covered_front covered old
      (le_of_eq (opened_of_modify inside (s.msgs_announce id p) rfl rfl (Or.inl rfl) rcvr).symm) (le_refl _)
  | transmit id ps p inside active pos affordable prior carries =>
    intro old
    -- a first part of the data is all of it, or a first part of what was sent before
    have parts : front = dataPkts (toAddr rcvr (s.transmit id p).out) ∨ front <+: dataPkts (toAddr rcvr s.out) := by
      have out : (s.transmit id p).out = s.out ++ [p] := rfl
      by_cases grew : dataPkts (toAddr rcvr [p]) = [p]
      · rw [out, toAddr_append, dataPkts_append, grew] at old ⊢
        exact List.prefix_concat_iff.mp old
      · have kept : dataPkts (toAddr rcvr [p]) = [] := by
          by_contra some_packet
          simp_all [dataPkts, toAddr, List.filter_cons]
        rw [out, toAddr_append, dataPkts_append, kept, List.append_nil] at old
        exact Or.inr old
    rcases parts with rfl | old
    · exact inv'.covered_all rcvr
    · exact covered_front covered old
        (le_of_eq (opened_of_modify inside (s.msgs_transmit id p) rfl rfl (Or.inl rfl) rcvr).symm) (le_refl _)
  | credit p grant nonneg =>
    intro old
    refine covered_front covered old (le_refl _) ?_
    simp only [SendSide.credit, fromAddr_append, creditSum_append, fromAddr_singleton]
    split
    · rw [creditSum_singleton]; omega
    · simp

theorem covered_steps (inv : SendInv cfg s) (covered : s.Covered) (steps : SendSide.Steps cfg s s') : s'.Covered := by
  -- every step of the sender keeps the data behind what announces it
  induction steps with
  | refl => exact covered
  | tail front last ih => exact covered_step (inv.steps front) ih last

end SendInv

end PhantomPass
