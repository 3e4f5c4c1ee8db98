import PhantomPass.Credit.RecvLedger
import PhantomPass.Credit.SendOrder

/-! What a sender owes a receiver. The first part of the data was paid for by
the messages in it; so nobody owes less than nothing, as long as the receiver
has heard of these messages when the data arrives. -/

set_option autoImplicit false

namespace PhantomPass

open Lib (Store)

/-- What holds of everything before each element where it holds of the element, holds of a first part. -/
theorem filter_prefix_of_pairwise {α : Type*} {P : α → Prop} [DecidablePred P] {log : List α}
    (closed : log.Pairwise fun a b => P b → P a) : log.filter P <+: log := by
  induction closed with
  | nil => exact List.prefix_rfl
  | @cons a rest front _ ih =>
    by_cases here : P a
    · rw [List.filter_cons_of_pos (by simpa using here)]
      exact (List.prefix_cons_inj a).mpr ih
    · have none : ∀ b ∈ a :: rest, ¬ P b := by
        intro b inside holds
        rcases List.mem_cons.mp inside with rfl | later
        · exact here holds
        · exact here (front b later holds)
      rw [List.filter_eq_nil_iff.mpr (by simpa using none)]
      exact List.nil_prefix

theorem wireCost_nonneg (p : Packet) : 0 ≤ p.wireCost := Int.natCast_nonneg _

theorem wireSum_le_of_subperm {a b : List Packet} (sub : a.Subperm b) : wireSum a ≤ wireSum b := by
  obtain ⟨l, perm, sub⟩ := sub
  rw [← wireSum_perm perm]
  apply (sub.map _).sum_le_sum
  intro cost inside
  obtain ⟨p, -, rfl⟩ := List.mem_map.mp inside
  exact wireCost_nonneg p

/-- What holds of all packets of a part lets them be counted among those of the whole for which it holds. -/
theorem subperm_filter {α : Type*} {a b : List α} (keep : α → Bool) (sub : a.Subperm b) (all : ∀ x ∈ a, keep x = true) :
    a.Subperm (b.filter keep) := by
  rw [← List.filter_eq_self.mpr all]
  exact sub.filter keep

theorem wireSum_split (keep : Packet → Bool) (log : List Packet) :
    wireSum log = wireSum (log.filter keep) + wireSum (log.filter fun p => !keep p) := by
  rw [← wireSum_append, wireSum_perm (List.filter_append_perm keep log)]

theorem total_dataOf_le (msgs : Store UniqReqId OutboundMsgState) (log : List Packet) :
    (msgs.total fun id _ => wireSum (dataOf id log)) ≤ wireSum log := by
  -- each packet of the log pays into one message
  induction log with
  | nil => simp [Store.total]
  | cons p rest ih =>
    have each : ∀ id, wireSum (dataOf id (p :: rest)) =
        (if p.isData = true ∧ p.uniqReqId = id then p.wireCost else 0) + wireSum (dataOf id rest) := by
      intro id
      unfold dataOf
      by_cases of : p.isData = true ∧ p.uniqReqId = id
      · rw [if_pos of, List.filter_cons_of_pos (by simpa using of)]
        simp [wireSum]
      · rw [if_neg of, List.filter_cons_of_neg (by simpa using of), zero_add]
    have one : (msgs.total fun id _ => if p.isData = true ∧ p.uniqReqId = id then p.wireCost else 0) ≤ p.wireCost := by
      unfold Store.total
      cases p.isData with
      | true =>
        simp only [true_and]
        rw [Finset.sum_ite_eq]
        split
        · exact le_refl _
        · exact wireCost_nonneg p
      | false =>
        simp only [Bool.false_eq_true, false_and, if_false, Finset.sum_const_zero]
        exact wireCost_nonneg p
    have head : wireSum (p :: rest) = p.wireCost + wireSum rest := by simp [wireSum]
    simp only [each]
    rw [Store.total_add, head]
    exact add_le_add one ih

namespace MsgOk

variable {cfg : Config} {addr : Addr} {out : List Packet} {m : OutboundMsgState} {q : Packet}

theorem single_pays (ok : MsgOk cfg addr out m) (inside : q ∈ dataOf m.reqId out) (single : q.isSingleReply = true) :
    m.selfAllocCredit ≤ q.wireCost := by
  have small := ((ok.isSingleReply_iff inside).mp single).2
  have whole : ethernet.lens m.totalBytes = [q.payload] := by
    have member : q.payload ∈ ethernet.lens m.totalBytes := by
      rw [← ok.lens]
      exact List.mem_append_left _ (List.mem_map_of_mem inside)
    have one := ethernet.lens_of_le ok.total_pos small
    rw [one] at member ⊢
    rw [List.mem_singleton.mp member]
  have cost : (ethernet.wire m.totalBytes : ℤ) = q.wireCost := by
    unfold Lib.Framing.wire Packet.wireCost
    rw [whole]
    simp
  obtain ⟨d, le, -, -, credit, -⟩ := ok.alloc
  rw [credit, ← cost]
  exact_mod_cast ethernet.wire_mono le

end MsgOk

/-- The sending half of a host and the receiving half of another one, at which
some of what the first one sent has arrived. -/
structure Linked (cfg : Config) (s : SendSide) (r : RecvSide) : Prop where
  send : SendInv cfg s
  covered : s.Covered
  numbered : (toAddr r.addr s.out).Pairwise fun a b => a.seqno < b.seqno
  recv : RecvInv r
  arrived : (fromAddr s.addr r.arrived).Subperm ((toAddr r.addr s.out).filter fun p => !p.isSingleReply)
  origin : ∀ q ∈ r.arrived, q.uniqReqId ∈ s.msgs.keys → (s.msgs.get q.uniqReqId).remoteAddr = r.addr → q.src = s.addr
  grants : creditSum (fromAddr r.addr s.grants) ≤ creditSum (toAddr s.addr r.grants)

/-- Of the messages that credited themselves the receiver has heard when data that was sent later arrives. -/
def Told (s : SendSide) (r : RecvSide) : Prop :=
  ∀ q ∈ dataPkts (toAddr r.addr s.out), q.isSingleReply = false → 0 < q.hdr.unsolCredit →
    ∀ p ∈ dataPkts (fromAddr s.addr r.arrived), q.seqno < p.seqno → q.uniqReqId ∈ r.objs.keys

namespace Linked

variable {cfg : Config} {s : SendSide} {r : RecvSide} {id : UniqReqId}

section Heard

variable (linked : Linked cfg s r)

include linked

theorem sent_of_arrived {q : Packet} (inside : q ∈ r.arrived) (origin : q.src = s.addr) :
    q ∈ toAddr r.addr s.out ∧ q.isSingleReply = false := by
  have there := linked.arrived.subset (mem_fromAddr.mpr ⟨inside, origin⟩)
  obtain ⟨sent, multi⟩ := List.mem_filter.mp there
  exact ⟨sent, by simpa using multi⟩

theorem seqno_injective {p q : Packet} (sentQ : q ∈ toAddr r.addr s.out) (sentP : p ∈ toAddr r.addr s.out)
    (same : q.seqno = p.seqno) : q = p := by
  have nodup : ((toAddr r.addr s.out).map Packet.seqno).Nodup := by
    apply List.pairwise_map.mpr
    exact linked.numbered.imp Nat.ne_of_lt
  exact List.inj_on_of_nodup_map nodup sentQ sentP same

theorem packet_of_sent {q : Packet} (sent : q ∈ toAddr r.addr s.out) :
    q.uniqReqId ∈ s.msgs.keys ∧ (s.msgs.get q.uniqReqId).remoteAddr = r.addr ∧
      q.hdr.unsolCredit = (s.msgs.get q.uniqReqId).selfAllocCredit := by
  obtain ⟨out, towards⟩ := mem_toAddr.mp sent
  obtain ⟨kind, member⟩ := linked.send.owned q out
  have packet := (linked.send.msg _ member).packet (p := q)
  rw [linked.send.names _ member] at packet
  have parts : q ∈ dataOf q.uniqReqId s.out ∨ q ∈ creditReqsOf q.uniqReqId s.out := by
    rcases kind with data | req
    · exact Or.inl (mem_dataOf.mpr ⟨out, data, rfl⟩)
    · exact Or.inr (mem_creditReqsOf.mpr ⟨out, req, rfl⟩)
  obtain ⟨-, dst, -, unsol, -⟩ := packet parts
  exact ⟨member, dst.symm.trans towards, unsol⟩

theorem member_of_known (known : id ∈ r.objs.keys) (sender : (r.objs.get id).remoteAddr = s.addr) :
    id ∈ s.msgs.keys ∧ (s.msgs.get id).remoteAddr = r.addr := by
  obtain ⟨q, arrived, of, -, origin⟩ := linked.recv.first id known
  obtain ⟨sent, -⟩ := linked.sent_of_arrived arrived (origin.trans sender)
  obtain ⟨member, towards, -⟩ := linked.packet_of_sent sent
  rw [of] at member towards
  exact ⟨member, towards⟩

theorem known_of_member (inside : id ∈ s.msgs.keys) (towards : (s.msgs.get id).remoteAddr = r.addr)
    (known : id ∈ r.objs.keys) : (r.objs.get id).remoteAddr = s.addr ∧ (r.objs.get id).firstHeader.unsolCredit =
    (s.msgs.get id).selfAllocCredit := by
  obtain ⟨q, arrived, of, hdr, src⟩ := linked.recv.first id known
  subst of
  have origin := linked.origin q arrived inside towards
  obtain ⟨sent, -⟩ := linked.sent_of_arrived arrived origin
  obtain ⟨-, -, unsol⟩ := linked.packet_of_sent sent
  refine ⟨src.symm.trans origin, ?_⟩
  rw [← hdr, unsol]

/-- A sum over what a receiver knows of a sender is one over the sender's messages that it knows. -/
theorem ofSender_eq (f : InboundMsgState → ℤ) :
    s.msgs.total (fun id m => if m.remoteAddr = r.addr ∧ id ∈ r.objs.keys then f (r.objs.get id) else 0) =
      r.ofSender s.addr f := by
  apply Store.total_eq_total
  · exact fun id _ unknown => if_neg fun both => unknown both.2
  · exact fun id known foreign => if_neg fun this => foreign (linked.member_of_known known this).1
  · intro id inside known
    by_cases towards : (s.msgs.get id).remoteAddr = r.addr
    · obtain ⟨origin, -⟩ := linked.known_of_member inside towards known
      exact (if_pos ⟨towards, known⟩).trans (if_pos origin).symm
    · have away : (r.objs.get id).remoteAddr ≠ s.addr := fun this => towards (linked.member_of_known known this).2
      exact (if_neg fun both => towards both.1).trans (if_neg away).symm

theorem heard_eq : s.msgs.total
    (fun id m => if m.remoteAddr = r.addr ∧ id ∈ r.objs.keys then m.selfAllocCredit else 0) =
    r.ofSender s.addr (·.firstHeader.unsolCredit) := by
  rw [← linked.ofSender_eq]
  apply Store.total_congr
  intro id inside
  split
  · next heard => exact (linked.known_of_member inside heard.1 heard.2).2.symm
  · rfl

end Heard

def front (s : SendSide) (r : RecvSide) : List Packet :=
  (dataPkts (toAddr r.addr s.out)).filter fun q => ∃ p ∈ dataPkts (fromAddr s.addr r.arrived), q.seqno ≤ p.seqno

section Front

variable (linked : Linked cfg s r)

include linked

theorem front_prefix : front s r <+: dataPkts (toAddr r.addr s.out) := by
  apply filter_prefix_of_pairwise
  apply (linked.numbered.sublist List.filter_sublist).imp
  rintro a b earlier ⟨p, arrived, le⟩
  exact ⟨p, arrived, earlier.le.trans le⟩

theorem arrived_front : (dataPkts (fromAddr s.addr r.arrived)).Subperm
    ((front s r).filter fun q => !q.isSingleReply) := by
  have sent : (dataPkts (fromAddr s.addr r.arrived)).Subperm
      ((dataPkts (toAddr r.addr s.out)).filter fun q => !q.isSingleReply) := by
    have sub := linked.arrived.filter Packet.isData
    unfold dataPkts
    rw [List.filter_comm]
    exact sub
  have here := subperm_filter (fun q => decide (∃ p ∈ dataPkts (fromAddr s.addr r.arrived), q.seqno ≤ p.seqno)) sent
    fun q inside => by simpa using ⟨q, inside, le_refl _⟩
  unfold front
  rw [List.filter_comm]
  exact here

/-- A message in front is known to the receiver, or is a reply in a single packet, which pays for itself. -/
theorem openedBy_le (told : Told s r) (inside : id ∈ s.msgs.keys) :
    (s.msgs.get id).openedBy (front s r) ≤
      (if id ∈ r.objs.keys then (s.msgs.get id).selfAllocCredit else 0) +
        wireSum (dataOf id ((front s r).filter Packet.isSingleReply)) := by
  have ok := linked.send.msg id inside
  have name := linked.send.names id inside
  have nonneg := ok.selfAlloc_nonneg
  have paid := wireSum_nonneg (dataOf id ((front s r).filter Packet.isSingleReply))
  unfold OutboundMsgState.openedBy
  rw [name]
  by_cases none : dataOf id (front s r) = []
  · rw [if_pos none]
    split <;> omega
  · obtain ⟨q, member⟩ := List.exists_mem_of_ne_nil _ none
    obtain ⟨inFront, data, of⟩ := mem_dataOf.mp member
    obtain ⟨sent, ahead⟩ := List.mem_filter.mp inFront
    obtain ⟨p, arrived, le⟩ := of_decide_eq_true ahead
    rw [if_neg none]
    by_cases known : id ∈ r.objs.keys
    · rw [if_pos known]
      omega
    · rw [if_neg known, zero_add]
      by_cases single : q.isSingleReply = true
      · have own : q ∈ dataOf (s.msgs.get id).reqId s.out := by
          rw [name]
          exact mem_dataOf.mpr ⟨(mem_toAddr.mp (mem_dataPkts.mp sent).1).1, data, of⟩
        have counted : [q].Subperm (dataOf id ((front s r).filter Packet.isSingleReply)) :=
          List.singleton_subperm_iff.mpr (mem_dataOf.mpr ⟨List.mem_filter.mpr ⟨inFront, single⟩, data, of⟩)
        have cost := wireSum_le_of_subperm counted
        rw [wireSum_singleton] at cost
        exact (ok.single_pays own single).trans cost
      · -- what was sent before data that arrived is known, if it credited itself something
        have multi : q.isSingleReply = false := by simpa using single
        have unsol := (linked.packet_of_sent (mem_dataPkts.mp sent).1).2.2
        rw [of] at unsol
        by_contra short
        refine known ?_
        rw [← of]
        rcases lt_or_eq_of_le le with earlier | same
        · exact told q sent multi (by omega) p arrived earlier
        · obtain ⟨there, isData⟩ := mem_dataPkts.mp arrived
          obtain ⟨come, origin⟩ := mem_fromAddr.mp there
          obtain ⟨left, -⟩ := linked.sent_of_arrived come origin
          have one : q = p := linked.seqno_injective (mem_dataPkts.mp sent).1 left same
          rw [one]
          exact (linked.recv.arrived p come).2.1

theorem owed_nonneg (told : Told s r) : 0 ≤ r.owed s.addr := by
  have owed := linked.recv.owed s.addr
  have covered := linked.covered r.addr _ linked.front_prefix
  have arrived := wireSum_le_of_subperm linked.arrived_front
  have split := wireSum_split Packet.isSingleReply (front s r)
  have granted := linked.grants
  have singles := total_dataOf_le s.msgs ((front s r).filter Packet.isSingleReply)
  have opened : s.toward r.addr (·.openedBy (front s r)) ≤
      r.ofSender s.addr (·.firstHeader.unsolCredit) + wireSum ((front s r).filter Packet.isSingleReply) := by
    rw [← linked.heard_eq]
    refine le_trans ?_ (add_le_add_right singles _)
    rw [← Store.total_add]
    apply Store.total_le_total
    intro id inside
    have paid := wireSum_nonneg (dataOf id ((front s r).filter Packet.isSingleReply))
    by_cases towards : (s.msgs.get id).remoteAddr = r.addr
    · have le := linked.openedBy_le told inside
      simpa only [towards, true_and, if_true] using le
    · rw [if_neg towards, if_neg fun both => towards both.1, zero_add]
      exact paid
  omega

end Front

end Linked

end PhantomPass
