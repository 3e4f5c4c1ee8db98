import PhantomPass.Credit.RecvInvariant
import PhantomPass.Hybrid.Rpc

/-! Counting the packets of a message. The first packet says how many there are,
wherever it arrives among them; the message is handed to the application with
the last one. -/

set_option autoImplicit false

namespace PhantomPass

open Lib (Store)

/-- pkt_id of a request does not count its first packet, that of a reply does. -/
def extraPkts (isRequest : Bool) : ℤ := if isRequest then 1 else 0

def Whole (isRequest : Bool) (pkts : List Packet) : Prop :=
  ∃ q ∈ pkts, (pkts.length : ℤ) = q.hdr.pktId + extraPkts isRequest

/-- What the application was handed of a message: nothing, or all of it once. -/
structure HandedOnce (isRequest : Bool) (id : UniqReqId) (pkts : List Packet) (handed : List (ℕ × RequestIdTuple)) :
    Prop where
  whole : Whole isRequest pkts → ∃ q ∈ pkts,
    handed.filter (fun e => e.2.uniqReqId == id) = [(payloadSum pkts, q.hdr.requestIdTuple)]
  part : ¬ Whole isRequest pkts → handed.filter (fun e => e.2.uniqReqId == id) = []

namespace Fits

variable {cfg : Config} {addr : Addr} {log out : List Packet} {p : Packet} {m : OutboundMsgState}

theorem dataHdr (fits : Fits cfg addr log p out m) {q : Packet} (inside : q ∈ dataOf m.reqId (log ++ [p])) :
    DataHdr p.src m q := fits.ok.data q (fits.data.subset inside)

theorem self_mem (fits : Fits cfg addr log p out m) (data : p.isData = true) : p ∈ dataOf m.reqId (log ++ [p]) :=
  mem_dataOf.mpr ⟨List.mem_append_right _ (List.mem_singleton_self p), data, fits.name⟩

theorem alike (fits : Fits cfg addr log p out m) (data : p.isData = true) {q : Packet}
    (inside : q ∈ dataOf m.reqId (log ++ [p])) :
    q.hdr.pktId = p.hdr.pktId ∧ q.hdr.requestIdTuple = p.hdr.requestIdTuple := by
  have here := fits.dataHdr (fits.self_mem data)
  have there := fits.dataHdr inside
  exact ⟨there.pktId.trans here.pktId.symm, there.tuple.trans here.tuple.symm⟩

theorem count_eq (fits : Fits cfg addr log p out m) (data : p.isData = true) :
    p.hdr.pktId + extraPkts m.isRequest = (ethernet.lens m.totalBytes).length := by
  have pktId := (fits.dataHdr (fits.self_mem data)).pktId
  have count := fits.ok.pktId
  unfold extraPkts
  split at count <;> rename_i request
  · rw [if_pos request]; omega
  · rw [if_neg request]; omega

theorem length_out_le (fits : Fits cfg addr log p out m) :
    (dataOf m.reqId out).length ≤ (ethernet.lens m.totalBytes).length := fits.ok.length_out_le

theorem length_le (fits : Fits cfg addr log p out m) (data : p.isData = true) :
    (dataOf m.reqId log).length + 1 ≤ (ethernet.lens m.totalBytes).length := by
  have := fits.data.length_le
  rw [dataOf_append_self data fits.name, List.length_append, List.length_singleton] at this
  exact le_trans this fits.length_out_le

theorem firsts_le (fits : Fits cfg addr log p out m) : (dataOf m.reqId (log ++ [p])).countP (·.hdr.first) ≤ 1 := by
  have := fits.data.countP_le (·.hdr.first)
  rw [fits.ok.firsts] at this
  split at this <;> omega

theorem first_of_all (fits : Fits cfg addr log p out m) (data : p.isData = true)
    (all : (dataOf m.reqId log).length + 1 = (ethernet.lens m.totalBytes).length) :
    ∃ q ∈ dataOf m.reqId (log ++ [p]), q.hdr.first = true := by
  have len : (dataOf m.reqId (log ++ [p])).length = (dataOf m.reqId log).length + 1 := by
    rw [dataOf_append_self data fits.name, List.length_append, List.length_singleton]
  have perm := fits.data.perm_of_length_le (by have := fits.length_out_le; omega)
  have count := perm.countP_eq (·.hdr.first)
  have some_packet : dataOf m.reqId out ≠ [] := fun none => by
    have := perm.length_eq
    rw [none, len] at this
    simp at this
  have sent : m.sentFirst = true := by
    by_contra quiet
    exact some_packet (fits.ok.sentFirst.mp (by simpa using quiet))
  rw [fits.ok.firsts, if_pos sent] at count
  exact List.countP_pos_iff.mp (by omega)

theorem not_whole (fits : Fits cfg addr log p out m) (data : p.isData = true) :
    ¬ Whole m.isRequest (dataOf m.reqId log) := by
  rintro ⟨q, inside, all⟩
  have alike := fits.alike data (q := q)
    (by rw [dataOf_append_self data fits.name]; exact List.mem_append_left _ inside)
  have count := fits.count_eq data
  have := fits.length_le data
  omega

theorem whole_iff (fits : Fits cfg addr log p out m) (data : p.isData = true) :
    Whole m.isRequest (dataOf m.reqId (log ++ [p])) ↔
      (dataOf m.reqId log).length + 1 = (ethernet.lens m.totalBytes).length := by
  have count := fits.count_eq data
  have len : (dataOf m.reqId (log ++ [p])).length = (dataOf m.reqId log).length + 1 := by
    rw [dataOf_append_self data fits.name, List.length_append, List.length_singleton]
  constructor
  · rintro ⟨q, inside, all⟩
    have := fits.alike data inside
    omega
  · intro all
    exact ⟨p, fits.self_mem data, by omega⟩

end Fits

/-- The counters of a message agree with its packets: how many and how many
bytes, and how many there will be, once the first one says so. -/
structure Counted (isRequest : Bool) (unset : ℤ) (recvd : ℤ) (bytes : ℕ) (total : ℤ) (pkts : List Packet) : Prop where
  recvd : recvd = pkts.length
  bytes : bytes = payloadSum pkts
  total : (total = unset ∧ ∀ q ∈ pkts, q.hdr.first = false) ∨
    ∃ q ∈ pkts, q.hdr.first = true ∧ total = q.hdr.pktId + extraPkts isRequest

namespace Counted

variable {isRequest : Bool} {unset recvd total : ℤ} {bytes : ℕ} {pkts : List Packet}

theorem nil : Counted isRequest unset 0 0 unset [] := ⟨rfl, rfl, Or.inl ⟨rfl, by simp⟩⟩

theorem append (counted : Counted isRequest unset recvd bytes total pkts) (p : Packet) :
    Counted isRequest unset (recvd + 1) (bytes + p.payload)
      (if p.hdr.first then p.hdr.pktId + extraPkts isRequest else total) (pkts ++ [p]) where
  recvd := by rw [counted.recvd, List.length_append, List.length_singleton]; push_cast; rfl
  bytes := by rw [counted.bytes, payloadSum_append, payloadSum_singleton]
  total := by
    cases first : p.hdr.first with
    | true => exact Or.inr ⟨p, List.mem_append_right _ (List.mem_singleton_self p), first, if_pos rfl⟩
    | false =>
      rw [if_neg (by decide)]
      rcases counted.total with ⟨same, none⟩ | ⟨q, inside, here, same⟩
      · refine Or.inl ⟨same, fun q member => ?_⟩
        rcases List.mem_append.mp member with old | new
        · exact none q old
        · rw [List.mem_singleton.mp new]; exact first
      · exact Or.inr ⟨q, List.mem_append_left _ inside, here, same⟩

variable {cfg : Config} {addr : Addr} {log out : List Packet} {p : Packet} {m : OutboundMsgState}

theorem whole_iff (counted : Counted isRequest unset recvd bytes total (dataOf m.reqId (log ++ [p])))
    (fits : Fits cfg addr log p out m) (data : p.isData = true) (kind : m.isRequest = isRequest) (low : unset ≤ 0) :
    total ≠ unset ∧ total = recvd ↔ Whole isRequest (dataOf m.reqId (log ++ [p])) := by
  subst kind
  have count := fits.count_eq data
  have le := fits.length_le data
  constructor
  · rintro ⟨set, reached⟩
    rcases counted.total with ⟨same, -⟩ | ⟨q, inside, -, same⟩
    · exact absurd same set
    · exact ⟨q, inside, by rw [← counted.recvd, ← reached, same]⟩
  · intro whole
    have all := (fits.whole_iff data).mp whole
    obtain ⟨q, inside, first⟩ := fits.first_of_all data all
    have recvd := counted.recvd
    rw [dataOf_append_self data fits.name, List.length_append, List.length_singleton] at recvd
    rcases counted.total with ⟨-, none⟩ | ⟨q', inside', -, same⟩
    · rw [none q inside] at first; exact absurd first (by decide)
    · have alike := fits.alike data inside'
      constructor <;> omega

theorem unset_of_first (counted : Counted isRequest unset recvd bytes total (dataOf m.reqId log))
    (fits : Fits cfg addr log p out m) (data : p.isData = true) (first : p.hdr.first = true) : total = unset := by
  rcases counted.total with ⟨same, -⟩ | ⟨q, inside, here, -⟩
  · exact same
  · have one := fits.firsts_le
    rw [dataOf_append_self data fits.name, List.countP_append] at one
    have before : 0 < (dataOf m.reqId log).countP (·.hdr.first) := List.countP_pos_iff.mpr ⟨q, inside, here⟩
    have now : [p].countP (·.hdr.first) = 1 := by simp [first]
    omega

end Counted

namespace HandedOnce

variable {isRequest : Bool} {id : UniqReqId} {pkts : List Packet} {handed : List (ℕ × RequestIdTuple)}

theorem nil : HandedOnce isRequest id [] [] where
  whole := fun ⟨_, inside, _⟩ => by simp at inside
  part _ := rfl

theorem whole_of_mem (once : HandedOnce isRequest id pkts handed) {e : ℕ × RequestIdTuple} (inside : e ∈ handed)
    (of : e.2.uniqReqId = id) : Whole isRequest pkts := by
  by_contra part
  have := once.part part
  rw [List.filter_eq_nil_iff] at this
  exact this e inside (by simpa using of)

theorem unique (once : HandedOnce isRequest id pkts handed) {e e' : ℕ × RequestIdTuple} (inside : e ∈ handed)
    (inside' : e' ∈ handed) (of : e.2.uniqReqId = id) (of' : e'.2.uniqReqId = id) : e = e' := by
  obtain ⟨q, -, only⟩ := once.whole (once.whole_of_mem inside of)
  have member : ∀ e ∈ handed, e.2.uniqReqId = id → e = (payloadSum pkts, q.hdr.requestIdTuple) := by
    intro e inside of
    have : e ∈ handed.filter fun e => e.2.uniqReqId == id := List.mem_filter.mpr ⟨inside, by simpa using of⟩
    rw [only] at this
    exact List.mem_singleton.mp this
  rw [member e inside of, member e' inside' of']

theorem append_other (once : HandedOnce isRequest id pkts handed) {e : ℕ × RequestIdTuple}
    (other : e.2.uniqReqId ≠ id) : HandedOnce isRequest id pkts (handed ++ [e]) := by
  have same : (handed ++ [e]).filter (fun e => e.2.uniqReqId == id) = handed.filter fun e => e.2.uniqReqId == id := by
    simp [other]
  exact ⟨by rw [same]; exact once.whole, by rw [same]; exact once.part⟩

theorem complete (once : HandedOnce isRequest id pkts handed) (part : ¬ Whole isRequest pkts) {p : Packet}
    (whole : Whole isRequest (pkts ++ [p])) (of : p.hdr.requestIdTuple.uniqReqId = id) :
    HandedOnce isRequest id (pkts ++ [p]) (handed ++ [(payloadSum (pkts ++ [p]), p.hdr.requestIdTuple)]) where
  whole _ := by
    refine ⟨p, List.mem_append_right _ (List.mem_singleton_self p), ?_⟩
    rw [List.filter_append, once.part part]
    simp [of]
  part h := absurd whole h

theorem wait (once : HandedOnce isRequest id pkts handed) (part : ¬ Whole isRequest pkts) {p : Packet}
    (still : ¬ Whole isRequest (pkts ++ [p])) : HandedOnce isRequest id (pkts ++ [p]) handed where
  whole h := absurd h still
  part _ := once.part part

end HandedOnce

end PhantomPass
