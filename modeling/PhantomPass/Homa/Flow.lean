import PhantomPass.Homa.Inbound

/-! One message on its way: what its outstanding packets add up to, and what the
receiver's record of it says about them. Sending a packet only moves it; a grant, its
answer and an arrival each change both sides alike. -/

set_option autoImplicit false

namespace PhantomPass.Homa

open Lib (Ordered)

namespace Hdr

variable (p : Hdr)

def bytes : ℕ := if p.pktType = .grant then p.grantFields.grantBytes else p.getDataBytes

def wire : ℕ := getBytesOnWire p.bytes (if p.pktType = .grant then .schedData else p.pktType)

def free : ℕ := if p.pktType = .request ∨ p.pktType = .unschedData then p.bytes else 0

def allowance : ℕ := if p.pktType = .grant then p.bytes else 0

def granted : List (ℕ × ℕ) :=
  match p.pktType with
  | .grant => [(p.grantFields.offset, p.bytes)]
  | .schedData => [(p.schedDataFields.firstByte, p.bytes)]
  | .request | .unschedData => []

structure Of (msg : AppMessage) (id total : ℕ) : Prop where
  msgId : p.msgId = id
  pos : 0 < p.bytes
  fits : p.bytes ≤ (if p.pktType = .grant then PktType.schedData else p.pktType).maxData
  data : p.IsData → p.srcAddr = msg.srcAddr ∧ p.destAddr = msg.destAddr ∧ p.msgType = msg.msgType ∧
    p.msgCreationTime = msg.msgCreationTime
  grant : p.pktType = .grant → p.srcAddr = msg.destAddr ∧ p.destAddr = msg.srcAddr
  unsched : p.pktType = .request ∨ p.pktType = .unschedData → p.reqId = msg.reqId ∧ p.appLevelId = msg.appLevelId ∧
    p.clientThreadId = msg.clientThreadId ∧ p.serverThreadId = msg.serverThreadId ∧
    p.unschedFields.msgByteLen = msg.byteLength ∧ p.unschedFields.totalUnschedBytes = total
  behind : ∀ g ∈ p.granted, total ≤ g.1

end Hdr

namespace InboundMessage

def fresh (msg : AppMessage) (id total : ℕ) (now : Time) : InboundMessage where
  msgType := msg.msgType
  reqId := msg.reqId
  appLevelId := msg.appLevelId
  clientThreadId := msg.clientThreadId
  serverThreadId := msg.serverThreadId
  srcAddr := msg.srcAddr
  destAddr := msg.destAddr
  msgIdAtSender := id
  bytesToGrant := msg.byteLength - total
  offset := total
  totalBytesInFlight := getBytesOnWire total .unschedData
  bytesToReceive := msg.byteLength
  msgSize := msg.byteLength
  totalUnschedBytes := total
  msgCreationTime := msg.msgCreationTime
  reqArrivalTime := now
  lastGrantTime := now
  inflightGrants := [(0, total)]

def fixed (m : InboundMessage) : InboundMessage :=
  { m with
    bytesToGrant := 0
    offset := 0
    totalBytesInFlight := 0
    bytesToReceive := 0
    reqArrivalTime := 0
    lastGrantTime := 0
    inflightGrants := [] }

def without (m : InboundMessage) (p : Hdr) (inflightGrants : List (ℕ × ℕ)) : InboundMessage :=
  { m with
    bytesToReceive := m.bytesToReceive - p.bytes
    totalBytesInFlight := m.totalBytesInFlight - p.wire
    inflightGrants }

end InboundMessage

def grantZero (free : ℕ) : List (ℕ × ℕ) := if free = 0 then [] else [(0, free)]

/-- The record of a message fits its outstanding packets, and what the sender has not
scheduled yet is either not granted or on its way as a grant. -/
structure Balanced (msg : AppMessage) (id total : ℕ) (m : InboundMessage) (toSched : ℕ) (bag : List Hdr) : Prop where
  some_ : 0 < total
  fixed : m.fixed = (InboundMessage.fresh msg id total 0).fixed
  packets : ∀ p ∈ bag, p.Of msg id total
  offset : m.offset + m.bytesToGrant = m.msgSize
  behind : total ≤ m.offset
  receive : m.bytesToReceive = m.bytesToGrant + (bag.map Hdr.bytes).sum
  wire : m.totalBytesInFlight = (bag.map Hdr.wire).sum
  sched : toSched = m.bytesToGrant + (bag.map Hdr.allowance).sum
  inflight : ∃ grants, m.inflightGrants = grantZero (bag.map Hdr.free).sum ++ grants ∧
    grants.Perm (bag.flatMap Hdr.granted) ∧ Ordered Prod.fst grants ∧ ∀ g ∈ grants, g.1 < m.offset

namespace Balanced

variable {msg : AppMessage} {id total toSched : ℕ} {m : InboundMessage} {bag rest : List Hdr} {p : Hdr}
    {now later : Time}

theorem perm (ok : Balanced msg id total m toSched bag) (same : bag.Perm rest) :
    Balanced msg id total m toSched rest := by
  obtain ⟨grants, inflight, answers, ordered, before⟩ := ok.inflight
  refine { ok with
    packets := fun p inside => ok.packets p (same.mem_iff.mpr inside)
    receive := ok.receive.trans (by rw [(same.map Hdr.bytes).sum_eq])
    wire := ok.wire.trans (same.map Hdr.wire).sum_eq
    sched := ok.sched.trans (by rw [(same.map Hdr.allowance).sum_eq])
    inflight := ⟨grants, ?_, answers.trans (same.flatMap_right _), ordered, before⟩ }
  rw [inflight, (same.map Hdr.free).sum_eq]

theorem received_bytes (data : p.IsData) : p.bytes = p.getDataBytes := if_neg data

theorem allowance_of_data (data : p.IsData) : p.allowance = 0 := if_neg data

theorem fillinUnsched_eq (ok : Balanced msg id total m toSched (p :: rest))
    (unsched : p.pktType = .request ∨ p.pktType = .unschedData) :
    ∃ grants, m.fillinUnsched p.bytes = .ok (grantZero (rest.map Hdr.free).sum ++ grants) ∧
      grants.Perm (rest.flatMap Hdr.granted) ∧ Ordered Prod.fst grants ∧ ∀ g ∈ grants, g.1 < m.offset := by
  obtain ⟨grants, inflight, answers, ordered, before⟩ := ok.inflight
  have pos := (ok.packets p List.mem_cons_self).pos
  have free : p.free = p.bytes := if_pos unsched
  have none : p.granted = [] := by
    unfold Hdr.granted
    rcases unsched with type | type <;> rw [type]
  rw [List.flatMap_cons, none, List.nil_append] at answers
  rw [List.map_cons, List.sum_cons, free, grantZero, if_neg (by omega)] at inflight
  refine ⟨grants, ?_, answers, ordered, before⟩
  have left : p.bytes + (rest.map Hdr.free).sum - p.bytes = (rest.map Hdr.free).sum := by omega
  have fits : p.bytes ≤ p.bytes + (rest.map Hdr.free).sum := by omega
  unfold InboundMessage.fillinUnsched
  rw [inflight]
  dsimp only [List.cons_append, List.nil_append]
  rw [assert, Lib.require_true _ rfl, assert, Lib.require_true _ fits, left]
  unfold grantZero
  split <;> rfl

theorem fillinSched_eq (ok : Balanced msg id total m toSched (p :: rest)) (sched : p.pktType = .schedData) :
    ∃ grants, m.fillinSched p.schedDataFields.firstByte p.bytes = .ok (grantZero (rest.map Hdr.free).sum ++ grants) ∧
      grants.Perm (rest.flatMap Hdr.granted) ∧ Ordered Prod.fst grants ∧ ∀ g ∈ grants, g.1 < m.offset := by
  obtain ⟨grants, inflight, answers, ordered, before⟩ := ok.inflight
  have of := ok.packets p List.mem_cons_self
  have pos := of.pos
  have free : p.free = 0 := if_neg (by simp [sched])
  have granted : p.granted = [(p.schedDataFields.firstByte, p.bytes)] := by
    unfold Hdr.granted
    rw [sched]
  have behind := of.behind (p.schedDataFields.firstByte, p.bytes) (by simp [granted])
  have here : (p.schedDataFields.firstByte, p.bytes) ∈ grants := answers.mem_iff.mpr (by simp [granted])
  rw [List.flatMap_cons, granted] at answers
  rw [List.map_cons, List.sum_cons, free, Nat.zero_add] at inflight
  have skipped : ∀ g ∈ grantZero (rest.map Hdr.free).sum, ¬ (g.1 = p.schedDataFields.firstByte) := by
    intro g first
    unfold grantZero at first
    have some_ := ok.some_
    split at first
    · cases first
    · rw [List.mem_singleton.mp first]
      simp only at behind ⊢
      omega
  have found : m.inflightGrants.find? (fun grant => grant.1 = p.schedDataFields.firstByte) =
      some (p.schedDataFields.firstByte, p.bytes) := by
    rw [inflight, List.find?_append, List.find?_eq_none.mpr (by simpa using skipped), Option.none_or]
    exact ordered.find here (by simp)
  refine ⟨grants.eraseP fun grant => grant.1 = p.schedDataFields.firstByte, ?_, ?_, ordered.sublist List.eraseP_sublist,
    fun g inside => before g (List.mem_of_mem_eraseP inside)⟩
  · unfold InboundMessage.fillinSched
    rw [assert, Lib.require_true _ pos, found]
    dsimp only
    rw [assert, Lib.require_true _ rfl, inflight, List.eraseP_append_right _ (by simpa using skipped)]
    rfl
  · exact (List.perm_cons _).mp ((ordered.eraseP_perm here (by simp)).trans answers)

theorem fillinRxBytes_eq {byteStart byteEnd : ℕ} {grants : List (ℕ × ℕ)}
    (ok : Balanced msg id total m toSched (p :: rest)) (data : p.IsData)
    (len : (sub32 byteEnd byteStart + 1) % 2 ^ 32 = p.bytes)
    (fills : m.fillinGrants byteStart p.bytes p.pktType = .ok grants) :
    m.fillinRxBytes byteStart byteEnd p.pktType = .ok (m.without p grants) := by
  have receive := ok.receive
  have wire := ok.wire
  rw [List.map_cons, List.sum_cons] at receive wire
  have onWire : getBytesOnWire p.bytes p.pktType = p.wire := by
    unfold Hdr.wire
    rw [if_neg data]
  unfold InboundMessage.fillinRxBytes
  dsimp only
  rw [len, fills, Lib.ok_bind, onWire, sub32_of_le (by omega), sub32_of_le (by omega)]
  rfl

theorem arrive (ok : Balanced msg id total m toSched (p :: rest)) (data : p.IsData) :
    ∃ grants, m.fillin p = .ok (m.without p grants) ∧ Balanced msg id total (m.without p grants) toSched rest := by
  have balanced : ∀ grants, (∃ later, grants = grantZero (rest.map Hdr.free).sum ++ later ∧
      later.Perm (rest.flatMap Hdr.granted) ∧ Ordered Prod.fst later ∧ ∀ g ∈ later, g.1 < m.offset) →
      Balanced msg id total (m.without p grants) toSched rest := by
    intro grants inflight
    have receive := ok.receive
    have wire := ok.wire
    have sched := ok.sched
    rw [List.map_cons, List.sum_cons] at receive wire sched
    rw [allowance_of_data data, Nat.zero_add] at sched
    exact { ok with
      packets := fun q inside => ok.packets q (List.mem_cons_of_mem _ inside)
      receive := by simp only [InboundMessage.without]; omega
      wire := by simp only [InboundMessage.without]; omega
      sched
      inflight }
  have len := received_bytes data
  have unsched : p.pktType = .request ∨ p.pktType = .unschedData → ∃ grants,
      m.fillinUnsched p.bytes = .ok grants ∧ Balanced msg id total (m.without p grants) toSched rest := by
    intro type
    obtain ⟨later, filled, fits⟩ := ok.fillinUnsched_eq type
    exact ⟨_, filled, balanced _ ⟨later, rfl, fits⟩⟩
  unfold Hdr.getDataBytes at len
  have fill (start stop : ℕ) (grants : List (ℕ × ℕ)) (len : (sub32 stop start + 1) % 2 ^ 32 = p.bytes)
      (fills : m.fillinGrants start p.bytes p.pktType = .ok grants) := ok.fillinRxBytes_eq data len fills
  unfold InboundMessage.fillin
  cases type : p.pktType with
  | request =>
    obtain ⟨grants, filled, fits⟩ := unsched (.inl type)
    simp only [type] at len fill
    exact ⟨grants, fill _ _ _ len.symm filled, fits⟩
  | unschedData =>
    obtain ⟨grants, filled, fits⟩ := unsched (.inr type)
    simp only [type] at len fill
    exact ⟨grants, fill _ _ _ len.symm filled, fits⟩
  | schedData =>
    obtain ⟨later, filled, fits⟩ := ok.fillinSched_eq type
    simp only [type] at len fill
    exact ⟨_, fill _ _ _ len.symm filled, balanced _ ⟨later, rfl, fits⟩⟩
  | grant => exact absurd type data

theorem grant (now : Time) (prio : ℕ) {n : ℕ} (ok : Balanced msg id total m toSched bag) (pos : 0 < n)
    (some_ : n ≤ m.bytesToGrant) (fits : n ≤ PktType.schedData.maxData) :
    Balanced msg id total (m.granted now n) toSched (m.grantPkt now n prio :: bag) := by
  obtain ⟨grants, inflight, answers, ordered, before⟩ := ok.inflight
  have offset := ok.offset
  have behind := ok.behind
  have fixed := ok.fixed
  have left : (m.granted now n).bytesToGrant = m.bytesToGrant - n := sub32_of_le some_
  have source : m.srcAddr = msg.srcAddr := congrArg InboundMessage.srcAddr fixed
  have dest : m.destAddr = msg.destAddr := congrArg InboundMessage.destAddr fixed
  have id_ : m.msgIdAtSender = id := congrArg InboundMessage.msgIdAtSender fixed
  exact {
    some_ := ok.some_
    fixed
    packets := by
      refine List.forall_mem_cons.mpr ⟨?_, ok.packets⟩
      exact {
        msgId := id_
        pos
        fits
        data := fun data => absurd rfl data
        grant := fun _ => ⟨dest, source⟩
        unsched := fun type => by rcases type with type | type <;> cases type
        behind := fun g same => by rw [List.mem_singleton.mp same]; exact behind }
    offset := by
      rw [left]
      simp only [InboundMessage.granted]
      omega
    behind := le_trans behind (Nat.le_add_right _ _)
    receive := by
      rw [left, List.map_cons, List.sum_cons]
      have receive := ok.receive
      have bytes : (m.grantPkt now n prio).bytes = n := rfl
      simp only [InboundMessage.granted]
      omega
    wire := by
      rw [List.map_cons, List.sum_cons, ← ok.wire, Nat.add_comm]
      rfl
    sched := by
      rw [left, List.map_cons, List.sum_cons]
      have sched := ok.sched
      have allowance : (m.grantPkt now n prio).allowance = n := rfl
      omega
    inflight := by
      refine ⟨grants ++ [(m.offset, n)], ?_, ?_, ?_, ?_⟩
      · have free : (m.grantPkt now n prio).free = 0 := rfl
        rw [List.map_cons, List.sum_cons, free, Nat.zero_add, ← List.append_assoc, ← inflight]
        rfl
      · exact List.perm_append_comm.trans (answers.cons _)
      · refine List.pairwise_append.mpr ⟨ordered, List.pairwise_singleton _ _, fun g left g' right => ?_⟩
        rw [List.mem_singleton.mp right]
        exact before g left
      · intro g inside
        rcases List.mem_append.mp inside with old | new
        · exact lt_of_lt_of_le (before g old) (Nat.le_add_right _ _)
        · rw [List.mem_singleton.mp new]
          exact Nat.lt_add_of_pos_right pos }

theorem answer {q : Hdr} (ok : Balanced msg id total m toSched (p :: rest)) (type : p.pktType = .grant)
    (of : q.Of msg id total) (data : q.pktType = .schedData) (bytes : q.bytes = p.bytes)
    (first : q.schedDataFields.firstByte = p.grantFields.offset) :
    p.bytes ≤ toSched ∧ Balanced msg id total m (toSched - p.bytes) (q :: rest) := by
  obtain ⟨grants, inflight, answers, ordered, before⟩ := ok.inflight
  have wire : q.wire = p.wire := by
    unfold Hdr.wire
    rw [bytes, data, type]
    rfl
  have free : q.free = 0 ∧ p.free = 0 := ⟨if_neg (by simp [data]), if_neg (by simp [type])⟩
  have allowance : q.allowance = 0 ∧ p.allowance = p.bytes := ⟨if_neg (by simp [data]), if_pos type⟩
  have granted : q.granted = p.granted := by
    unfold Hdr.granted
    rw [data, type, bytes, first]
  have sched := ok.sched
  rw [List.map_cons, List.sum_cons, allowance.2] at sched
  refine ⟨by omega, { ok with
    packets := ?_, receive := ?_, wire := ?_, sched := ?_, inflight := ⟨grants, ?_, ?_, ordered, before⟩ }⟩
  · exact List.forall_mem_cons.mpr ⟨of, fun p inside => ok.packets p (List.mem_cons_of_mem _ inside)⟩
  · rw [ok.receive, List.map_cons, List.map_cons, List.sum_cons, List.sum_cons, bytes]
  · rw [ok.wire, List.map_cons, List.map_cons, List.sum_cons, List.sum_cons, wire]
  · rw [List.map_cons, List.sum_cons, allowance.1]
    omega
  · rw [inflight, List.map_cons, List.map_cons, List.sum_cons, List.sum_cons, free.1, free.2]
  · rwa [List.flatMap_cons, granted, ← List.flatMap_cons]

theorem complete (ok : Balanced msg id total m toSched bag) (all : m.bytesToReceive = 0) :
    bag = [] ∧ m.bytesToGrant = 0 ∧ m.inflightGrants = [] ∧ toSched = 0 := by
  have receive := ok.receive
  have empty : bag = [] := by
    cases bag with
    | nil => rfl
    | cons p rest =>
      have pos := (ok.packets p List.mem_cons_self).pos
      rw [List.map_cons, List.sum_cons] at receive
      omega
  subst empty
  obtain ⟨grants, inflight, answers, -⟩ := ok.inflight
  have sched := ok.sched
  rw [List.perm_nil.mp answers] at inflight
  simp only [List.map_nil, List.sum_nil, Nat.add_zero] at receive sched
  exact ⟨rfl, by omega, inflight, by omega⟩

theorem start (now : Time) (some_ : 0 < total) (le : total ≤ msg.byteLength) (packets : ∀ p ∈ bag, p.Of msg id total)
    (unsched : ∀ p ∈ bag, p.pktType = .request ∨ p.pktType = .unschedData) (bytes : (bag.map Hdr.bytes).sum = total)
    (wire : (bag.map Hdr.wire).sum = getBytesOnWire total .unschedData) :
    Balanced msg id total (.fresh msg id total now) (msg.byteLength - total) bag := by
  have free : bag.map Hdr.free = bag.map Hdr.bytes := List.map_congr_left fun p inside => if_pos (unsched p inside)
  have allowance : bag.map Hdr.allowance = bag.map fun _ => 0 :=
    List.map_congr_left fun p inside => if_neg fun grant => by
    rcases unsched p inside with type | type <;> simp [type] at grant
  have granted : bag.flatMap Hdr.granted = [] := List.flatMap_eq_nil_iff.mpr fun p inside => by
    unfold Hdr.granted
    rcases unsched p inside with type | type <;> rw [type]
  exact {
    some_
    fixed := rfl
    packets
    offset := Nat.add_sub_cancel' le
    behind := le_refl _
    receive := by
      rw [bytes]
      exact (Nat.sub_add_cancel le).symm
    wire := wire.symm
    sched := by
      rw [allowance]
      simp [InboundMessage.fresh]
    inflight := by
      refine ⟨[], ?_, by rw [granted], List.Pairwise.nil, by simp⟩
      rw [free, bytes, grantZero, if_neg some_.ne']
      rfl }

theorem unsched (ok : Balanced msg id total (.fresh msg id total now) toSched bag) :
    ∀ p ∈ bag, p.pktType = .request ∨ p.pktType = .unschedData := by
  obtain ⟨grants, inflight, answers, -⟩ := ok.inflight
  have some_ := ok.some_
  have none : grants = [] := by
    cases grants with
    | nil => rfl
    | cons g rest =>
      obtain ⟨p, inside, granted⟩ := List.mem_flatMap.mp (answers.mem_iff.mp List.mem_cons_self)
      have behind := (ok.packets p inside).behind g granted
      unfold grantZero at inflight
      split at inflight
      · injection inflight with same
        rw [← same] at behind
        exact absurd behind (Nat.not_le_of_lt some_)
      · injection inflight with _ rest'
        cases rest'
  rw [none, List.nil_perm, List.flatMap_eq_nil_iff] at answers
  intro p inside
  have nothing := answers p inside
  unfold Hdr.granted at nothing
  cases type : p.pktType with
  | request => exact .inl rfl
  | unschedData => exact .inr rfl
  | schedData => simp [type] at nothing
  | grant => simp [type] at nothing

theorem rebase (ok : Balanced msg id total (.fresh msg id total now) toSched bag) :
    Balanced msg id total (.fresh msg id total later) toSched bag :=
  ⟨ok.some_, ok.fixed, ok.packets, ok.offset, ok.behind, ok.receive, ok.wire, ok.sched, ok.inflight⟩

theorem toSched_fresh (ok : Balanced msg id total (.fresh msg id total now) toSched bag) :
    toSched = msg.byteLength - total := by
  have none : bag.map Hdr.allowance = bag.map fun _ => 0 := List.map_congr_left fun p inside => if_neg fun grant => by
    rcases ok.unsched p inside with type | type <;> simp [type] at grant
  have sched := ok.sched
  rw [none] at sched
  simpa [InboundMessage.fresh] using sched

end Balanced

variable {x : Params} {now : Time}

def unschedTotal (x : Params) (msgSize : ℕ) : ℕ := min msgSize (maxReqPktDataBytes + x.defaultUnschedBytes)

theorem unschedPktsData_eq {rounds n : ℕ} (enough : n ≤ rounds) : unschedPktsData rounds n =
    PktType.unschedData.framing.lens n := by
  -- a full packet a round, and the rest in the last
  induction rounds generalizing n with
  | zero =>
    rw [Nat.le_zero.mp enough]
    rfl
  | succ rounds ih =>
    unfold unschedPktsData
    by_cases none : n = 0
    · rw [if_pos none, none]
      rfl
    · have pos : 0 < n := Nat.pos_of_ne_zero none
      have mss : PktType.unschedData.framing.mss = maxUnschedPktDataBytes := rfl
      have some_ : 0 < maxUnschedPktDataBytes := by decide
      rw [if_neg none, ih (by omega), PktType.unschedData.framing.lens_of_pos pos, mss, Nat.min_comm]

theorem getReqUnschedDataPkts_eq {msgSize : ℕ} (full : x.defaultReqBytes = maxReqPktDataBytes) (pos : 0 < msgSize) :
    getReqUnschedDataPkts x msgSize = .ok (PktType.unschedData.framing.lens (unschedTotal x msgSize)) := by
  have mss : PktType.unschedData.framing.mss = maxReqPktDataBytes := rfl
  have some_ : 0 < maxReqPktDataBytes := by decide
  have req : getReqDataBytes x msgSize = .ok (min maxReqPktDataBytes msgSize) := by
    unfold getReqDataBytes
    rw [Lib.require_true _ full.le, full]
    rfl
  have unsched : getUnschedBytes x msgSize = .ok (unschedTotal x msgSize - min maxReqPktDataBytes msgSize) := by
    unfold getUnschedBytes unschedTotal
    rw [req, Lib.ok_bind]
    by_cases whole : msgSize ≤ maxReqPktDataBytes
    · rw [if_pos (le_min whole (le_refl _))]
      refine congrArg Except.ok ?_
      omega
    · rw [if_neg (by omega)]
      refine congrArg Except.ok ?_
      omega
  have total : 0 < unschedTotal x msgSize := by
    unfold unschedTotal
    omega
  have front : min maxReqPktDataBytes (unschedTotal x msgSize) = min maxReqPktDataBytes msgSize := by
    unfold unschedTotal
    omega
  unfold getReqUnschedDataPkts
  rw [req, Lib.ok_bind, unsched, Lib.ok_bind, unschedPktsData_eq (le_refl _),
    PktType.unschedData.framing.lens_of_pos total, mss, front]
  rfl

theorem getUnschedPktsPrio_goes {msgSize : ℕ} {pkts : List ℕ} (fits : pkts.sum ≤ msgSize) :
    ∃ prios, getUnschedPktsPrio x msgSize pkts = .ok prios ∧ prios.length = pkts.length := by
  induction pkts generalizing msgSize with
  | nil => exact ⟨[], rfl, rfl⟩
  | cons pkt pkts ih =>
    rw [List.sum_cons] at fits
    obtain ⟨prios, later, length⟩ := ih (show pkts.sum ≤ msgSize - pkt by omega)
    refine ⟨getMesgPrio x msgSize :: prios, ?_, by simp [length]⟩
    unfold getUnschedPktsPrio
    rw [assert, Lib.require_true _ (by omega), Lib.ok_bind, later]
    rfl

theorem sendmsg_eq {p : Hdr} (created : 0 < p.msgCreationTime) (fits : p.getDataBytes ≤ p.pktType.maxData) :
    sendmsg p = .ok [p] := by
  have some_ : 1 < p.pktType.maxData := by cases p.pktType <;> decide
  have small : p.pktType.maxData < 1500 := by cases p.pktType <;> decide
  unfold sendmsg
  rw [assert, Lib.require_true _ created, Lib.ok_bind]
  dsimp only
  rw [assert, Lib.require_true _ (lt_of_le_of_lt fits small), Lib.ok_bind]
  refine congrArg Except.ok ?_
  rcases fits.lt_or_eq with less | full
  · rw [Nat.div_eq_of_lt less]
    by_cases none : p.getDataBytes = 0
    · rw [if_pos none, Nat.mod_eq_of_lt some_]
      rfl
    · rw [if_neg none, Nat.mod_eq_of_lt less, if_pos (Nat.pos_of_ne_zero none)]
      rfl
  · have pos : ¬ p.pktType.maxData = 0 := by omega
    rw [full, Nat.div_self (by omega), if_neg pos, Nat.mod_self]
    rfl

theorem sub32_range (first : ℕ) {len : ℕ} (pos : 0 < len) (small : len < 2 ^ 32) :
    (sub32 (sub32 (first + len) 1) first + 1) % 2 ^ 32 = len := by
  rw [sub32_of_le (a := first + len) (by omega), sub32_of_le (by omega)]
  omega

theorem foldl_place_perm {α K : Type} [LinearOrder K] (key : α → K) (items queue : List α) :
    (items.foldl (fun queue p => Lib.place key p queue) queue).Perm (queue ++ items) := by
  induction items generalizing queue with
  | nil => rw [List.foldl_nil, List.append_nil]
  | cons p items ih =>
    rw [List.foldl_cons]
    refine (ih _).trans (((Lib.place_perm key p queue).append_right items).trans ?_)
    exact List.perm_middle.symm

theorem foldl_sub32 {items : List Hdr} {left : ℕ} (fits : (items.map Hdr.getDataBytes).sum ≤ left) :
    items.foldl (fun left p => sub32 left p.getDataBytes) left = left - (items.map Hdr.getDataBytes).sum := by
  induction items generalizing left with
  | nil => rfl
  | cons p items ih =>
    rw [List.map_cons, List.sum_cons] at fits ⊢
    rw [List.foldl_cons, sub32_of_le (by omega), ih (by omega)]
    omega

namespace OutboundMessage

variable {o : OutboundMessage} {msg : AppMessage} {id total : ℕ}

structure Sends (o : OutboundMessage) (msg : AppMessage) (id : ℕ) : Prop where
  msgType : o.msgType = msg.msgType
  reqId : o.reqId = msg.reqId
  appLevelId : o.appLevelId = msg.appLevelId
  clientThreadId : o.clientThreadId = msg.clientThreadId
  serverThreadId : o.serverThreadId = msg.serverThreadId
  msgId : o.msgId = id
  msgSize : o.msgSize = msg.byteLength
  destAddr : o.destAddr = msg.destAddr
  srcAddr : o.srcAddr = msg.srcAddr
  msgCreationTime : o.msgCreationTime = msg.msgCreationTime

theorem Sends.unschedPkt (sends : o.Sends msg id) (now : Time) (total priority first : ℕ) {pktType : PktType}
    (type : pktType = .request ∨ pktType = .unschedData) {len : ℕ} (pos : 0 < len)
    (fits : len ≤ PktType.unschedData.maxData) :
    (o.unschedPkt now pktType priority total first len).Of msg id total ∧
      (o.unschedPkt now pktType priority total first len).bytes = len ∧
      (o.unschedPkt now pktType priority total first len).wire = PktType.unschedData.framing.cost len := by
  have small : PktType.unschedData.maxData < 2 ^ 32 := by decide
  have len_ := sub32_range first pos (lt_of_le_of_lt fits small)
  have bytes : (o.unschedPkt now pktType priority total first len).bytes = len := by
    rcases type with rfl | rfl <;> exact len_
  have noGrant : pktType ≠ .grant := by rcases type with rfl | rfl <;> simp
  have same : pktType.maxData = PktType.unschedData.maxData := by rcases type with rfl | rfl <;> rfl
  refine ⟨?_, bytes, ?_⟩
  · exact {
      msgId := sends.msgId
      pos := by rwa [bytes]
      fits := by
        rw [bytes]
        rcases type with rfl | rfl <;> exact fits
      data := fun _ => ⟨sends.srcAddr, sends.destAddr, sends.msgType, sends.msgCreationTime⟩
      grant := fun grant => absurd grant noGrant
      unsched := fun _ => ⟨sends.reqId, sends.appLevelId, sends.clientThreadId, sends.serverThreadId,
        sends.msgSize, rfl⟩
      behind := by rcases type with rfl | rfl <;> exact fun g none => absurd none List.not_mem_nil }
  · unfold Hdr.wire
    rw [bytes]
    rcases type with rfl | rfl <;> exact getBytesOnWire_single fits

theorem Sends.unschedPkts (sends : o.Sends msg id) (now : Time) (total first : ℕ) {pktType : PktType}
    (type : pktType = .request ∨ pktType = .unschedData) {pieces : List (ℕ × ℕ)}
    (each : ∀ piece ∈ pieces, 0 < piece.1 ∧ piece.1 ≤ PktType.unschedData.maxData) :
    (∀ p ∈ o.unschedPkts now total pktType first pieces, p.Of msg id total ∧
    (p.pktType = .request ∨ p.pktType = .unschedData)) ∧
      (o.unschedPkts now total pktType first pieces).map Hdr.bytes = pieces.map Prod.fst ∧
      (o.unschedPkts now total pktType first pieces).map Hdr.wire = pieces.map fun piece =>
      PktType.unschedData.framing.cost piece.1 := by
  -- each piece begins where the one before it ends, and only the first may be the request
  induction pieces generalizing first pktType with
  | nil => exact ⟨fun p none => absurd none List.not_mem_nil, rfl, rfl⟩
  | cons piece pieces ih =>
    obtain ⟨len, priority⟩ := piece
    obtain ⟨pos, fits⟩ := each _ List.mem_cons_self
    obtain ⟨of, bytes, wire⟩ := sends.unschedPkt now total priority first type pos fits
    obtain ⟨later, bytes', wire'⟩ :=
      ih (first + len) (.inr rfl) fun piece inside => each piece (List.mem_cons_of_mem _ inside)
    refine ⟨?_, ?_, ?_⟩
    · refine List.forall_mem_cons.mpr ⟨⟨of, type⟩, later⟩
    · rw [OutboundMessage.unschedPkts, List.map_cons, bytes, bytes']
      rfl
    · rw [OutboundMessage.unschedPkts, List.map_cons, wire, wire']
      rfl

theorem prepareRequestAndUnsched_eq (x : Params) (now : Time) (id : ℕ) {lens : List ℕ}
    (type : msg.msgType ≠ .undef ∧ msg.msgType ≠ .other)
    (each : ∀ len ∈ lens, 0 < len ∧ len ≤ PktType.unschedData.maxData) (le : lens.sum ≤ msg.byteLength) :
    ∃ txPkts, (ofAppMessage msg id lens).prepareRequestAndUnsched x now =
        .ok { ofAppMessage msg id lens with txPkts, bytesToSched := msg.byteLength - lens.sum } ∧
      (∀ p ∈ txPkts, p.Of msg id lens.sum ∧ (p.pktType = .request ∨ p.pktType = .unschedData)) ∧
      (txPkts.map Hdr.bytes).sum = lens.sum ∧ (txPkts.map Hdr.getDataBytes).sum = lens.sum ∧
      (txPkts.map Hdr.wire).sum = (lens.map PktType.unschedData.framing.cost).sum := by
  obtain ⟨prios, resolves, length⟩ := getUnschedPktsPrio_goes (x := x) le
  have sends : (ofAppMessage msg id lens).Sends msg id := ⟨rfl, rfl, rfl, rfl, rfl, rfl, rfl, rfl, rfl, rfl⟩
  have fst : (lens.zip prios).map Prod.fst = lens := List.map_fst_zip (by omega)
  have pieces : ∀ piece ∈ lens.zip prios, 0 < piece.1 ∧ piece.1 ≤ PktType.unschedData.maxData := fun piece inside =>
    each piece.1 (fst ▸ List.mem_map_of_mem inside)
  obtain ⟨packets, bytes, wire⟩ := sends.unschedPkts now lens.sum 0 (.inl rfl) pieces
  generalize made : (ofAppMessage msg id lens).unschedPkts now lens.sum .request 0 (lens.zip prios) =
    pkts at packets bytes wire
  rw [fst] at bytes
  have costs := congrArg (List.map PktType.unschedData.framing.cost) fst
  rw [List.map_map] at costs
  have data : pkts.map Hdr.getDataBytes = lens := by
    rw [← bytes]
    refine List.map_congr_left fun p inside => (Balanced.received_bytes ?_).symm
    unfold Hdr.IsData
    rcases (packets p inside).2 with type | type <;> simp [type]
  have perm := foldl_place_perm Hdr.txKey pkts []
  rw [List.nil_append] at perm
  have left : pkts.foldl (fun left p => sub32 left p.getDataBytes) msg.byteLength = msg.byteLength - lens.sum := by
    rw [foldl_sub32 (by rwa [data]), data]
  refine ⟨pkts.foldl (fun queue p => Lib.place Hdr.txKey p queue) [], ?_, fun p inside =>
    packets p (perm.mem_iff.mp inside), ?_, ?_, ?_⟩
  · unfold prepareRequestAndUnsched
    rw [show (ofAppMessage msg id lens).reqUnschedDataVec = lens from rfl,
      show (ofAppMessage msg id lens).msgSize = msg.byteLength from rfl, resolves, Lib.ok_bind, assert,
      Lib.require_true _ (show (ofAppMessage msg id lens).msgType ≠ .undef from type.1), Lib.ok_bind, assert,
      Lib.require_true _ (show (ofAppMessage msg id lens).msgType ≠ .other from type.2), Lib.ok_bind, made, ← left]
    rfl
  · rw [(perm.map Hdr.bytes).sum_eq, bytes]
  · rw [(perm.map Hdr.getDataBytes).sum_eq, data]
  · rw [(perm.map Hdr.wire).sum_eq, wire, ← costs]
    rfl

end OutboundMessage

namespace InboundMessage

variable {msg : AppMessage} {id total : ℕ} {m : InboundMessage}

theorem ofPkt_eq {p : Hdr} (of : p.Of msg id total) (unsched : p.pktType = .request ∨ p.pktType = .unschedData)
    (le : total ≤ msg.byteLength) (type : msg.msgType ≠ .undef) : ofPkt now p = .ok (fresh msg id total now) := by
  have data : p.IsData := by
    unfold Hdr.IsData
    rcases unsched with same | same <;> simp [same]
  obtain ⟨source, dest, msgType, created⟩ := of.data data
  obtain ⟨req, level, client, server, len, unschedBytes⟩ := of.unsched unsched
  unfold ofPkt
  rw [assert, Lib.require_true _ (by rwa [msgType]), Lib.ok_bind, Lib.require_true _ unsched, Lib.ok_bind]
  dsimp only
  rw [msgType, req, level, client, server, source, dest, of.msgId, len, unschedBytes, created, sub32_of_le le]
  rfl

/-- Grants come after the first packet, and only to messages that need one. -/
structure Times (m : InboundMessage) (now : Time) : Prop where
  arrived : m.reqArrivalTime ≤ m.lastGrantTime
  past : m.lastGrantTime ≤ now
  unsched : m.msgSize ≤ m.totalUnschedBytes → m.lastGrantTime = m.reqArrivalTime

theorem prepareRxMsgForApp_eq {toSched : ℕ} {bag : List Hdr} (ok : Balanced msg id total m toSched bag)
    (times : m.Times now) (all : m.bytesToReceive = 0) : m.prepareRxMsgForApp = .ok msg := by
  have granted := (ok.complete all).2.1
  have same : m.prepareRxMsgForApp = .ok
      { msgType := m.msgType, byteLength := m.msgSize, reqId := m.reqId, appLevelId := m.appLevelId,
        clientThreadId := m.clientThreadId, serverThreadId := m.serverThreadId, srcAddr := m.srcAddr, destAddr :=
          m.destAddr, msgCreationTime := m.msgCreationTime } := by
    unfold prepareRxMsgForApp
    by_cases unsched : m.msgSize ≤ m.totalUnschedBytes
    · rw [if_pos unsched, assert, Lib.require_true _ ⟨(times.unsched unsched).symm, granted, all⟩]
      rfl
    · rw [if_neg unsched, assert, Lib.require_true _ ⟨times.arrived, granted, all⟩]
      rfl
  have fixed := ok.fixed
  rw [same]
  refine congrArg Except.ok ?_
  rw [show m.msgType = msg.msgType from congrArg InboundMessage.msgType fixed,
    show m.msgSize = msg.byteLength from congrArg InboundMessage.msgSize fixed,
    show m.reqId = msg.reqId from congrArg InboundMessage.reqId fixed,
    show m.appLevelId = msg.appLevelId from congrArg InboundMessage.appLevelId fixed,
    show m.clientThreadId = msg.clientThreadId from congrArg InboundMessage.clientThreadId fixed,
    show m.serverThreadId = msg.serverThreadId from congrArg InboundMessage.serverThreadId fixed,
    show m.srcAddr = msg.srcAddr from congrArg InboundMessage.srcAddr fixed,
    show m.destAddr = msg.destAddr from congrArg InboundMessage.destAddr fixed,
    show m.msgCreationTime = msg.msgCreationTime from congrArg InboundMessage.msgCreationTime fixed]

end InboundMessage

end PhantomPass.Homa
