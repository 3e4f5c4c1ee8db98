import PhantomPass.Network.Conservation
import PhantomPass.Network.Crediting
import PhantomPass.Switch.MultiPath

/-! The GRANTs of a request and its packets, as the switches see them: which
paths they take, and what they add to phantom queues. -/

set_option autoImplicit false

namespace PhantomPass

open Lib (Store)
open Switch (CLibrary MultiPathForwarder Ports whole)

def Packet.dataFrame (p : Packet) : ℤ × ℕ := (p.hdr.seq, p.payload)

namespace Net

variable {cfg : Config} {env : Env} {net : Net} {src : Addr} {id : UniqReqId}

def packetsOf (net : Net) (src : Addr) (id : UniqReqId) : List Packet := dataOf id (net.host src).sent

theorem packetsOf_eq (net : Net) (src : Addr) (id : UniqReqId) :
    net.packetsOf src id = dataOf id (net.host src).sendSide.out := by
  change dataOf id (net.host src).sent = dataOf id ((net.host src).sent.filter fun p => !p.isGrant)
  unfold dataOf
  rw [List.filter_filter]
  apply List.filter_congr
  intro p _
  cases data : p.isData with
  | true => rw [Packet.isGrant_of_isData data]; simp
  | false => simp

section Frames

variable (ok : NetOk cfg net) (inside : id ∈ (net.msgs src).keys)

include ok inside

theorem dataHdr_of_packet {p : Packet} (sent : p ∈ net.packetsOf src id) : DataHdr src (net.msg src id) p := by
  rw [packetsOf_eq, ← msg_reqId ok inside] at sent
  exact (msgOk ok inside).data p sent

theorem packets_frames (request : (net.msg src id).isRequest = true) :
    (net.packetsOf src id).map Packet.dataFrame ++ ethernet.frames (net.msg src id).seq (net.msg src id).unsentBytes =
      ethernet.frames 0 (net.msg src id).totalBytes := by
  have seqs := (msgOk ok inside).seqs request
  rw [msg_reqId ok inside, ← packetsOf_eq] at seqs
  exact seqs

theorem grants_frames : ∃ d : ℕ, d ≤ (net.msg src id).totalBytes ∧
    (d = (net.msg src id).totalBytes ∨ ethernet.mss ∣ d) ∧ (net.msg src id).selfAllocCreditData = d ∧
    (net.msg src id).selfAllocCredit = ethernet.wire d ∧
    (net.grantsFor src id).map Packet.grantFrame <+: ethernet.frames 0 ((net.msg src id).totalBytes - d) ∧
    (net.FullyGranted src id →
      (net.grantsFor src id).map Packet.grantFrame = ethernet.frames 0 ((net.msg src id).totalBytes - d)) := by
  obtain ⟨d, le, aligned, data, credit, -⟩ := (msgOk ok inside).alloc
  refine ⟨d, le, aligned, data, credit, ?_⟩
  by_cases known : id ∈ (net.host (net.msg src id).remoteAddr).rcv.inboundObjs.keys
  · obtain ⟨base, total⟩ := inbound_eq ok inside known
    have obj : ObjOk _ _ id ((net.host (net.msg src id).remoteAddr).rcv.msg id) :=
      (ok.host (net.msg src id).remoteAddr).halves.recv.inv.obj id known
    have seqs := obj.seqs
    rw [← grantsFor_eq] at seqs
    have base : ((net.host (net.msg src id).remoteAddr).rcv.msg id).base = d := by exact_mod_cast base.trans data
    constructor
    · cases info : ((net.host (net.msg src id).remoteAddr).rcv.msg id).receivedMsgInfo with
      | true =>
        rw [total info, base] at seqs
        exact ⟨_, seqs⟩
      | false =>
        -- a receiver that does not know the size has granted nothing
        have none : ((net.host (net.msg src id).remoteAddr).rcv.msg id).dataBytesExpected = 0 := (obj.idle info).2.1
        rw [none, Nat.zero_sub, Nat.zero_sub, Lib.Framing.frames_zero, Lib.Framing.frames_zero, List.append_nil] at seqs
        rw [seqs]
        exact List.nil_prefix
    · rintro ⟨-, info, all⟩
      rw [all, Nat.sub_self, Lib.Framing.frames_zero, List.append_nil, total info, base] at seqs
      exact seqs
  · rw [grantsFor_unknown ok known]
    exact ⟨List.nil_prefix, fun full => absurd full.1 known⟩

theorem grant_meets_packet {g p : Packet} (grant : g ∈ net.grantsFor src id) (sent : p ∈ net.packetsOf src id) :
    g.hdr.msgType = .grant ∧ g.src = p.dst ∧ g.dst = p.src := by
  obtain ⟨there, isGrant, of⟩ := mem_grantsOf.mp grant
  obtain ⟨known, grantPkt⟩ := grantPkt_of_sent ok there isGrant
  have hdr := dataHdr_of_packet ok inside sent
  subst of
  have origin := (obj_of_member ok inside rfl known).1
  exact ⟨grantPkt.msgType, grantPkt.src.trans hdr.dst.symm, (grantPkt.dst.trans origin).trans hdr.src.symm⟩

end Frames

/-- Wherever two forwarders go by the keys of packets and choose among equally
many slots, they choose the same slot for these two. -/
def SamePath (g p : Packet) : Prop :=
  ∀ (f f' : MultiPathForwarder) (lib lib' : CLibrary) (ports ports' : Ports ℕ) (now now' : Time) (queue queue' : ℤ → ℤ),
    f.destHashClassifier ≠ none → f'.destHashClassifier ≠ none → f.width = f'.width →
      (f.classify whole lib ports g now queue).1 = (f'.classify whole lib' ports' p now' queue').1

theorem SamePath.of_key {g p : Packet} (grant : g.hdr.msgType = .grant) (request : p.hdr.msgType = .request)
    (src : g.src = p.dst) (dst : g.dst = p.src) (seq : g.hdr.seq = p.hdr.seq) : SamePath g p := by
  intro f f' lib lib' ports ports' now now' queue queue' attached attached' width
  rw [f.classify_slot whole lib ports now queue attached (Or.inl grant),
    f'.classify_slot whole lib' ports' now' queue' attached' (Or.inr request),
    MultiPathForwarder.pathKey_eq grant request src dst seq, width]

theorem map_seq_grants (log : List Packet) : log.map
    (fun g => g.hdr.seq) = (log.map Packet.grantFrame).map Prod.fst := by
  rw [List.map_map]
  rfl

theorem map_seq_packets (log : List Packet) : log.map
    (fun p => p.hdr.seq) = (log.map Packet.dataFrame).map Prod.fst := by
  rw [List.map_map]
  rfl

theorem scheduled_frames (ok : NetOk cfg net) (inside : id ∈ (net.msgs src).keys)
    (request : (net.msg src id).isRequest = true) (scheduled : (net.msg src id).selfAllocCreditData = 0) :
    (net.grantsFor src id).map Packet.grantFrame <+: ethernet.frames 0 (net.msg src id).totalBytes ∧
    (net.packetsOf src id).map Packet.dataFrame <+: ethernet.frames 0 (net.msg src id).totalBytes ∧
    ((net.msg src id).unsentBytes = 0 → net.FullyGranted src id →
      (net.grantsFor src id).map Packet.grantFrame = (net.packetsOf src id).map Packet.dataFrame) := by
  have packets := packets_frames ok inside request
  obtain ⟨d, -, -, data, -, granted, full⟩ := grants_frames ok inside
  have zero : d = 0 := by exact_mod_cast data.symm.trans scheduled
  rw [zero, Nat.sub_zero] at granted full
  refine ⟨granted, ⟨_, packets⟩, fun done all => ?_⟩
  rw [done, Lib.Framing.frames_zero, List.append_nil] at packets
  exact (full all).trans packets.symm

/-- In every run, the GRANTs for a request that credits itself nothing and its packets
name the same byte ranges, each once, and go by the same paths wherever a
DestHashClassifier is attached. -/
theorem scheduled_paths (reach : Reachable env net) (inside : id ∈ (net.msgs src).keys)
    (request : (net.msg src id).isRequest = true) (scheduled : (net.msg src id).selfAllocCreditData = 0) :
    ((net.grantsFor src id).map fun g => g.hdr.seq).Nodup ∧ ((net.packetsOf src id).map fun p => p.hdr.seq).Nodup ∧
    ((net.msg src id).unsentBytes = 0 → net.FullyGranted src id →
      (net.grantsFor src id).map Packet.grantFrame = (net.packetsOf src id).map Packet.dataFrame) ∧
    ∀ g ∈ net.grantsFor src id, ∀ p ∈ net.packetsOf src id, g.hdr.seq = p.hdr.seq →
      g.grantLen = p.payload ∧ SamePath g p := by
  have ok := Reach.ok reach
  obtain ⟨granted, sent, full⟩ := scheduled_frames ok inside request scheduled
  have once := ethernet.nodup_frames 0 (net.msg src id).totalBytes
  refine ⟨?_, ?_, full, ?_⟩
  · rw [map_seq_grants]
    exact once.sublist (granted.sublist.map _)
  · rw [map_seq_packets]
    exact once.sublist (sent.sublist.map _)
  · intro g grant p member seq
    obtain ⟨type, towards, back⟩ := grant_meets_packet ok inside grant member
    have hdr := dataHdr_of_packet ok inside member
    have frame : g.grantFrame = p.dataFrame := by
      apply List.inj_on_of_nodup_map once
      · exact granted.subset (List.mem_map_of_mem grant)
      · exact sent.subset (List.mem_map_of_mem member)
      · exact seq
    refine ⟨congrArg Prod.snd frame, .of_key type ?_ towards back seq⟩
    rw [hdr.msgType, request, if_pos rfl]

def allSent : List (Net → Event) :=
  allGranted ++ [deliverFirst, deliverFirst, deliverFirst, fun _ => .tick (1 / 1000000), fun _ => .poll 0,
    fun _ => .tick (1 / 1000000), fun _ => .poll 0, fun _ => .tick (1 / 1000000), fun _ => .poll 0]

theorem allSent_run : ∃ net, Reachable tenFrames net ∧ (⟨0, 0, 0⟩ : UniqReqId) ∈ (net.msgs 0).keys ∧
    (net.msg 0 ⟨0, 0, 0⟩).isRequest = true ∧ (net.msg 0 ⟨0, 0, 0⟩).selfAllocCreditData = 0 ∧
    (net.msg 0 ⟨0, 0, 0⟩).unsentBytes = 0 ∧ net.FullyGranted 0 ⟨0, 0, 0⟩ ∧
    (net.packetsOf 0 ⟨0, 0, 0⟩).map Packet.dataFrame = [(1458, 1458), (2916, 1458), (3000, 84)] := by
  have ran : ((init tenFrames.cfg).run tenFrames allSent).map (fun net =>
      (decide ((⟨0, 0, 0⟩ : UniqReqId) ∈ (net.msgs 0).keys ∧ (net.msg 0 ⟨0, 0, 0⟩).isRequest = true ∧
        (net.msg 0 ⟨0, 0, 0⟩).selfAllocCreditData = 0 ∧ (net.msg 0 ⟨0, 0, 0⟩).unsentBytes = 0 ∧
          net.FullyGranted 0 ⟨0, 0, 0⟩),
        (net.packetsOf 0 ⟨0, 0, 0⟩).map Packet.dataFrame)) = some (true, [(1458, 1458), (2916, 1458), (3000, 84)]) := by
    decide +kernel
  obtain ⟨net, run, values⟩ := Option.map_eq_some_iff.mp ran
  simp only [Prod.mk.injEq, decide_eq_true_eq] at values
  obtain ⟨⟨inside, request, scheduled, done, full⟩, frames⟩ := values
  exact ⟨net, Reach.run .init (fun _ _ _ => trivial) run, inside, request, scheduled, done, full, frames⟩

theorem scheduled_paths_allSent : ∃ net, Reachable tenFrames net ∧
    (net.grantsFor 0 ⟨0, 0, 0⟩).map Packet.grantFrame = [(1458, 1458), (2916, 1458), (3000, 84)] := by
  obtain ⟨net, reach, inside, request, scheduled, done, full, frames⟩ := allSent_run
  exact ⟨net, reach, ((scheduled_paths reach inside request scheduled).2.2.1 done full).trans frames⟩

/-- A forwarder with two links and no classifier attached goes round its slots. -/
def roundRobin (ns : ℕ) : MultiPathForwarder where
  nodeid := 0
  nodetype := 0
  symmetric := false
  perflow := false
  checkpathid := false
  ns := ns
  slots := [some ⟨0, none⟩, some ⟨1, none⟩]
  some_slot := by decide

/-- Without a classifier, a forwarder that has routed one packet before goes another way. -/
theorem unattached_paths : ¬ ∀ (env : Env) (net : Net) (src : Addr) (id : UniqReqId), Reachable env net →
    id ∈ (net.msgs src).keys → (net.msg src id).isRequest = true → (net.msg src id).selfAllocCreditData = 0 →
    (net.msg src id).unsentBytes = 0 → net.FullyGranted src id →
    ∀ g ∈ net.grantsFor src id, ∀ p ∈ net.packetsOf src id, g.hdr.seq = p.hdr.seq →
      ∀ (f f' : MultiPathForwarder) (lib lib' : CLibrary) (ports ports' : Ports ℕ) (now now' : Time)
      (queue queue' : ℤ → ℤ),
        f.width = f'.width →
          (f.classify whole lib ports g now queue).1 = (f'.classify whole lib' ports' p now' queue').1 := by
  intro claimed
  obtain ⟨net, reach, inside, request, scheduled, done, full, frames⟩ := allSent_run
  have lists := (scheduled_frames reach.ok inside request scheduled).2.2 done full
  have first : ((1458, 1458) : ℤ × ℕ) ∈ (net.packetsOf 0 ⟨0, 0, 0⟩).map Packet.dataFrame := by
    rw [frames]
    exact List.mem_cons_self
  obtain ⟨p, member, last⟩ := List.mem_map.mp first
  rw [← lists] at first
  obtain ⟨g, grant, last'⟩ := List.mem_map.mp first
  have seq : g.hdr.seq = p.hdr.seq := congrArg Prod.fst (last'.trans last.symm)
  let lib : CLibrary := ⟨id, fun _ => .refl _, fun _ => 0⟩
  have same := claimed tenFrames net 0 ⟨0, 0, 0⟩ reach inside request scheduled done full g grant p member seq
    (roundRobin 0) (roundRobin 1) lib lib .fresh .fresh 0 0 (fun _ => 0) (fun _ => 0) rfl
  have apart : (0 : ℕ) = 1 := same
  exact absurd apart Nat.zero_ne_one

/-- Of a request that credits itself a part, the GRANTs name the packets that they
pay for, and go by their paths, exactly when that part is empty. -/
theorem grant_seqs_iff (reach : Reachable env net) (inside : id ∈ (net.msgs src).keys)
    (request : (net.msg src id).isRequest = true)
    (partly : (net.msg src id).selfAllocCreditData < (net.msg src id).totalBytes)
    (done : (net.msg src id).unsentBytes = 0) (full : net.FullyGranted src id) :
    (((net.grantsFor src id).map fun g => g.hdr.seq).Perm
        (((net.packetsOf src id).filter fun p => decide ((net.msg src id).selfAllocCreditData < p.hdr.seq)).map fun p =>
        p.hdr.seq) ∧
      ∀ (i : ℕ) (g p : Packet), (net.grantsFor src id)[i]? = some g →
        ((net.packetsOf src id).filter fun p => decide ((net.msg src id).selfAllocCreditData < p.hdr.seq))[i]? =
        some p →
        SamePath g p) ↔ (net.msg src id).selfAllocCreditData = 0 := by
  have ok := Reach.ok reach
  have packets := packets_frames ok inside request
  obtain ⟨d, le, aligned, data, -, -, granted⟩ := grants_frames ok inside
  rw [done, Lib.Framing.frames_zero, List.append_nil] at packets
  have granted := granted full
  have beyond : ((net.packetsOf src id).filter fun p => decide ((net.msg src id).selfAllocCreditData < p.hdr.seq)).map
      Packet.dataFrame = ethernet.frames d ((net.msg src id).totalBytes - d) := by
    rw [← ethernet.filter_frames le aligned, ← packets, List.filter_map, data]
    rfl
  have short : d < (net.msg src id).totalBytes := by omega
  have whole : ethernet.mss ∣ d := aligned.resolve_left (ne_of_lt short)
  have perm_iff := ethernet.frames_perm_iff (Nat.sub_pos_of_lt short) whole
  rw [map_seq_grants, map_seq_packets, granted, beyond, perm_iff, data]
  constructor
  · rintro ⟨rfl, -⟩
    rfl
  · intro zero
    have zero : d = 0 := by exact_mod_cast zero
    refine ⟨zero, fun i g p here there => ?_⟩
    rw [← data] at there
    have grant := List.mem_of_getElem? here
    have member := (List.mem_filter.mp (List.mem_of_getElem? there)).1
    obtain ⟨type, towards, back⟩ := grant_meets_packet ok inside grant member
    have hdr := dataHdr_of_packet ok inside member
    have frames : ((net.grantsFor src id).map Packet.grantFrame)[i]? =
        (((net.packetsOf src id).filter fun p =>
          decide ((net.msg src id).selfAllocCreditData < p.hdr.seq)).map Packet.dataFrame)[i]? := by
      rw [granted, beyond, zero]
      rfl
    rw [List.getElem?_map, List.getElem?_map, here, there, Option.map_some, Option.map_some,
      Option.some.injEq] at frames
    refine .of_key type ?_ towards back (congrArg Prod.fst frames)
    rw [hdr.msgType, request, if_pos rfl]

theorem grant_seqs_allSent : ∃ net, Reachable tenFrames net ∧
    ((net.grantsFor 0 ⟨0, 0, 0⟩).map fun g => g.hdr.seq).Perm
      (((net.packetsOf 0 ⟨0, 0, 0⟩).filter fun p =>
        decide ((net.msg 0 ⟨0, 0, 0⟩).selfAllocCreditData < p.hdr.seq)).map fun p => p.hdr.seq) := by
  obtain ⟨net, reach, inside, request, scheduled, done, full, -⟩ := allSent_run
  have partly : (net.msg 0 ⟨0, 0, 0⟩).selfAllocCreditData < (net.msg 0 ⟨0, 0, 0⟩).totalBytes := by
    rw [scheduled]
    exact_mod_cast (msgOk reach.ok inside).total_pos
  exact ⟨net, reach, ((grant_seqs_iff reach inside request partly done full).mpr scheduled).1⟩

/-- Budgets for one frame, which the first packet of every message credits itself. -/
def oneFrame : Env := ⟨Config.small 1538 (-1) 0 3 0 (by decide) allUnsolicited_set, .plain⟩

/-- Of a request of three packets the first goes without a GRANT, the others are
granted one by one. -/
def firstUnsolicited : List (Net → Event) :=
  [fun _ => .request 0 1 0 0 0 3000, fun _ => .tick (1 / 1000000), fun _ => .poll 0, deliverFirst,
    fun _ => .tick (1 / 1000000), fun _ => .poll 1, deliverFirst, fun _ => .tick (1 / 1000000), fun _ => .poll 0,
    deliverFirst, fun _ => .tick (1 / 1000000), fun _ => .poll 1, deliverFirst, fun _ => .tick (1 / 1000000),
    fun _ => .poll 0]

theorem firstUnsolicited_run : ∃ net, Reachable oneFrame net ∧ (⟨0, 0, 0⟩ : UniqReqId) ∈ (net.msgs 0).keys ∧
    (net.msg 0 ⟨0, 0, 0⟩).isRequest = true ∧ (net.msg 0 ⟨0, 0, 0⟩).totalBytes = 3000 ∧
    (net.msg 0 ⟨0, 0, 0⟩).selfAllocCreditData = 1458 ∧ (net.msg 0 ⟨0, 0, 0⟩).unsentBytes = 0 ∧
    net.FullyGranted 0 ⟨0, 0, 0⟩ ∧ (net.grantsFor 0 ⟨0, 0, 0⟩).map (fun g => g.hdr.seq) = [1458, 1542] ∧
    (net.packetsOf 0 ⟨0, 0, 0⟩).map (fun p => p.hdr.seq) = [1458, 2916, 3000] := by
  have ran : ((init oneFrame.cfg).run oneFrame firstUnsolicited).map (fun net =>
      (decide ((⟨0, 0, 0⟩ : UniqReqId) ∈ (net.msgs 0).keys ∧ (net.msg 0 ⟨0, 0, 0⟩).isRequest = true ∧
        (net.msg 0 ⟨0, 0, 0⟩).totalBytes = 3000 ∧ (net.msg 0 ⟨0, 0, 0⟩).selfAllocCreditData = 1458 ∧
        (net.msg 0 ⟨0, 0, 0⟩).unsentBytes = 0 ∧ net.FullyGranted 0 ⟨0, 0, 0⟩),
        (net.grantsFor 0 ⟨0, 0, 0⟩).map (fun g => g.hdr.seq), (net.packetsOf 0 ⟨0, 0, 0⟩).map fun p => p.hdr.seq)) =
      some (true, [1458, 1542], [1458, 2916, 3000]) := by
    decide +kernel
  obtain ⟨net, run, values⟩ := Option.map_eq_some_iff.mp ran
  simp only [Prod.mk.injEq, decide_eq_true_eq] at values
  obtain ⟨⟨inside, request, total, prefix_, done, full⟩, grants, packets⟩ := values
  exact ⟨net, Reach.run .init (fun _ _ _ => trivial) run, inside, request, total, prefix_, done, full, grants, packets⟩

/-- The second GRANT names no packet. -/
theorem grant_seqs_differ : ¬ ∀ (env : Env) (net : Net) (src : Addr) (id : UniqReqId), Reachable env net →
    id ∈ (net.msgs src).keys → (net.msg src id).isRequest = true →
    (net.msg src id).selfAllocCreditData < (net.msg src id).totalBytes → (net.msg src id).unsentBytes = 0 →
    net.FullyGranted src id →
      ((net.grantsFor src id).map fun g => g.hdr.seq).Perm
        (((net.packetsOf src id).filter fun p => decide ((net.msg src id).selfAllocCreditData < p.hdr.seq)).map
          fun p => p.hdr.seq) := by
  intro claimed
  obtain ⟨net, reach, inside, request, total, alloc, done, full, grants, packets⟩ := firstUnsolicited_run
  have partly : (net.msg 0 ⟨0, 0, 0⟩).selfAllocCreditData < (net.msg 0 ⟨0, 0, 0⟩).totalBytes := by
    rw [total, alloc]
    decide
  have perm := claimed oneFrame net 0 ⟨0, 0, 0⟩ reach inside request partly done full
  rw [grants] at perm
  have named : (1542 : ℤ) ∈ (net.packetsOf 0 ⟨0, 0, 0⟩).map fun p => p.hdr.seq := by
    apply (List.filter_sublist.map _).subset
    apply perm.subset
    exact List.mem_cons_of_mem _ List.mem_cons_self
  rw [packets] at named
  exact absurd named (by decide)

section Charges

open Switch (PPassPortStatus)
open Switch.DestHashClassifier (counts)

def enterCharge (p : Packet) : ℤ := if p.hdr.msgType = .grant then p.hdr.credit else 0

def leaveCharge (p : Packet) : ℤ := if counts p.hdr then p.size else 0

theorem pqlen_ppassIngress (c : Switch.DestHashClassifier) (status : PPassPortStatus ℕ) (p : Packet) :
    (c.ppassIngress whole status p).pqlen = min (status.pqlen + enterCharge p).toNat c.limit := by
  unfold Switch.DestHashClassifier.ppassIngress enterCharge
  dsimp only
  split
  · rfl
  · rw [add_zero, Int.toNat_natCast]
    rfl

theorem compared_leaveCharge (c : Switch.DestHashClassifier) (status : PPassPortStatus ℕ) (p : Packet) (now : Time) :
    c.compared whole status p now =
      (status.pqlen + leaveCharge p).toNat - ⌊c.delta (Switch.DestHashClassifier.interval status now)⌋₊ := by
  have add : (if counts p.hdr then whole.add status.pqlen p.size else status.pqlen) =
      (status.pqlen + leaveCharge p).toNat := by
    unfold leaveCharge
    split
    · rfl
    · rw [add_zero, Int.toNat_natCast]
  unfold Switch.DestHashClassifier.compared
  dsimp only
  rw [add]
  split
  · next less => exact (Nat.sub_eq_zero_of_le (le_of_lt less)).symm
  · rfl

/-- A packet of a request is charged where it leaves when the request credited itself something. -/
theorem leaveCharge_packet (ok : NetOk cfg net) (inside : id ∈ (net.msgs src).keys)
    (request : (net.msg src id).isRequest = true) {p : Packet} (sent : p ∈ net.packetsOf src id) :
    leaveCharge p = if 0 < (net.msg src id).selfAllocCredit then p.wireCost else 0 := by
  have hdr := dataHdr_of_packet ok inside sent
  have type : p.hdr.msgType = .request := by rw [hdr.msgType, request, if_pos rfl]
  unfold leaveCharge counts Packet.wireCost
  rw [type, hdr.unsol.1, hdr.size]
  by_cases self : 0 < (net.msg src id).selfAllocCredit
  · simp [self]
  · simp [self]

theorem wireSum_packets (ok : NetOk cfg net) (inside : id ∈ (net.msgs src).keys)
    (done : (net.msg src id).unsentBytes = 0) :
    wireSum (net.packetsOf src id) = ethernet.wire (net.msg src id).totalBytes := by
  have sums := (msgOk ok inside).wireSum_add
  rw [done, Lib.Framing.wire_zero, Nat.cast_zero, add_zero, msg_reqId ok inside, ← packetsOf_eq] at sums
  exact sums

/-- The charges are what ppass_ingress and ppass_egress add to a phantom queue, which they bound and drain. Of a
request that is granted and sent in full, every byte is charged once exactly when the request credits itself
nothing or all of it. -/
theorem charged_once_iff (reach : Reachable env net) (inside : id ∈ (net.msgs src).keys)
    (request : (net.msg src id).isRequest = true) (done : (net.msg src id).unsentBytes = 0)
    (full : net.FullyGranted src id) :
    (∀ (c : Switch.DestHashClassifier) (status : PPassPortStatus ℕ) (p : Packet) (now : Time),
      (c.ppassIngress whole status p).pqlen = min (status.pqlen + enterCharge p).toNat c.limit ∧
      c.compared whole status p now =
        (status.pqlen + leaveCharge p).toNat - ⌊c.delta (Switch.DestHashClassifier.interval status now)⌋₊) ∧
    ((((net.grantsFor src id).map enterCharge).sum + ((net.packetsOf src id).map leaveCharge).sum =
        addHeaderOverhead (net.msg src id).totalBytes ∧
      ∀ p ∈ net.packetsOf src id, (net.msg src id).selfAllocCreditData < p.hdr.seq → leaveCharge p = 0) ↔
    (net.msg src id).selfAllocCreditData = 0 ∨ (net.msg src id).selfAllocCreditData = (net.msg src id).totalBytes) := by
  refine ⟨fun c status p now => ⟨pqlen_ppassIngress c status p, compared_leaveCharge c status p now⟩, ?_⟩
  have ok := Reach.ok reach
  obtain ⟨d, le, aligned, data, credit, -⟩ := grants_frames ok inside
  have packets := packets_frames ok inside request
  rw [done, Lib.Framing.frames_zero, List.append_nil] at packets
  have paid := (credited_eq ok inside full).2
  have entered : ((net.grantsFor src id).map enterCharge).sum = creditSum (net.grantsFor src id) := by
    unfold creditSum
    refine congrArg List.sum (List.map_congr_left fun g member => ?_)
    obtain ⟨sent, grant, -⟩ := mem_grantsOf.mp member
    exact if_pos (grantPkt_of_sent ok sent grant).2.msgType
  have left : ((net.packetsOf src id).map leaveCharge).sum =
      if 0 < (net.msg src id).selfAllocCredit then (ethernet.wire (net.msg src id).totalBytes : ℤ) else 0 := by
    rw [List.map_congr_left fun p sent => leaveCharge_packet ok inside request sent]
    split
    · exact wireSum_packets ok inside done
    · simp
  rw [entered, left, addHeaderOverhead_eq, data]
  rw [addHeaderOverhead_eq, credit] at paid
  rw [credit]
  rcases d.eq_zero_or_pos with rfl | some_prefix
  · -- GRANTs pay for all of it, and no packet is charged again
    refine iff_of_true ⟨?_, fun p sent _ => ?_⟩ (Or.inl rfl)
    · rw [Lib.Framing.wire_zero] at paid ⊢
      simpa using paid
    · rw [leaveCharge_packet ok inside request sent, credit, Lib.Framing.wire_zero, if_neg (by decide)]
  · have pos : (0 : ℤ) < ethernet.wire d := by exact_mod_cast ethernet.wire_pos some_prefix
    rw [if_pos pos]
    constructor
    · rintro ⟨sum, -⟩
      right
      have grants : ethernet.wire d = ethernet.wire (net.msg src id).totalBytes := by omega
      have parts := wire_prefix le aligned
      have rest : ¬ 0 < (net.msg src id).totalBytes - d := fun more => by
        have := ethernet.wire_pos more
        omega
      omega
    · rintro (zero | all)
      · omega
      · have all : d = (net.msg src id).totalBytes := by exact_mod_cast all
        rw [← all] at paid ⊢
        refine ⟨by omega, fun p sent beyond => ?_⟩
        have frame : p.dataFrame ∈ ethernet.frames 0 (net.msg src id).totalBytes := by
          rw [← packets]
          exact List.mem_map_of_mem sent
        have bound := (ethernet.mem_frames frame).2
        rw [← all] at bound
        change p.hdr.seq ≤ 0 + d at bound
        omega

theorem charged_once_allSent : ∃ net, Reachable tenFrames net ∧
    ((net.grantsFor 0 ⟨0, 0, 0⟩).map enterCharge).sum + ((net.packetsOf 0 ⟨0, 0, 0⟩).map leaveCharge).sum =
      addHeaderOverhead (net.msg 0 ⟨0, 0, 0⟩).totalBytes := by
  obtain ⟨net, reach, inside, request, scheduled, done, full, -⟩ := allSent_run
  exact ⟨net, reach, ((charged_once_iff reach inside request done full).2.mpr (Or.inl scheduled)).1⟩

/-- A packet that a GRANT pays for is charged again. -/
theorem charged_twice : ¬ ∀ (env : Env) (net : Net) (src : Addr) (id : UniqReqId), Reachable env net →
    id ∈ (net.msgs src).keys → (net.msg src id).isRequest = true → (net.msg src id).unsentBytes = 0 →
    net.FullyGranted src id →
      ((net.grantsFor src id).map enterCharge).sum + ((net.packetsOf src id).map leaveCharge).sum =
          addHeaderOverhead (net.msg src id).totalBytes ∧
        ∀ p ∈ net.packetsOf src id, (net.msg src id).selfAllocCreditData < p.hdr.seq → leaveCharge p = 0 := by
  intro claimed
  obtain ⟨net, reach, inside, request, total, alloc, done, full, -, packets⟩ := firstUnsolicited_run
  have last : (3000 : ℤ) ∈ (net.packetsOf 0 ⟨0, 0, 0⟩).map fun p => p.hdr.seq := by
    rw [packets]
    decide
  obtain ⟨p, sent, seq⟩ := List.mem_map.mp last
  have none := (claimed oneFrame net 0 ⟨0, 0, 0⟩ reach inside request done full).2 p sent (by rw [alloc, seq]; decide)
  have ok := Reach.ok reach
  obtain ⟨d, -, -, data, credit, -⟩ := grants_frames ok inside
  have part : d = 1458 := by exact_mod_cast data.symm.trans alloc
  have self : 0 < (net.msg 0 ⟨0, 0, 0⟩).selfAllocCredit := by
    rw [credit, part]
    decide
  rw [leaveCharge_packet ok inside request sent, if_pos self] at none
  have cost : 84 ≤ p.wireCost := Int.ofNat_le.mpr (le_max_right _ _)
  omega

end Charges

end Net

end PhantomPass
