import PhantomPass.Refinement.Sending

/-! The two loops of send_data over the inactive messages: unsolicited data
credits itself, then every message is announced or queued to its receiver. -/

set_option autoImplicit false

namespace PhantomPass

open Lib (RoundRobin Store)

namespace Sender

variable {cfg : Config}

section Allocation

theorem prefix_of_full {total k : ℕ} (pos : 0 < k) (short : k * 1538 < ethernet.wire total) :
    Prefix total (k * maxR2p2Payload) where
  pos := Nat.mul_pos pos (by decide)
  le := by
    by_contra longer
    have := ethernet.wire_mono (Nat.le_of_lt (Nat.lt_of_not_le longer))
    rw [wire_full] at this
    omega
  aligned := Or.inr (Dvd.intro_left k rfl)

theorem alloc_full (space : ℤ) :
    addHeaderOverhead (removeHeaderOverhead space) true = space.tdiv 1538 * 1538 ∧
      removeHeaderOverhead space = space.tdiv 1538 * 1458 := by
  have data : removeHeaderOverhead space = space.tdiv 1538 * 1458 := rfl
  refine ⟨?_, data⟩
  have quot : (space.tdiv 1538 * 1458).tdiv 1458 = space.tdiv 1538 := Int.mul_tdiv_cancel _ (by decide)
  rw [data]
  simp only [addHeaderOverhead, maxR2p2Payload, r2p2AllHeadersSize, interPktGapSize, ethernetPreambleSize,
    Bool.true_eq_false, and_false, if_false, Nat.cast_ofNat, quot]
  norm_num

theorem full_le_space (space : ℤ) (pos : 0 < space.tdiv 1538) : space.tdiv 1538 * 1538 ≤ space := by
  have nonneg : 0 ≤ space := by
    by_contra negative
    have := Int.tdiv_nonneg (a := -space) (b := 1538) (by omega) (by decide)
    rw [Int.neg_tdiv] at this
    omega
  rw [Int.tdiv_eq_ediv_of_nonneg nonneg]
  exact Int.ediv_mul_le _ (by decide)

theorem alloc_prefix {total : ℕ} {space : ℤ} (pos : 0 < space.tdiv 1538) (short : space < ethernet.wire total) :
    ∃ d, Prefix total d ∧ removeHeaderOverhead space = (d : ℕ) ∧
      max (addHeaderOverhead (removeHeaderOverhead space) true) minEthernetFrameOnWire = ethernet.wire d := by
  obtain ⟨bytes, data⟩ := alloc_full space
  obtain ⟨k, count⟩ := Int.eq_ofNat_of_zero_le pos.le
  have floor := full_le_space _ pos
  rw [count] at bytes data floor pos
  have kpos : 0 < k := by exact_mod_cast pos
  refine ⟨k * maxR2p2Payload, prefix_of_full kpos (by omega), ?_, ?_⟩
  · rw [data]; simp [maxR2p2Payload]
  · rw [bytes, wire_full]
    simp only [minEthernetFrameOnWire]
    push_cast
    omega

theorem selfAllocation_prefix {total : ℕ} {avail bytes dataBytes : ℤ} (some_data : 0 < total)
    (alloc : selfAllocation cfg total avail = (bytes, dataBytes)) (pos : 0 < bytes) :
    ∃ d, Prefix total d ∧ dataBytes = (d : ℕ) ∧ max bytes minEthernetFrameOnWire = ethernet.wire d := by
  have whole := ethernet.wire_of_pos some_data
  have least : minEthernetFrameOnWire ≤ ethernet.wire total := by
    rw [whole]; exact le_trans (le_max_right _ _) (Nat.le_add_right _ _)
  unfold selfAllocation at alloc
  rw [addHeaderOverhead_eq] at alloc
  set space : ℤ := max (cfg.maxSrpb - avail) maxEthernetFrameOnWire
  have roomy : (1538 : ℤ) ≤ space := le_max_right _ _
  have one : 0 < space.tdiv 1538 := by
    rw [Int.tdiv_eq_ediv_of_nonneg (by omega)]; omega
  by_cases fits : (ethernet.wire total : ℤ) ≤ cfg.maxSrpb
  · simp only [fits, if_true] at alloc
    by_cases backlog : space < ethernet.wire total
    · simp only [backlog, if_true, Prod.mk.injEq] at alloc
      obtain ⟨rfl, rfl⟩ := alloc
      exact alloc_prefix one backlog
    · simp only [backlog, if_false, Prod.mk.injEq] at alloc
      obtain ⟨rfl, rfl⟩ := alloc
      exact ⟨total, ⟨some_data, le_refl _, Or.inl rfl⟩, rfl, by
        rw [max_eq_left]; exact_mod_cast least⟩
  · have bigger : cfg.maxSrpb < ethernet.wire total := by omega
    obtain ⟨full, -⟩ := alloc_full cfg.maxSrpb
    simp only [fits, if_false] at alloc
    by_cases backlog : space < addHeaderOverhead (removeHeaderOverhead cfg.maxSrpb) true
    · simp only [backlog, if_true, Prod.mk.injEq] at alloc
      obtain ⟨rfl, rfl⟩ := alloc
      refine alloc_prefix one ?_
      rw [full] at backlog
      have := full_le_space cfg.maxSrpb (by omega)
      omega
    · simp only [backlog, if_false, Prod.mk.injEq] at alloc
      obtain ⟨rfl, rfl⟩ := alloc
      rw [full] at pos
      exact alloc_prefix (by omega) bigger

end Allocation

section SelfCredit

variable {s s' : Sender} {addr : Addr} {out grants : List Packet} {id : UniqReqId}

def Settled (cfg : Config) (s : Sender) (id : UniqReqId) : Prop :=
  unsolicited cfg (s.msg id).totalBytes → (s.msg id).isScheduled = false

/-- What the first loop does to the sender, besides the cursor of the inactive messages. -/
structure Credits (cfg : Config) (addr : Addr) (out grants : List Packet) (s s' : Sender) : Prop where
  steps : SendSide.Steps cfg (s.side addr out grants) (s'.side addr out grants)
  queues : s'.Queues
  inactive : s'.outboundInactive.msgs = s.outboundInactive.msgs
  remotes : s'.remotes.keys = s.remotes.keys
  keys : s'.outbound.keys = s.outbound.keys
  settled : ∀ other, Settled cfg s other → Settled cfg s' other

theorem selfCredit_ok (queues : s.Queues) (inv : SendInv cfg (s.side addr out grants))
    (inside : id ∈ s.outboundInactive.msgs) (run : selfCredit cfg id s = .ok s') :
    Credits cfg addr out grants s s' ∧ s'.outboundInactive = s.outboundInactive ∧ Settled cfg s' id := by
  obtain ⟨member, idle⟩ := (queues.inactive id).mp inside
  have ok := inv.msg id member
  have known := queues.remote id member
  unfold selfCredit at run
  by_cases due : unsolicited cfg (s.msg id).totalBytes ∧ (s.msg id).usnsolCheckDone = false
  · unfold assert at run
    simp only [due, and_self, if_true, Lib.bind_eq_ok, Lib.require_eq_ok, Lib.pure_eq_ok, exists_and_left,
      exists_const] at run
    obtain ⟨pos, -, rfl⟩ := run
    have some_data : 0 < (s.msg id).totalBytes := ok.total_pos
    obtain ⟨d, pre, data, wire⟩ := selfAllocation_prefix some_data (Prod.eta _).symm pos
    rw [wire, data]
    have side : (s.takeCredit cfg id (ethernet.wire d) d).side addr out grants =
        (s.side addr out grants).selfCredit cfg id d := by
      have pool : (s.takeCredit cfg id (ethernet.wire d) d).pool =
          Function.update s.pool (s.msg id).remoteAddr (s.pool (s.msg id).remoteAddr + ethernet.wire d) := by
        rw [pool_eq known]
        exact pool_modifyRcvr known _
      unfold side
      rw [pool]
      rfl
    have msg : ∀ other, (s.takeCredit cfg id (ethernet.wire d) d).msg other =
        if other = id then (s.msg id).credited cfg (ethernet.wire d) d else s.msg other :=
      fun other => Store.get_modify s.outbound id other (·.credited cfg (ethernet.wire d) d)
    refine ⟨⟨?_, ?_, rfl, rfl, rfl, ?_⟩, rfl, fun _ => ?_⟩
    · rw [side]
      exact .single (.selfCredit id d member idle due.2 due.1 pre)
    · exact ((queues.addCredit (s.msg id).remoteAddr (ethernet.wire d) d).modifyMsg id
        (·.credited cfg (ethernet.wire d) d) rfl rfl rfl).congr rfl rfl rfl
    · intro other settled
      unfold Settled
      rw [msg]
      split
      · exact fun _ => rfl
      · exact settled
    · rw [msg, if_pos rfl]; rfl
  · simp only [due, if_false, Lib.pure_eq_ok] at run
    subst run
    refine ⟨⟨.refl, queues, rfl, rfl, rfl, fun _ h => h⟩, rfl, fun large => ?_⟩
    have checked : (s.msg id).usnsolCheckDone = true := by
      by_contra unchecked
      exact due ⟨large, by simpa using unchecked⟩
    have := ok.checked
    rwa [show (s.side addr out grants).msgs.get id = s.msg id from rfl, checked] at this

theorem selfCreditLoop_ok {turns : ℕ} (queues : s.Queues) (inv : SendInv cfg (s.side addr out grants))
    (run : selfCreditLoop cfg turns s = .ok s') :
    Credits cfg addr out grants s s' ∧ ∀ id ∈ s.outboundInactive.upcoming.take turns, Settled cfg s' id := by
  induction turns generalizing s with
  | zero =>
    simp only [selfCreditLoop, Lib.pure_eq_ok] at run
    subst run
    exact ⟨⟨.refl, queues, rfl, rfl, rfl, fun _ h => h⟩, by simp⟩
  | succ turns ih =>
    unfold selfCreditLoop at run
    split at run
    · cases run
    · next id inactive step =>
      simp only [Lib.bind_eq_ok] at run
      obtain ⟨s1, one, rest⟩ := run
      obtain ⟨msgs, behind, now, later⟩ := RoundRobin.next_spec step
      have inside : id ∈ inactive.msgs := by
        rw [msgs, ← RoundRobin.mem_upcoming, now]; exact List.mem_cons_self
      obtain ⟨first, cursor, settled⟩ := selfCredit_ok (queues.advance msgs)
        (show SendInv cfg (Sender.side _ addr out grants) from inv) inside one
      obtain ⟨others, visited⟩ := ih first.queues (inv.steps first.steps) rest
      refine ⟨⟨first.steps.trans others.steps, others.queues, (others.inactive.trans first.inactive).trans msgs,
        others.remotes.trans first.remotes, others.keys.trans first.keys, fun other h =>
          others.settled other (first.settled other h)⟩, ?_⟩
      rw [now, List.take_succ_cons]
      intro other member
      rcases List.mem_cons.mp member with rfl | member
      · exact others.settled _ settled
      · refine visited other ?_
        rw [cursor, later]
        exact ((List.prefix_append behind [id]).take turns).subset member

end SelfCredit

section Enqueue

variable {s s' : Sender} {id : UniqReqId}

structure Enqueues (id : UniqReqId) (s s' : Sender) : Prop where
  queues : s'.Queues
  outbound : s'.outbound = s.outbound.modify id fun m => { m with active := true }
  upcoming : s'.outboundInactive.upcoming = s.outboundInactive.upcoming.erase id
  remotes : s'.remotes.keys = s.remotes.keys
  pool : s'.pool = s.pool

theorem rcvr_enqueue (s : Sender) (id : UniqReqId) (inactive : RoundRobin UniqReqId) (addr : Addr) :
    (s.enqueue id inactive).rcvr addr = if addr = (s.msg id).remoteAddr then
      { s.rcvr addr with outMsgs := (s.rcvr addr).outMsgs.append id } else s.rcvr addr := by
  refine (Store.get_modify s.remotes (s.msg id).remoteAddr addr
    fun rs => { rs with outMsgs := rs.outMsgs.append id }).trans ?_
  split
  · next same => rw [same]; rfl
  · rfl

theorem moveToReceiver_ok (queues : s.Queues) (inside : id ∈ s.outboundInactive.msgs)
    (unsent : 0 < (s.msg id).unsentBytes) (run : s.moveToReceiver id = .ok s') : Enqueues id s s' := by
  obtain ⟨member, idle⟩ := (queues.inactive id).mp inside
  have known := queues.remote id member
  unfold moveToReceiver at run
  cases removed : s.outboundInactive.remove id with
  | none => rw [removed] at run; cases run
  | some inactive =>
    rw [removed] at run
    simp only [Lib.pure_eq_ok] at run
    subst run
    obtain ⟨upcoming, msgs⟩ := RoundRobin.remove_spec queues.inactive_nodup removed
    have msg : ∀ other, (s.enqueue id inactive).msg other =
        if other = id then { s.msg id with active := true } else s.msg other :=
      fun other => Store.get_modify s.outbound id other fun m => { m with active := true }
    have rcvr := rcvr_enqueue s id inactive
    refine ⟨?_, rfl, upcoming, rfl, ?_⟩
    · constructor
      case inactive_nodup =>
        change inactive.msgs.Nodup
        rw [msgs]
        exact queues.inactive_nodup.erase id
      case inactive =>
        intro other
        change other ∈ inactive.msgs ↔ other ∈ s.outbound.keys ∧ _
        rw [msgs, queues.inactive_nodup.mem_erase_iff, queues.inactive other, msg]
        by_cases same : other = id
        · subst same; simp
        · simp [same]
      case queue_nodup =>
        intro addr here
        rw [rcvr]
        split
        · rw [RoundRobin.msgs_append, List.nodup_append]
          refine ⟨queues.queue_nodup addr here, List.nodup_singleton id, fun a old b new same => ?_⟩
          rw [List.mem_singleton.mp new] at same
          have := ((queues.queue addr here a).mp old).2.1
          rw [same, idle] at this
          cases this
        · exact queues.queue_nodup addr here
      case queue =>
        intro addr here other
        have old := queues.queue addr here other
        have keys : (s.enqueue id inactive).outbound.keys = s.outbound.keys := rfl
        rw [msg, rcvr, keys]
        by_cases same : other = id
        · subst same
          rw [if_pos rfl]
          split
          · next towards => simp [member, unsent, towards]
          · next away =>
            rw [old]
            constructor
            · intro h; exact absurd h.2.2.2.symm away
            · intro h; exact absurd h.2.2.2.symm away
        · rw [if_neg same]
          split
          · rw [RoundRobin.msgs_append, List.mem_append, List.mem_singleton, old]
            simp [same]
          · exact old
      case remote =>
        intro other inside
        rw [msg]
        split
        · exact known
        · exact queues.remote other inside
    · funext addr
      unfold pool
      rw [rcvr]
      have keys : (s.enqueue id inactive).remotes.keys = s.remotes.keys := rfl
      rw [keys]
      split
      · split <;> rfl
      · rfl

theorem moveToReceiver_succeeds (inside : id ∈ s.outboundInactive.msgs) : ∃ s', s.moveToReceiver id = .ok s' := by
  obtain ⟨inactive, removed⟩ := RoundRobin.remove_isSome.mpr inside
  unfold moveToReceiver
  rw [removed]
  exact ⟨_, rfl⟩

end Enqueue

end Sender

namespace Host

variable {env : Env} {h h' : Host} {id : UniqReqId}

/-- The inactive messages that come next, all of which have credited themselves if they should. -/
def Ready (cfg : Config) (h : Host) : Prop := ∀ id ∈ h.snd.outboundInactive.msgs, Sender.Settled cfg h.snd id

theorem settled_of_outbound {s s' : Sender} {change : OutboundMsgState → OutboundMsgState}
    (outbound : s'.outbound = s.outbound.modify id change)
    (total : (change (s.msg id)).totalBytes = (s.msg id).totalBytes)
    (scheduled : (change (s.msg id)).isScheduled = (s.msg id).isScheduled) (other : UniqReqId)
    (settled : Sender.Settled env.cfg s other) : Sender.Settled env.cfg s' other := by
  unfold Sender.Settled Sender.msg at *
  rw [outbound, Store.get_modify]
  split
  · next same => subst same; rw [total, scheduled]; exact settled
  · exact settled

theorem sendGrantReq_ok (run : h.sendGrantReq env id = .ok h') :
    ∃ p, Emits (h.snd.msg id).grantReqHdr grantReqMsgSize (h.snd.msg id).remoteAddr h p ∧
      h' = { h.emit p with
        dataPacerBacklog := h'.dataPacerBacklog
        snd := { h.snd.modifyMsg id fun m => { m with sentAnouncement := true } with
          creditDataRequested := h.snd.creditDataRequested + (h.snd.msg id).totalBytes } } := by
  unfold sendGrantReq assert at run
  simp only [Lib.bind_eq_ok, Lib.require_eq_ok, Lib.pure_eq_ok, exists_and_left, exists_const] at run
  obtain ⟨-, h1, forward, -, rfl⟩ := run
  obtain ⟨p, emits, rfl⟩ := forwardToTransport_ok forward (by decide) (by decide)
  exact ⟨p, emits, rfl⟩

theorem activate_ok (ok : SendOk env.cfg h) (inside : id ∈ h.snd.outboundInactive.msgs)
    (settled : Sender.Settled env.cfg h.snd id) (run : h.activate env id = .ok h') :
    Sends env.cfg h h' ∧ h'.snd.outboundInactive.upcoming = h.snd.outboundInactive.upcoming.erase id ∧
      ∀ other, Sender.Settled env.cfg h.snd other → Sender.Settled env.cfg h'.snd other := by
  obtain ⟨member, idle⟩ := (ok.queues.inactive id).mp inside
  have msgOk := ok.inv.msg id member
  have unannounced : (h.snd.msg id).sentAnouncement = false := (msgOk.idle idle).1
  have unsent : 0 < (h.snd.msg id).unsentBytes := by
    rw [show (h.snd.msg id).unsentBytes = (h.snd.msg id).totalBytes from (msgOk.idle idle).2]
    exact msgOk.total_pos
  unfold activate assert at run
  rw [if_neg (by simp [unannounced])] at run
  simp only [Lib.bind_eq_ok, Lib.require_eq_ok, exists_and_left, exists_const] at run
  obtain ⟨-, run⟩ := run
  -- the first packet announces an unscheduled message, a GRANT_REQ any other
  cases scheduled : (h.snd.msg id).isScheduled with
  | false =>
    simp only [scheduled, Bool.false_eq_true, if_false, Lib.bind_eq_ok, Lib.pure_eq_ok, exists_eq_left'] at run
    obtain ⟨snd, moved, rfl⟩ := run
    have moves := Sender.moveToReceiver_ok ok.queues inside unsent moved
    have side : ({ h with snd } : Host).sendSide = h.sendSide.activate id := by
      unfold sendSide Sender.side
      rw [moves.outbound, moves.pool]
      rfl
    have steps : SendSide.Steps env.cfg h.sendSide ({ h with snd } : Host).sendSide := by
      rw [side]; exact .single (.activate id member idle scheduled)
    refine ⟨⟨rfl, rfl, rfl, rfl, ⟨[], by simp⟩, moves.remotes, by rw [moves.outbound]; rfl,
      ok.quiet moves.queues steps rfl rfl rfl, steps⟩,
      moves.upcoming, ?_⟩
    exact settled_of_outbound moves.outbound rfl rfl
  | true =>
    simp only [scheduled, if_true, Lib.bind_eq_ok, Lib.pure_eq_ok] at run
    obtain ⟨h1, request, snd, moved, rfl⟩ := run
    obtain ⟨p, emits, requested⟩ := sendGrantReq_ok request
    have snd1 : h1.snd = { h.snd.modifyMsg id fun m => { m with sentAnouncement := true } with
        creditDataRequested := h.snd.creditDataRequested + (h.snd.msg id).totalBytes } := by rw [requested]
    have outbound1 : h1.snd.outbound = h.snd.outbound.modify id fun m => { m with sentAnouncement := true } := by
      rw [snd1]; rfl
    have pool1 : h1.snd.pool = h.snd.pool := by rw [snd1]; rfl
    have queues1 : h1.snd.Queues := by
      rw [snd1]
      exact (ok.queues.modifyMsg id (fun m => { m with sentAnouncement := true }) rfl rfl rfl).congr
        rfl rfl rfl
    have inside1 : id ∈ h1.snd.outboundInactive.msgs := by rw [snd1]; exact inside
    have unsent1 : 0 < (h1.snd.msg id).unsentBytes := by
      unfold Sender.msg; rw [outbound1, Store.get_modify_self]; exact unsent
    have moves := Sender.moveToReceiver_ok queues1 inside1 unsent1 moved
    have outbound : snd.outbound =
        h.snd.outbound.modify id fun m => { m with sentAnouncement := true, active := true } := by
      rw [moves.outbound, outbound1, Store.modify_modify]
    have kind : p.isGrant = false := by
      have type : p.hdr.msgType = .grantReq := emits.carries.msgType
      simp [Packet.isGrant, type]
    have side : ({ h1 with snd } : Host).sendSide = h.sendSide.announce id p := by
      unfold sendSide Sender.side
      rw [outbound, moves.pool, pool1]
      have sent : h1.sent = h.sent ++ [p] := by rw [requested]; rfl
      have addr : h1.thisAddr = h.thisAddr := by rw [requested]; rfl
      have rcvd : h1.rcvd = h.rcvd := by rw [requested]; rfl
      dsimp only
      rw [sent, addr, rcvd, List.filter_append]
      simp [SendSide.announce, kind]
    have large : ¬ Sender.unsolicited env.cfg (h.snd.msg id).totalBytes := fun h' => by
      rw [settled h'] at scheduled; cases scheduled
    have steps : SendSide.Steps env.cfg h.sendSide ({ h1 with snd } : Host).sendSide := by
      rw [side]; exact .single (.announce id p member idle scheduled large emits.carries)
    have numbered : ({ h1 with snd } : Host).Numbered := by
      rw [requested]
      exact ⟨(ok.numbered.emit emits).src, (ok.numbered.emit emits).seqno⟩
    refine ⟨?_, ?_, ?_⟩
    · exact {
        thisAddr := by rw [requested]; rfl
        rcv := by rw [requested]; rfl
        rpc := by rw [requested]; rfl
        rcvd := by rw [requested]; rfl
        sent := ⟨[p], by rw [requested]; rfl, by simpa using kind⟩
        remotes := by rw [moves.remotes, snd1]; rfl
        keys := by dsimp only; rw [outbound]; rfl
        ok := {
          queues := moves.queues
          inv := ok.inv.steps steps
          covered := SendInv.covered_steps ok.inv ok.covered steps
          numbered := numbered }
        steps := steps }
    · rw [moves.upcoming, snd1]; rfl
    · exact settled_of_outbound outbound rfl rfl

/-- A turn of the second loop: the next inactive message leaves, the others stay in order. -/
theorem activate_turn {inactive : RoundRobin UniqReqId} (ok : SendOk env.cfg h) (ready : h.Ready env.cfg)
    (step : h.snd.outboundInactive.next = some (id, inactive))
    (run : ({ h with snd := { h.snd with outboundInactive := inactive } } : Host).activate env id = .ok h') :
    Sends env.cfg h h' ∧ h'.Ready env.cfg ∧ h.snd.outboundInactive.upcoming =
    id :: h'.snd.outboundInactive.upcoming := by
  obtain ⟨msgs, behind, now, later⟩ := RoundRobin.next_spec step
  have inside : id ∈ inactive.msgs := by
    rw [msgs, ← RoundRobin.mem_upcoming, now]; exact List.mem_cons_self
  have moved : SendOk env.cfg { h with snd := { h.snd with outboundInactive := inactive } } :=
    ok.quiet (ok.queues.advance msgs) .refl rfl rfl rfl
  obtain ⟨first, upcoming, settled⟩ := activate_ok moved inside (ready id (msgs ▸ inside)) run
  have nodup : (behind ++ [id]).Nodup := by
    rw [← later]
    exact inactive.upcoming_perm.nodup_iff.mpr (msgs ▸ ok.queues.inactive_nodup)
  have fresh : id ∉ behind := fun h => (List.nodup_append.mp nodup).2.2 id h id (List.mem_singleton_self id) rfl
  have upcoming : h'.snd.outboundInactive.upcoming = behind := by
    rw [upcoming]
    change inactive.upcoming.erase id = behind
    rw [later, List.erase_append_right _ fresh, List.erase_cons_head, List.append_nil]
  have start : Sends env.cfg h { h with snd := { h.snd with outboundInactive := inactive } } :=
    { Sends.refl ok with ok := moved }
  refine ⟨start.trans first, fun other member => settled other (ready other ?_), by rw [now, upcoming]⟩
  rw [← RoundRobin.mem_upcoming, now]
  rw [← RoundRobin.mem_upcoming, upcoming] at member
  exact List.mem_cons_of_mem _ member

theorem activateLoop_ok {turns : ℕ} (ok : SendOk env.cfg h) (ready : h.Ready env.cfg)
    (run : h.activateLoop env turns = .ok h') :
    Sends env.cfg h h' ∧ h'.snd.outboundInactive.upcoming = h.snd.outboundInactive.upcoming.drop turns := by
  induction turns generalizing h with
  | zero =>
    simp only [activateLoop, Lib.pure_eq_ok] at run
    subst run
    exact ⟨.refl ok, rfl⟩
  | succ turns ih =>
    unfold activateLoop at run
    split at run
    · cases run
    · next id inactive step =>
      simp only [Lib.bind_eq_ok] at run
      obtain ⟨h1, one, rest⟩ := run
      obtain ⟨first, ready1, upcoming⟩ := activate_turn ok ready step one
      obtain ⟨others, rest⟩ := ih first.ok ready1 rest
      exact ⟨first.trans others, by rw [rest, upcoming, List.drop_succ_cons]⟩

theorem selfCreditLoop_ready {snd : Sender} (ok : SendOk env.cfg h)
    (run : Sender.selfCreditLoop env.cfg h.snd.outboundInactive.size h.snd = .ok snd) :
    Sends env.cfg h { h with snd } ∧ ({ h with snd } : Host).Ready env.cfg := by
  obtain ⟨first, settled⟩ := Sender.selfCreditLoop_ok ok.queues ok.inv run
  have ok1 : SendOk env.cfg { h with snd } := ok.quiet first.queues first.steps rfl rfl rfl
  refine ⟨⟨rfl, rfl, rfl, rfl, ⟨[], by simp⟩, first.remotes, first.keys, ok1, first.steps⟩, fun id inside =>
    settled id ?_⟩
  change id ∈ snd.outboundInactive.msgs at inside
  rw [first.inactive, ← RoundRobin.mem_upcoming] at inside
  rwa [RoundRobin.take_upcoming]

theorem announce_ok (ok : SendOk env.cfg h) (run : h.announce env = .ok h') :
    Sends env.cfg h h' ∧ h'.snd.outboundInactive.msgs = [] := by
  unfold announce at run
  simp only [Lib.bind_eq_ok] at run
  obtain ⟨snd, credits, activates⟩ := run
  obtain ⟨first, ready⟩ := selfCreditLoop_ready ok credits
  obtain ⟨second, upcoming⟩ := activateLoop_ok first.ok ready activates
  refine ⟨first.trans second, ?_⟩
  rw [← RoundRobin.upcoming_eq_nil, upcoming]
  exact List.drop_eq_nil_of_le (by rw [RoundRobin.length_upcoming])

theorem announce_nothing (considered : h.snd.outboundInactive.msgs = []) : h.announce env = .ok h := by
  have size : h.snd.outboundInactive.size = 0 := List.length_eq_zero_iff.mpr considered
  have credits : Sender.selfCreditLoop env.cfg 0 h.snd = .ok h.snd := rfl
  unfold announce
  rw [size, credits, Lib.ok_bind, size]
  rfl

end Host

end PhantomPass
