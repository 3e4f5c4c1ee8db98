import PhantomPass.Credit.RecvLedger
import PhantomPass.Refinement.Sending

/-! The receiver as a receiving half: every granting loop, under any policy, is a
run of it, and does nothing to the sender. -/

set_option autoImplicit false

namespace PhantomPass

open Lib (RoundRobin Store)

namespace InboundMsgState

variable {m : InboundMsgState}

theorem creditNeeded_eq (le : m.dataBytesGranted ≤ m.dataBytesExpected) :
    m.creditNeededData = m.nextData ∧ m.creditNeeded = ethernet.cost m.nextData ∧
      m.creditPadding = ethernet.cost m.nextData - (m.nextData + wireOverhead : ℕ) := by
  have data : m.creditNeededData = m.nextData := by
    simp only [creditNeededData, nextData, ethernet, maxR2p2Payload]
    omega
  refine ⟨data, ?_, ?_⟩
  · simp only [creditNeeded, data, ethernet, Lib.Framing.cost, wireOverhead, r2p2AllHeadersSize, interPktGapSize,
      ethernetPreambleSize, minEthernetFrameOnWire]
    push_cast; omega
  · simp only [creditPadding, data, ethernet, Lib.Framing.cost, wireOverhead, r2p2AllHeadersSize, interPktGapSize,
      ethernetPreambleSize, minEthernetFrameOnWire]
    push_cast; omega

end InboundMsgState

namespace Receiver

variable (cfg : Config) (r : Receiver)

def owed (addr : Addr) : ℤ := if addr ∈ r.senderState.keys then cfg.maxSrpb - (r.sender addr).srpbBytes else 0

/-- The receiving half that a receiver is, with what arrived and the GRANTs that were sent. -/
def side (addr : Addr) (arrived grants : List Packet) : RecvSide where
  addr := addr
  objs := r.inboundObjs
  live := r.inbound.msgs.toFinset
  senders := r.senderState.keys
  owed := r.owed cfg
  lent := cfg.budgetBytes - r.budgetBytes
  granted := r.creditGranted
  replenished := r.creditReplenished
  requested := r.creditDataRequestRcvd
  dataGranted := r.creditDataGranted
  arrived := arrived
  grants := grants

theorem sender_modifySender (addr other : Addr) (change : SenderState → SenderState) :
    (r.modifySender addr change).sender other = if other = addr then change (r.sender addr) else r.sender other :=
  Store.get_modify ..

theorem owed_modifySender {addr : Addr} (known : addr ∈ r.senderState.keys) {change : SenderState → SenderState}
    {credit : ℤ} (taken : (change (r.sender addr)).srpbBytes = (r.sender addr).srpbBytes - credit) :
    (r.modifySender addr change).owed cfg = Function.update (r.owed cfg) addr (r.owed cfg addr + credit) := by
  funext other
  have keys : (r.modifySender addr change).senderState.keys = r.senderState.keys := rfl
  unfold owed
  rw [keys, sender_modifySender]
  by_cases same : other = addr
  · subst same
    rw [Function.update_self, if_pos known, if_pos known, if_pos rfl, taken]
    ring
  · rw [Function.update_of_ne same, if_neg same]

end Receiver

namespace Host

variable {env : Env} {h h' : Host} {id : UniqReqId} {now : Time}

/-- What the receiving half counts as arrived: no GRANTs, and no replies that pass it. -/
def arrived (h : Host) : List Packet := h.rcvd.filter fun p => !p.isGrant && !p.isSingleReply

def recvSide (cfg : Config) (h : Host) : RecvSide := h.rcv.side cfg h.thisAddr h.arrived (h.sent.filter Packet.isGrant)

structure RecvOk (cfg : Config) (h : Host) : Prop where
  inv : RecvInv (h.recvSide cfg)
  nodup : h.rcv.inbound.msgs.Nodup

structure HalvesOk (cfg : Config) (h : Host) : Prop where
  send : SendOk cfg h
  recv : RecvOk cfg h

def windows (h : Host) (addr : Addr) : SenderState := { h.rcv.sender addr with srpbBytes := 0 }

/-- A host that grants credit leaves its other parts alone. -/
structure Grants (cfg : Config) (h h' : Host) : Prop where
  thisAddr : h'.thisAddr = h.thisAddr
  snd : h'.snd = h.snd
  rpc : h'.rpc = h.rpc
  rcvd : h'.rcvd = h.rcvd
  sent : ∃ more, h'.sent = h.sent ++ more ∧ ∀ p ∈ more, p.isGrant = true
  senders : h'.rcv.senderState.keys = h.rcv.senderState.keys
  windows : h'.windows = h.windows
  ok : HalvesOk cfg h'
  steps : RecvSide.Steps (h.recvSide cfg) (h'.recvSide cfg)

namespace Grants

variable {cfg : Config} {h1 h2 : Host}

theorem refl (ok : HalvesOk cfg h) : Grants cfg h h := ⟨rfl, rfl, rfl, rfl, ⟨[], by simp⟩, rfl, rfl, ok, .refl⟩

theorem trans (first : Grants cfg h h1) (second : Grants cfg h1 h2) : Grants cfg h h2 := by
  obtain ⟨more, sent, kinds⟩ := first.sent
  obtain ⟨more', sent', kinds'⟩ := second.sent
  exact {
    thisAddr := second.thisAddr.trans first.thisAddr
    snd := second.snd.trans first.snd
    rpc := second.rpc.trans first.rpc
    rcvd := second.rcvd.trans first.rcvd
    sent := ⟨more ++ more', by rw [sent', sent, List.append_assoc], fun p inside => by
      rcases List.mem_append.mp inside with old | new
      · exact kinds p old
      · exact kinds' p new⟩
    senders := second.senders.trans first.senders
    windows := second.windows.trans first.windows
    ok := second.ok
    steps := first.steps.trans second.steps }

end Grants

theorem SendOk.same {cfg : Config} (ok : SendOk cfg h) (snd : h'.snd = h.snd) (addr : h'.thisAddr = h.thisAddr)
    (rcvd : h'.rcvd = h.rcvd) (numbered : h'.Numbered) (more : List Packet) (sent : h'.sent = h.sent ++ more)
    (grants : ∀ p ∈ more, p.isGrant = true) : SendOk cfg h' := by
  have side : h'.sendSide = h.sendSide := by
    unfold sendSide
    have none : more.filter (fun p => !p.isGrant) = [] := List.filter_eq_nil_iff.mpr fun p inside => by
      simp [grants p inside]
    rw [snd, addr, rcvd, sent, List.filter_append, none, List.append_nil]
  exact ⟨by rw [snd]; exact ok.queues, by rw [side]; exact ok.inv, by rw [side]; exact ok.covered, numbered⟩

theorem removeInbound_ok {rcv : Receiver} (ok : HalvesOk env.cfg h) (inside : id ∈ h.rcv.inbound.msgs)
    (complete : (h.rcv.msg id).Complete) (run : h.rcv.removeInbound id = .ok rcv) :
    Grants env.cfg h { h with rcv } ∧ rcv.inbound.msgs = h.rcv.inbound.msgs.erase id ∧
      rcv.inbound.upcoming = h.rcv.inbound.upcoming.erase id := by
  unfold Receiver.removeInbound at run
  cases removed : h.rcv.inbound.remove id with
  | none => rw [removed] at run; cases run
  | some inbound =>
    rw [removed] at run
    simp only [Lib.pure_eq_ok] at run
    subst run
    obtain ⟨upcoming, msgs⟩ := RoundRobin.remove_spec ok.recv.nodup removed
    have side : ({ h with rcv := { h.rcv with inbound } } : Host).recvSide env.cfg =
      (h.recvSide env.cfg).retire id := by
      unfold recvSide Receiver.side RecvSide.retire
      simp only [RecvSide.mk.injEq, true_and, and_true]
      refine ⟨Finset.ext fun other => ?_, rfl, rfl⟩
      rw [List.mem_toFinset, msgs, ok.recv.nodup.mem_erase_iff, Finset.mem_erase, List.mem_toFinset]
    have step : RecvSide.Step (h.recvSide env.cfg) ((h.recvSide env.cfg).retire id) :=
      .retire id (List.mem_toFinset.mpr inside) complete
    refine ⟨⟨rfl, rfl, rfl, rfl, ⟨[], by simp⟩, rfl, rfl, ⟨?_, ?_⟩, ?_⟩, msgs, upcoming⟩
    · exact ok.send.same rfl rfl rfl ⟨ok.send.numbered.src, ok.send.numbered.seqno⟩ []
        (List.append_nil _).symm (by simp)
    · exact ⟨by rw [side]; exact ok.recv.inv.step step, by dsimp only; rw [msgs]; exact ok.recv.nodup.erase id⟩
    · rw [side]; exact .single step

section Issue

def granting (id : UniqReqId) (h : Host) : Host :=
  (h.chargeGrant id).countGrant id (h.rcv.msg id).creditNeeded (h.rcv.msg id).creditPadding

theorem objs_granting (le : (h.rcv.msg id).dataBytesGranted ≤ (h.rcv.msg id).dataBytesExpected) :
    (h.granting id).rcv.inboundObjs = h.rcv.inboundObjs.modify id InboundMsgState.afterGrant := by
  obtain ⟨data, credit, padding⟩ := InboundMsgState.creditNeeded_eq le
  refine (Store.modify_modify h.rcv.inboundObjs id
    (fun m => { m with dataBytesGranted := m.dataBytesGranted + (h.rcv.msg id).creditNeededData.toNat })
    (fun m => { m with
      seq := m.seq + ((h.rcv.msg id).creditNeeded - (h.rcv.msg id).creditPadding - r2p2AllHeadersSize -
        interPktGapSize - ethernetPreambleSize) })).trans (Store.modify_congr _ ?_)
  have seq : (h.rcv.msg id).creditNeeded - (h.rcv.msg id).creditPadding - r2p2AllHeadersSize - interPktGapSize -
      ethernetPreambleSize = (h.rcv.msg id).nextData := by
    rw [credit, padding]
    simp only [wireOverhead]
    push_cast; ring
  simp only [seq, data, Int.toNat_natCast]
  rfl

theorem msg_granting (le : (h.rcv.msg id).dataBytesGranted ≤ (h.rcv.msg id).dataBytesExpected) :
    (h.granting id).rcv.msg id = (h.rcv.msg id).afterGrant := by
  unfold Receiver.msg
  rw [objs_granting le]
  exact Store.get_modify_self ..

theorem sender_granting (h : Host) (id : UniqReqId) (addr : Addr) : (h.granting id).rcv.sender addr =
    if addr = (h.rcv.msg id).remoteAddr then
      { h.rcv.sender addr with srpbBytes := (h.rcv.sender addr).srpbBytes - (h.rcv.msg id).creditNeeded }
    else h.rcv.sender addr := by
  refine (Store.get_modify h.rcv.senderState (h.rcv.msg id).remoteAddr addr fun st =>
    { st with srpbBytes := st.srpbBytes - (h.rcv.msg id).creditNeeded }).trans ?_
  split
  · next same => rw [same]; rfl
  · rfl

theorem recvSide_granting (env : Env) {p : Packet} (kind : p.isGrant = true)
    (le : (h.rcv.msg id).dataBytesGranted ≤ (h.rcv.msg id).dataBytesExpected)
    (known : (h.rcv.msg id).remoteAddr ∈ h.rcv.senderState.keys) :
    ((h.granting id).emit p).recvSide env.cfg = (h.recvSide env.cfg).grant id p := by
  obtain ⟨data, credit, -⟩ := InboundMsgState.creditNeeded_eq le
  have owed : (h.granting id).rcv.owed env.cfg = Function.update (h.rcv.owed env.cfg) (h.rcv.msg id).remoteAddr
      (h.rcv.owed env.cfg (h.rcv.msg id).remoteAddr + ethernet.cost (h.rcv.msg id).nextData) := by
    rw [← credit]
    exact Receiver.owed_modifySender env.cfg h.rcv known rfl
  have sent : ((h.granting id).emit p).sent.filter Packet.isGrant = h.sent.filter Packet.isGrant ++ [p] := by
    change (h.sent ++ [p]).filter _ = _
    rw [List.filter_append]
    simp [kind]
  have lent : env.cfg.budgetBytes - (h.granting id).rcv.budgetBytes =
      env.cfg.budgetBytes - h.rcv.budgetBytes + ethernet.cost (h.rcv.msg id).nextData := by
    rw [← credit]
    change env.cfg.budgetBytes - (h.rcv.budgetBytes - (h.rcv.msg id).creditNeeded) = _
    ring
  have granted : (h.granting id).rcv.creditGranted = h.rcv.creditGranted + ethernet.cost (h.rcv.msg id).nextData := by
    rw [← credit]; rfl
  have dataGranted : (h.granting id).rcv.creditDataGranted = h.rcv.creditDataGranted + (h.rcv.msg id).nextData := by
    rw [← data]; rfl
  unfold recvSide Receiver.side RecvSide.grant
  simp only [RecvSide.mk.injEq]
  exact ⟨rfl, objs_granting le, rfl, rfl, owed, lent, granted, rfl, rfl, dataGranted, rfl, sent⟩

theorem issueGrant_ok (ok : HalvesOk env.cfg h) (inside : id ∈ h.rcv.inbound.msgs)
    (info : (h.rcv.msg id).receivedMsgInfo = true)
    (needs : (h.rcv.msg id).dataBytesGranted < (h.rcv.msg id).dataBytesExpected)
    (run : h.issueGrant env now id = .ok h') :
    Grants env.cfg h h' ∧ h'.rcv.inbound = h.rcv.inbound ∧
      (h.Room env.cfg (h.rcv.msg id) → ∃ p, h'.sent = h.sent ++ [p]) := by
  unfold issueGrant at run
  dsimp only at run
  by_cases room : h.Room env.cfg (h.rcv.msg id)
  · rw [if_pos room] at run
    unfold forwardGrant assert at run
    simp only [Lib.bind_eq_ok] at run
    obtain ⟨-, -, -, -, -, -, forward⟩ := run
    have le := Nat.le_of_lt needs
    obtain ⟨data, credit, padding⟩ := InboundMsgState.creditNeeded_eq le
    obtain ⟨p, emits, rfl⟩ := forwardToTransport_ok (h := h.granting id) forward (by decide) (by decide)
    have known : (h.rcv.msg id).remoteAddr ∈ h.rcv.senderState.keys :=
      ok.recv.inv.remote_met (ok.recv.inv.live id (List.mem_toFinset.mpr inside))
    have carries : p.Carries (grantHdr (h.rcv.msg id).afterGrant (ethernet.cost (h.rcv.msg id).nextData)
        (ethernet.cost (h.rcv.msg id).nextData - ((h.rcv.msg id).nextData + wireOverhead : ℕ)) now)
        grantMsgSize h.thisAddr (h.rcv.msg id).remoteAddr := by
      have carries := emits.carries
      change p.Carries (grantHdr ((h.granting id).rcv.msg id) (h.rcv.msg id).creditNeeded
        (h.rcv.msg id).creditPadding now)
        grantMsgSize h.thisAddr ((h.granting id).rcv.msg id).remoteAddr at carries
      rw [msg_granting le, credit, padding] at carries
      exact carries
    have kind : p.isGrant = true := by
      have type : p.hdr.msgType = .grant := carries.msgType
      unfold Packet.isGrant; rw [type]; rfl
    have side := recvSide_granting env kind le known
    have step : RecvSide.Step (h.recvSide env.cfg) ((h.recvSide env.cfg).grant id p) :=
      .grant id now p (List.mem_toFinset.mpr inside) info needs carries
    have numbered : ((h.granting id).emit p).Numbered :=
      Numbered.emit (h := h.granting id) ⟨ok.send.numbered.src, ok.send.numbered.seqno⟩ emits
    refine ⟨?_, rfl, fun _ => ⟨p, rfl⟩⟩
    exact {
      thisAddr := rfl
      snd := rfl
      rpc := rfl
      rcvd := rfl
      sent := ⟨[p], rfl, by simpa using kind⟩
      senders := rfl
      windows := by
        funext addr
        change ({ (h.granting id).rcv.sender addr with srpbBytes := 0 } : SenderState) = _
        rw [sender_granting]
        split <;> rfl
      ok := {
        send := ok.send.same rfl rfl rfl numbered [p] rfl (by simpa using kind)
        recv := ⟨by rw [side]; exact ok.recv.inv.step step, ok.recv.nodup⟩ }
      steps := by rw [side]; exact .single step }
  · rw [if_neg room, Lib.pure_eq_ok] at run
    subst run
    exact ⟨.refl ok, rfl, fun h => absurd h room⟩

end Issue

section Loops

theorem reorder_ok (ok : HalvesOk env.cfg h) (inbound : RoundRobin UniqReqId)
    (perm : inbound.msgs.Perm h.rcv.inbound.msgs) :
    Grants env.cfg h { h with rcv := { h.rcv with inbound } } := by
  have side : ({ h with rcv := { h.rcv with inbound } } : Host).recvSide env.cfg = h.recvSide env.cfg := by
    unfold recvSide Receiver.side
    simp only [RecvSide.mk.injEq, true_and, and_true]
    exact ⟨Finset.ext fun other => by rw [List.mem_toFinset, List.mem_toFinset, perm.mem_iff], rfl, rfl⟩
  refine ⟨rfl, rfl, rfl, rfl, ⟨[], by simp⟩, rfl, rfl, ⟨?_, ?_⟩, by rw [side]; exact .refl⟩
  · exact ok.send.same rfl rfl rfl ⟨ok.send.numbered.src, ok.send.numbered.seqno⟩ [] (List.append_nil _).symm (by simp)
  · exact ⟨by rw [side]; exact ok.recv.inv, perm.nodup_iff.mpr ok.recv.nodup⟩

theorem pacing_ok (ok : HalvesOk env.cfg h) (backlog : ℤ) (update grant : Time) :
    Grants env.cfg h { h with grantPacerBacklog := backlog, lastGrantPacerUpdate := update, lastGrantTime := grant } :=
  ⟨rfl, rfl, rfl, rfl, ⟨[], by simp⟩, rfl, rfl,
    ⟨ok.send.same rfl rfl rfl ⟨ok.send.numbered.src, ok.send.numbered.seqno⟩ [] (List.append_nil _).symm (by simp),
      ok.recv.inv, ok.recv.nodup⟩, .refl⟩

/-- What is left of the inbound messages when one was looked at. -/
def Retires (id : UniqReqId) (h h' : Host) : Prop :=
  h'.rcv.inbound = h.rcv.inbound ∨ h'.rcv.inbound.upcoming = h.rcv.inbound.upcoming.erase id

variable {result : CreditResult}

theorem grantCredit_ok (ok : HalvesOk env.cfg h) (inside : id ∈ h.rcv.inbound.msgs)
    (info : (h.rcv.msg id).receivedMsgInfo = true)
    (needs : (h.rcv.msg id).dataBytesGranted < (h.rcv.msg id).dataBytesExpected)
    (run : h.grantCredit env now id = .ok (h', result)) : Grants env.cfg h h' ∧ h'.rcv.inbound = h.rcv.inbound := by
  unfold grantCredit assert at run
  simp only [Lib.bind_eq_ok] at run
  obtain ⟨-, -, run⟩ := run
  split at run
  · simp only [Lib.pure_eq_ok, Prod.mk.injEq] at run
    obtain ⟨rfl, -⟩ := run
    exact ⟨.refl ok, rfl⟩
  · simp only [Lib.bind_eq_ok, Lib.pure_eq_ok, Prod.mk.injEq] at run
    obtain ⟨h1, issue, -, -, rfl, -⟩ := run
    obtain ⟨grants, inbound, -⟩ := issueGrant_ok ok inside info needs issue
    exact ⟨grants, inbound⟩

theorem sendCreditPolicyCommon_ok (ok : HalvesOk env.cfg h) (inside : id ∈ h.rcv.inbound.msgs)
    (run : h.sendCreditPolicyCommon env now id = .ok (h', result)) : Grants env.cfg h h' ∧ Retires id h h' := by
  unfold sendCreditPolicyCommon assert at run
  simp only [Lib.bind_eq_ok, Lib.require_eq_ok, exists_and_left, exists_const] at run
  obtain ⟨-, info, run⟩ := run
  split at run
  · next complete =>
    simp only [Lib.bind_eq_ok, Lib.pure_eq_ok, Prod.mk.injEq] at run
    obtain ⟨rcv, remove, rfl, -⟩ := run
    obtain ⟨grants, -, upcoming⟩ := removeInbound_ok ok inside ⟨info, complete⟩ remove
    exact ⟨grants, Or.inr upcoming⟩
  · simp only [Lib.bind_eq_ok, Lib.require_eq_ok, exists_and_left, exists_const] at run
    obtain ⟨-, le, run⟩ := run
    split at run
    · simp only [Lib.pure_eq_ok, Prod.mk.injEq] at run
      obtain ⟨rfl, -⟩ := run
      exact ⟨.refl ok, Or.inl rfl⟩
    · next needs =>
      obtain ⟨grants, inbound⟩ := grantCredit_ok ok inside info (by omega) run
      exact ⟨grants, Or.inl inbound⟩

theorem grantInformed_ok {ret ret' : Option CreditResult} (ok : HalvesOk env.cfg h) (inside : id ∈ h.rcv.inbound.msgs)
    (run : h.grantInformed env now id ret = .ok (h', ret')) : Grants env.cfg h h' ∧ Retires id h h' := by
  unfold grantInformed assert at run
  dsimp only at run
  split at run
  · simp only [Lib.bind_eq_ok, Lib.pure_eq_ok, Prod.mk.injEq] at run
    obtain ⟨-, -, ⟨h1, result⟩, common, rfl, -⟩ := run
    exact sendCreditPolicyCommon_ok ok inside common
  · simp only [Lib.pure_eq_ok, Prod.mk.injEq] at run
    obtain ⟨rfl, -⟩ := run
    exact ⟨.refl ok, Or.inl rfl⟩

theorem tsMsgLoop_ok {turns i : ℕ} {ret : Option CreditResult} (ok : HalvesOk env.cfg h)
    (run : h.tsMsgLoop env now turns i ret = .ok h') : Grants env.cfg h h' := by
  induction turns generalizing h i ret with
  | zero =>
    simp only [tsMsgLoop, Lib.pure_eq_ok] at run
    subst run
    exact .refl ok
  | succ turns ih =>
    unfold tsMsgLoop at run
    split at run
    · rw [Lib.pure_eq_ok] at run
      subst run
      exact .refl ok
    · split at run
      · cases run
      · next id peek =>
        simp only [Lib.bind_eq_ok] at run
        obtain ⟨⟨h1, ret1⟩, informed, run⟩ := run
        have inside : id ∈ h.rcv.inbound.msgs := by
          rw [RoundRobin.peekNext_eq_head] at peek
          exact (RoundRobin.mem_upcoming _ _).mp (List.mem_of_mem_head? peek)
        obtain ⟨first, -⟩ := grantInformed_ok ok inside informed
        dsimp only at run
        split at run
        · rw [Lib.pure_eq_ok] at run
          subst run
          exact first
        · split at run
          · cases run
          · next inbound step =>
            have msgs := (RoundRobin.next_spec step).1
            have moved := reorder_ok first.ok inbound (by rw [msgs])
            exact first.trans (moved.trans (ih moved.ok run))

theorem sortedMsgLoop_ok {turns i : ℕ} {ret : Option CreditResult} (ok : HalvesOk env.cfg h)
    (run : h.sortedMsgLoop env now turns i ret = .ok h') : Grants env.cfg h h' := by
  induction turns generalizing h i ret with
  | zero =>
    simp only [sortedMsgLoop, Lib.pure_eq_ok] at run
    subst run
    exact .refl ok
  | succ turns ih =>
    unfold sortedMsgLoop at run
    split at run
    · rw [Lib.pure_eq_ok] at run
      subst run
      exact .refl ok
    · split at run
      · cases run
      · next id inbound step =>
        simp only [Lib.bind_eq_ok] at run
        obtain ⟨⟨h1, ret1⟩, informed, run⟩ := run
        obtain ⟨msgs, _, upcoming, -⟩ := RoundRobin.next_spec step
        have moved := reorder_ok ok inbound (by rw [msgs])
        have inside : id ∈ inbound.msgs := by
          rw [msgs, ← RoundRobin.mem_upcoming, upcoming]; exact List.mem_cons_self
        obtain ⟨first, -⟩ := grantInformed_ok moved.ok inside informed
        exact moved.trans (first.trans (ih first.ok run))

theorem sendGrantsSorted_ok {key : UniqReqId → ℤ} (ok : HalvesOk env.cfg h)
    (run : h.sendGrantsSorted env now key = .ok h') : Grants env.cfg h h' := by
  unfold sendGrantsSorted at run
  split at run
  · rw [Lib.pure_eq_ok] at run
    subst run
    exact .refl ok
  · have sorted := reorder_ok ok
      ((h.rcv.inbound.reorder (env.plat.sortBy key h.rcv.inbound.msgs) (env.plat.sortBy_perm ..)).reset)
      (env.plat.sortBy_perm ..)
    exact sorted.trans (sortedMsgLoop_ok sorted.ok run)

theorem sendGrants_ok (ok : HalvesOk env.cfg h) (run : h.sendGrants env now = .ok h') : Grants env.cfg h h' := by
  unfold sendGrants at run
  split at run
  · rw [Lib.pure_eq_ok] at run
    subst run
    exact .refl ok
  · dsimp only at run
    have paced :=
      pacing_ok ok ({ h with lastGrantTime := now }.updateGrantBacklog env now).grantPacerBacklog now now
    split at run
    · cases run
    · split at run
      · exact paced.trans (tsMsgLoop_ok paced.ok run)
      · split at run
        · exact paced.trans (sendGrantsSorted_ok paced.ok run)
        · split at run
          · exact paced.trans (sendGrantsSorted_ok paced.ok run)
          · cases run

end Loops

end Host

end PhantomPass
