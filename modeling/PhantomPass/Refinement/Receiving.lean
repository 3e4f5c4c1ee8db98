import PhantomPass.Refinement.Arrival

/-! A packet that arrives, as a step of the two halves of its host: a GRANT goes
to the sending half, a packet of a message to the receiving one. -/

set_option autoImplicit false

namespace PhantomPass

open Lib (RoundRobin Store)

namespace SenderState

variable {cfg : Config} {p : Packet} {stamp : Stamp} {st st' : SenderState}

theorem srpbBytes_update (run : st.update cfg p stamp = .ok st') : st'.srpbBytes = st.srpbBytes := by
  unfold update at run
  simp only [Lib.bind_eq_ok, Lib.pure_eq_ok] at run
  obtain ⟨st1, network, st2, host, rfl⟩ := run
  have first : st1.srpbBytes = st.srpbBytes := by
    unfold updateNwState at network
    simp only [Lib.bind_eq_ok, Lib.pure_eq_ok] at network
    obtain ⟨nw, -, rfl⟩ := network
    rfl
  have second : st2.srpbBytes = st1.srpbBytes := by
    unfold updateSnState at host
    split at host
    · simp only [Lib.bind_eq_ok] at host
      obtain ⟨window, -, host⟩ := host
      split at host
      · cases host
      · rw [Lib.pure_eq_ok] at host
        subst host
        rfl
    · split at host
      · unfold updateMultiBit assert at host
        simp only [Lib.bind_eq_ok, Lib.pure_eq_ok] at host
        obtain ⟨-, -, -, -, -, -, rfl⟩ := host
        rfl
      · cases host
  split
  · exact second.trans first
  · exact second.trans first

end SenderState

namespace Receiver

variable {r : Receiver} {p : Packet}

def current (r : Receiver) (p : Packet) : InboundMsgState :=
  if p.uniqReqId ∈ r.inbound.msgs then r.msg p.uniqReqId else .fresh p

def Tabled (r : Receiver) : Prop := ∀ id ∈ r.inbound.msgs, id ∈ r.inboundObjs.keys

theorem inboundObjs_findOrAdd (tabled : r.Tabled) :
    (r.findOrAdd p).inboundObjs = r.inboundObjs.insert p.uniqReqId (r.current p) := by
  unfold findOrAdd current
  split
  · next inside => exact (Store.insert_get_self _ (tabled _ inside)).symm
  · rfl

theorem msg_findOrAdd (tabled : r.Tabled) : (r.findOrAdd p).msg p.uniqReqId = r.current p := by
  unfold msg
  rw [inboundObjs_findOrAdd tabled, Store.get_insert_self]

theorem findOrAdd_rest (r : Receiver) (p : Packet) :
    (r.findOrAdd p).senderState = r.senderState ∧ (r.findOrAdd p).budgetBytes = r.budgetBytes ∧
      (r.findOrAdd p).creditGranted = r.creditGranted ∧ (r.findOrAdd p).creditReplenished = r.creditReplenished ∧
      (r.findOrAdd p).creditDataRequestRcvd = r.creditDataRequestRcvd ∧
      (r.findOrAdd p).creditDataGranted = r.creditDataGranted := by
  unfold findOrAdd
  split <;> exact ⟨rfl, rfl, rfl, rfl, rfl, rfl⟩

theorem live_findOrAdd (r : Receiver) (p : Packet) :
    (r.findOrAdd p).inbound.msgs.toFinset = insert p.uniqReqId r.inbound.msgs.toFinset := by
  unfold findOrAdd
  split
  · next inside => rw [Finset.insert_eq_of_mem (List.mem_toFinset.mpr inside)]
  · ext other
    simp [or_comm]

theorem inboundObjs_noteFirst (r : Receiver) (p : Packet) : (r.noteFirst p).inboundObjs =
    r.inboundObjs.modify p.uniqReqId fun o => if o.learns p then o.noted p else o := by
  unfold noteFirst
  split
  · next learns =>
    refine Eq.trans ?_ (Store.modify_congr r.inboundObjs (f := (·.noted p)) ?_)
    · unfold note
      dsimp only
      split <;> rfl
    · exact (if_pos learns).symm
  · next knows =>
    have same : r.inboundObjs.modify p.uniqReqId id = r.inboundObjs := by
      unfold Store.modify
      simp
    refine same.symm.trans (Store.modify_congr r.inboundObjs ?_)
    exact (if_neg knows).symm

theorem noteFirst_rest (r : Receiver) (p : Packet) :
    (r.noteFirst p).inbound = r.inbound ∧
      (r.noteFirst p).budgetBytes = r.budgetBytes - (r.msg p.uniqReqId).debit p ∧
      (r.noteFirst p).creditGranted = r.creditGranted + (r.msg p.uniqReqId).debit p ∧
      (r.noteFirst p).creditReplenished = r.creditReplenished ∧
      (r.noteFirst p).creditDataRequestRcvd =
        r.creditDataRequestRcvd + (if (r.msg p.uniqReqId).learns p then (p.hdr.creditReq : ℤ) else 0) ∧
      (r.noteFirst p).creditDataGranted = r.creditDataGranted := by
  unfold noteFirst InboundMsgState.debit note
  by_cases learns : (r.msg p.uniqReqId).learns p = true
  · by_cases unsol : 0 < p.hdr.unsolCredit
    · simp [learns, unsol, debit, modifySender, modifyMsg]
    · simp [learns, unsol, modifyMsg]
  · simp [learns]

theorem senders_noteFirst (r : Receiver) (p : Packet) : (r.noteFirst p).senderState.keys = r.senderState.keys := by
  unfold noteFirst note
  split
  · dsimp only
    split <;> rfl
  · rfl

theorem owed_congr (cfg : Config) {r' : Receiver} (same : r'.senderState = r.senderState) :
    r'.owed cfg = r.owed cfg := by
  unfold owed sender
  rw [same]

theorem owed_noteFirst (cfg : Config) (r : Receiver) (p : Packet)
    (known : (r.msg p.uniqReqId).remoteAddr ∈ r.senderState.keys) : (r.noteFirst p).owed cfg =
      fun addr => r.owed cfg addr + if (r.msg p.uniqReqId).remoteAddr =
      addr then (r.msg p.uniqReqId).debit p else 0 := by
  by_cases learns : (r.msg p.uniqReqId).learns p = true ∧ 0 < p.hdr.unsolCredit
  · obtain ⟨learns, unsol⟩ := learns
    have states : (r.noteFirst p).senderState = (r.modifySender (r.msg p.uniqReqId).remoteAddr fun st =>
        { st with srpbBytes := st.srpbBytes - p.hdr.unsolCredit }).senderState := by
      unfold noteFirst note
      rw [if_pos learns]
      dsimp only
      rw [if_pos unsol]
      have remote : ((r.modifyMsg p.uniqReqId (·.noted p)).msg p.uniqReqId).remoteAddr =
        (r.msg p.uniqReqId).remoteAddr := by
        unfold msg modifyMsg
        dsimp only
        rw [Store.get_modify_self]
        rfl
      unfold debit
      dsimp only
      rw [show ∀ granted, ({ r.modifyMsg p.uniqReqId (·.noted p) with creditDataRequestRcvd := granted } : Receiver).msg
        p.uniqReqId = (r.modifyMsg p.uniqReqId (·.noted p)).msg p.uniqReqId from fun _ => rfl, remote]
      rfl
    have debit : (r.msg p.uniqReqId).debit p = p.hdr.unsolCredit := if_pos ⟨learns, unsol⟩
    rw [owed_congr cfg states, owed_modifySender cfg r known rfl, debit]
    funext addr
    by_cases same : addr = (r.msg p.uniqReqId).remoteAddr
    · rw [same, Function.update_self, if_pos rfl]
    · rw [Function.update_of_ne same, if_neg fun h => same h.symm, add_zero]
  · have states : (r.noteFirst p).senderState = r.senderState := by
      unfold noteFirst note
      split
      · next knows =>
        dsimp only
        rw [if_neg fun unsol => learns ⟨knows, unsol⟩]
        rfl
      · rfl
    have debit : (r.msg p.uniqReqId).debit p = 0 := if_neg learns
    rw [owed_congr cfg states, debit]
    simp

theorem owed_takeData (cfg : Config) (r : Receiver) (p : Packet) (met : p.src ∈ r.senderState.keys) :
    (r.takeData p).owed cfg = fun addr => r.owed cfg addr - if p.src = addr then p.wireCost else 0 := by
  have states : (r.takeData p).senderState =
      (r.modifySender p.src fun st => { st with srpbBytes := st.srpbBytes + p.wireCost }).senderState := rfl
  have back : (r.sender p.src).srpbBytes + p.wireCost = (r.sender p.src).srpbBytes - -p.wireCost := by ring
  rw [owed_congr cfg states, owed_modifySender cfg r met back]
  funext addr
  by_cases same : addr = p.src
  · rw [same, Function.update_self, if_pos rfl, sub_eq_add_neg]
  · rw [Function.update_of_ne same, if_neg fun h => same h.symm, sub_zero]

theorem current_side (cfg : Config) (r : Receiver) (p : Packet) (addr : Addr) (arrived grants : List Packet) :
    (r.side cfg addr arrived grants).current p = r.current p := by
  unfold RecvSide.current current side
  simp only [List.mem_toFinset]
  rfl

theorem side_takeIn (cfg : Config) (tabled : r.Tabled) (known : (r.current p).remoteAddr ∈ r.senderState.keys)
    (met : p.src ∈ r.senderState.keys) (addr : Addr) (arrived grants : List Packet) :
    (r.takeIn p).side cfg addr (arrived ++ [p]) grants = (r.side cfg addr arrived grants).arrive p := by
  have msg := msg_findOrAdd (p := p) tabled
  obtain ⟨states, budget, granted, replenished, requested, dataGranted⟩ := r.findOrAdd_rest p
  obtain ⟨inbound', budget', granted', replenished', requested', dataGranted'⟩ := (r.findOrAdd p).noteFirst_rest p
  have keys' := (r.findOrAdd p).senders_noteFirst p
  have owed' := (r.findOrAdd p).owed_noteFirst cfg p (by rw [msg, states]; exact known)
  have objs' : ((r.findOrAdd p).noteFirst p).inboundObjs = r.inboundObjs.insert p.uniqReqId
      (if (r.current p).learns p then (r.current p).noted p else r.current p) := by
    rw [inboundObjs_noteFirst, inboundObjs_findOrAdd tabled, Store.modify_insert]
  rw [msg] at budget' granted' requested' owed'
  rw [states] at keys'
  rw [owed_congr cfg states] at owed'
  rw [budget] at budget'
  rw [granted] at granted'
  rw [replenished] at replenished'
  rw [requested] at requested'
  rw [dataGranted] at dataGranted'
  have live' : ((r.findOrAdd p).noteFirst p).inbound.msgs.toFinset = insert p.uniqReqId r.inbound.msgs.toFinset := by
    rw [inbound', live_findOrAdd]
  unfold RecvSide.arrive
  rw [current_side]
  unfold side
  dsimp only
  rw [RecvSide.mk.injEq]
  by_cases data : p.isData = true
  · have refund : p.refund = p.wireCost := if_pos data
    have arrives : (r.current p).arrive p =
        (if (r.current p).learns p then (r.current p).noted p else r.current p).received p := if_pos data
    have all : r.takeIn p = ((r.findOrAdd p).noteFirst p).takeData p := if_pos data
    rw [all, refund, arrives]
    refine ⟨rfl, ?_, live', keys', ?_, ?_, ?_, ?_, ?_, ?_, rfl, rfl⟩
    · change ((r.findOrAdd p).noteFirst p).inboundObjs.modify p.uniqReqId (·.received p) = _
      rw [objs', Store.modify_insert]
    · rw [owed_takeData cfg _ p (by rw [keys']; exact met), owed']
    · change cfg.budgetBytes - (((r.findOrAdd p).noteFirst p).budgetBytes + p.wireCost) = _
      rw [budget']
      ring
    · exact granted'
    · change ((r.findOrAdd p).noteFirst p).creditReplenished + p.wireCost = _
      rw [replenished']
    · exact requested'
    · exact dataGranted'
  · have refund : p.refund = 0 := if_neg data
    have arrives : (r.current p).arrive p =
        (if (r.current p).learns p then (r.current p).noted p else r.current p) := if_neg data
    have all : r.takeIn p = (r.findOrAdd p).noteFirst p := if_neg data
    rw [all, refund, arrives]
    refine ⟨rfl, objs', live', keys', ?_, ?_, granted', ?_, requested', dataGranted', rfl, rfl⟩
    · rw [owed']
      simp
    · rw [budget']
      ring
    · rw [replenished', add_zero]

end Receiver

namespace Fits

theorem part {cfg : Config} {addr : Addr} {log part out : List Packet} {p : Packet} {m : OutboundMsgState}
    (fits : Fits cfg addr log p out m) (sub : part.Sublist log) : Fits cfg addr part p out m where
  ok := fits.ok
  name := fits.name
  here := fits.here
  kind := fits.kind
  data := ((sub.append_right [p]).filter _).subperm.trans fits.data
  creditReqs := ((sub.append_right [p]).filter _).subperm.trans fits.creditReqs

end Fits

namespace Host

variable {env : Env} {h h' : Host} {p : Packet} {st : SenderState}

theorem RecvOk.tabled {cfg : Config} (ok : RecvOk cfg h) : h.rcv.Tabled := fun id inside =>
  ok.inv.live id (List.mem_toFinset.mpr inside)

theorem side_meets (cfg : Config)
    (budget : st.srpbBytes = ((h.rcv.senderState.find p.src).getD (.new p.src cfg.maxSrpb)).srpbBytes)
    (addr : Addr) (arrived grants : List Packet) :
    (h.meets p st).rcv.side cfg addr arrived grants = (h.rcv.side cfg addr arrived grants).meet p.src := by
  have keys : (h.meets p st).rcv.senderState.keys =
      if p.src ∈ h.rcv.senderState.keys then h.rcv.senderState.keys else h.rcv.senderState.keys ++ [p.src] := by
    change (h.rcv.senderState.insert p.src st).keys = _
    split
    · next known => exact Store.keys_insert_of_mem _ _ known
    · next unknown => exact Store.keys_insert_of_notMem _ _ unknown
  have owed : (h.meets p st).rcv.owed cfg = h.rcv.owed cfg := by
    funext other
    unfold Receiver.owed Receiver.sender
    change (if other ∈ (h.rcv.senderState.insert p.src st).keys then
      cfg.maxSrpb - ((h.rcv.senderState.insert p.src st).get other).srpbBytes else 0) = _
    rw [Store.get_insert]
    by_cases same : other = p.src
    · subst same
      rw [if_pos ((Store.mem_keys_insert ..).mpr (Or.inr rfl)), if_pos rfl, budget]
      unfold Store.find
      split
      · rfl
      · exact sub_self _
    · rw [if_neg same]
      by_cases known : other ∈ h.rcv.senderState.keys
      · rw [if_pos known, if_pos ((Store.mem_keys_insert ..).mpr (Or.inl known))]
      · rw [if_neg known, if_neg fun there => known (((Store.mem_keys_insert ..).mp there).resolve_right same)]
  unfold Receiver.side RecvSide.meet
  rw [RecvSide.mk.injEq]
  exact ⟨rfl, rfl, rfl, keys, owed, rfl, rfl, rfl, rfl, rfl, rfl, rfl⟩

theorem arrived_meets (p : Packet) (st : SenderState) (h : Host) :
    (h.meets p st).arrived = if p.isGrant = false ∧ p.isSingleReply = false then h.arrived ++ [p] else h.arrived := by
  unfold arrived meets
  dsimp only
  rw [List.filter_append]
  split
  · next counts => simp [counts]
  · next skips =>
    have none : (!p.isGrant && !p.isSingleReply) = false := by
      cases grant : p.isGrant <;> cases single : p.isSingleReply <;> simp_all
    simp [none]

/-- What a packet that arrives does to the sending half: a GRANT adds its credit. -/
def sendTakes (p : Packet) (s : SendSide) : SendSide := if p.isGrant then s.credit p else s

/-- What it does to the receiving half, where replies on their own pass. -/
def recvTakes (p : Packet) (r : RecvSide) : RecvSide :=
  if p.isGrant = false ∧ p.isSingleReply = false then (r.meet p.src).arrive p else r.meet p.src

structure Arrives (env : Env) (p : Packet) (h h' : Host) : Prop where
  thisAddr : h'.thisAddr = h.thisAddr
  sent : h'.sent = h.sent
  rcvd : h'.rcvd = h.rcvd ++ [p]
  outbound : h'.snd.outbound = h.snd.outbound
  inactive : h'.snd.outboundInactive = h.snd.outboundInactive
  remotes : ∀ addr, addr ∈ h'.snd.remotes.keys ↔ addr ∈ h.snd.remotes.keys ∨ addr = p.src
  rpc : h.rpc.recvPkt env.cfg h.thisAddr p = .ok h'.rpc
  ok : HalvesOk env.cfg h'
  send : h'.sendSide = sendTakes p h.sendSide
  recv : RecvSide.Steps (recvTakes p (h.recvSide env.cfg)) (h'.recvSide env.cfg)

/-- The packet is a GRANT for a message under way, or belongs to a message of its source. -/
structure Welcome (cfg : Config) (h : Host) (p : Packet) : Prop where
  grant : p.isGrant = true → 0 ≤ p.hdr.credit ∧ p.uniqReqId ∉ h.snd.outboundInactive.msgs
  part : p.isGrant = false → ∃ out m, Fits cfg h.thisAddr h.rcvd p out m

theorem receivedCredit_eq {s s' : Sender} (idle : p.uniqReqId ∉ s.outboundInactive.msgs)
    (run : s.receivedCredit p = .ok s') :
    p.src ∈ s.remotes.keys ∧ ∃ data received, s' = { s.addCredit p.src p.hdr.credit data with
      creditReceived := s.creditReceived + p.hdr.credit, creditDataReceived := received } := by
  unfold Sender.receivedCredit assert at run
  simp only [Lib.bind_eq_ok, Lib.require_eq_ok, Lib.pure_eq_ok, exists_and_left, exists_const] at run
  obtain ⟨-, -, s1, activated, known, -, -, -, -, -, rfl⟩ := run
  have none : s.findInactive p.uniqReqId = none := if_neg idle
  rw [Sender.activateCredited_eq, none, Lib.pure_eq_ok] at activated
  subst activated
  exact ⟨known, _, _, rfl⟩

theorem sendSide_meets (p : Packet) (st : SenderState) (h : Host) (grant : p.isGrant = false) :
    (h.meets p st).sendSide = h.sendSide := by
  unfold sendSide Sender.side meets
  dsimp only
  rw [Sender.pool_findOrCreate, Sender.outbound_findOrCreate, List.filter_append]
  simp [grant]

theorem SendOk.meets {cfg : Config} (ok : SendOk cfg h) (grant : p.isGrant = false) :
    SendOk cfg (h.meets p st) := by
  have steps : SendSide.Steps cfg h.sendSide (h.meets p st).sendSide := by rw [sendSide_meets p st h grant]; exact .refl
  exact ok.quiet (ok.queues.findOrCreate p.src) steps rfl rfl rfl

section Dispatch

variable {cfg : Config} (ok : HalvesOk cfg h) (budget : st.srpbBytes =
  ((h.rcv.senderState.find p.src).getD (.new p.src cfg.maxSrpb)).srpbBytes)

/-- The receiving half of a host that has met the packet's sender and takes no part of a message. -/
theorem recvSide_meets (skips : ¬ (p.isGrant = false ∧ p.isSingleReply = false)) (rcvBudget : st.srpbBytes =
      ((h.rcv.senderState.find p.src).getD (.new p.src cfg.maxSrpb)).srpbBytes) :
    (h.meets p st).recvSide cfg = recvTakes p (h.recvSide cfg) := by
  have arrived := arrived_meets p st h
  rw [if_neg skips] at arrived
  unfold recvSide recvTakes
  rw [if_neg skips, arrived]
  exact side_meets cfg rcvBudget ..

include ok budget in
theorem RecvOk.meets (skips : ¬ (p.isGrant = false ∧ p.isSingleReply = false)) : RecvOk cfg (h.meets p st) := by
  have side := recvSide_meets skips budget
  refine ⟨?_, ok.recv.nodup⟩
  rw [side]
  unfold recvTakes
  rw [if_neg skips]
  exact ok.recv.inv.meet p.src

theorem inbound_takeIn (r : Receiver) (p : Packet) : (r.takeIn p).inbound = (r.findOrAdd p).inbound := by
  unfold Receiver.takeIn
  split
  · exact ((r.findOrAdd p).noteFirst_rest p).1
  · exact ((r.findOrAdd p).noteFirst_rest p).1

theorem mem_takeIn (r : Receiver) (p : Packet) : p.uniqReqId ∈ (r.takeIn p).inbound.msgs := by
  rw [inbound_takeIn]
  exact List.mem_toFinset.mp (by rw [Receiver.live_findOrAdd]; exact Finset.mem_insert_self ..)

theorem nodup_takeIn {r : Receiver} (nodup : r.inbound.msgs.Nodup) : (r.takeIn p).inbound.msgs.Nodup := by
  rw [inbound_takeIn]
  unfold Receiver.findOrAdd
  split
  · exact nodup
  · next fresh =>
    exact List.nodup_append.mpr ⟨nodup, List.nodup_singleton _, fun a old b new same =>
      fresh (List.mem_singleton.mp new ▸ same ▸ old)⟩

include ok budget in
theorem recvSide_takeIn {c : Rpc} (counts : p.isGrant = false ∧ p.isSingleReply = false) :
    ({ h.meets p st with rcv := (h.meets p st).rcv.takeIn p, rpc := c } : Host).recvSide cfg =
      recvTakes p (h.recvSide cfg) := by
  have arrived := arrived_meets p st h
  rw [if_pos counts] at arrived
  have tabled : (h.meets p st).rcv.Tabled := ok.recv.tabled
  have met : p.src ∈ (h.meets p st).rcv.senderState.keys := (Store.mem_keys_insert ..).mpr (Or.inr rfl)
  have known : ((h.meets p st).rcv.current p).remoteAddr ∈ (h.meets p st).rcv.senderState.keys := by
    unfold Receiver.current
    split
    · next inside =>
      have old : (h.rcv.msg p.uniqReqId).remoteAddr ∈ h.rcv.senderState.keys :=
        ok.recv.inv.remote_met (ok.recv.tabled _ inside)
      exact (Store.mem_keys_insert ..).mpr (Or.inl old)
    · exact met
  have takes := Receiver.side_takeIn cfg tabled known met h.thisAddr h.arrived (h.sent.filter Packet.isGrant)
  unfold recvTakes
  rw [if_pos counts]
  unfold recvSide at *
  rw [← side_meets cfg budget, ← takes, ← arrived]
  rfl

include ok budget in
theorem takeIn_ok (c : Rpc) (counts : p.isGrant = false ∧ p.isSingleReply = false)
    (part : ∃ out m, Fits cfg h.thisAddr h.rcvd p out m) :
    HalvesOk cfg { h.meets p st with rcv := (h.meets p st).rcv.takeIn p, rpc := c } := by
  obtain ⟨out, m, fits⟩ := part
  have here : Fits cfg (h.recvSide cfg).addr (h.recvSide cfg).arrived p out m := fits.part List.filter_sublist
  have send : SendOk cfg (h.meets p st) := ok.send.meets counts.1
  refine ⟨⟨send.queues, send.inv, send.covered, send.numbered.src, send.numbered.seqno⟩, ?_, nodup_takeIn ok.recv.nodup⟩
  rw [recvSide_takeIn ok budget counts]
  unfold recvTakes
  rw [if_pos counts]
  apply (ok.recv.inv.meet p.src).arrive (show Fits cfg ((h.recvSide cfg).meet p.src).addr _ p out m from here)
  unfold RecvSide.meet
  dsimp only
  split
  · next known => exact known
  · exact List.mem_append_right _ (List.mem_singleton_self _)

end Dispatch

theorem Dispatched.arrives {cfg : Config} (same : cfg = env.cfg) (ok : HalvesOk cfg h) (welcome : Welcome cfg h p)
    (budget : st.srpbBytes = ((h.rcv.senderState.find p.src).getD (.new p.src cfg.maxSrpb)).srpbBytes)
    (dispatched : Dispatched env p (h.meets p st) h') : Arrives env p h h' := by
  subst same
  have remotes := h.snd.mem_keys_findOrCreate p.src
  cases dispatched with
  -- goes up, and neither side takes it into account
  | reply rpc single handled =>
    have data : p.isData = true := by
      unfold Packet.isSingleReply at single
      unfold Packet.isData
      simp_all
    have grant := Packet.isGrant_of_isData data
    have skips : ¬ (p.isGrant = false ∧ p.isSingleReply = false) :=
      fun h => by rw [single] at h; exact absurd h.2 (by simp)
    have send : SendOk env.cfg (h.meets p st) := ok.send.meets grant
    have recv : RecvOk env.cfg (h.meets p st) := RecvOk.meets ok budget skips
    exact {
      thisAddr := rfl
      sent := rfl
      rcvd := rfl
      outbound := Sender.outbound_findOrCreate ..
      inactive := Sender.outboundInactive_findOrCreate ..
      remotes := remotes
      rpc := handled
      ok := ⟨⟨send.queues, send.inv, send.covered, send.numbered.src, send.numbered.seqno⟩, recv.inv, recv.nodup⟩
      send := by
        unfold sendTakes
        rw [if_neg (by rw [grant]; exact Bool.false_ne_true)]
        exact sendSide_meets p st h grant
      recv := by
        rw [← recvSide_meets skips budget]
        exact .refl }
  -- the sender takes the credit, the receiver nothing
  | credit snd grant pos credited =>
    obtain ⟨nonneg, idle⟩ := welcome.grant grant
    have still : p.uniqReqId ∉ (h.meets p st).snd.outboundInactive.msgs := by
      change _ ∉ (h.snd.findOrCreate p.src).outboundInactive.msgs
      rw [Sender.outboundInactive_findOrCreate]
      exact idle
    obtain ⟨known, data, received, rfl⟩ := receivedCredit_eq still credited
    have skips : ¬ (p.isGrant = false ∧ p.isSingleReply = false) :=
      fun h => by rw [grant] at h; exact absurd h.1 (by simp)
    have recv : RecvOk env.cfg (h.meets p st) := RecvOk.meets ok budget skips
    have pool : ((h.snd.findOrCreate p.src).addCredit p.src p.hdr.credit data).pool =
        Function.update h.snd.pool p.src (h.snd.pool p.src + p.hdr.credit) := by
      have before : h.snd.pool p.src = ((h.snd.findOrCreate p.src).rcvr p.src).availCreditBytes := by
        rw [← Sender.pool_eq (s := h.snd.findOrCreate p.src) known, Sender.pool_findOrCreate]
      rw [before, ← Sender.pool_findOrCreate h.snd p.src]
      exact Sender.pool_modifyRcvr known _
    have side : ({ h.meets p st with snd := { (h.meets p st).snd.addCredit p.src p.hdr.credit data with
        creditReceived := (h.meets p st).snd.creditReceived + p.hdr.credit, creditDataReceived :=
          received } } : Host).sendSide =
        h.sendSide.credit p := by
      unfold sendSide Sender.side SendSide.credit
      rw [SendSide.mk.injEq]
      refine ⟨rfl, Sender.outbound_findOrCreate .., pool, rfl, ?_⟩
      change (h.rcvd ++ [p]).filter Packet.isGrant = h.rcvd.filter Packet.isGrant ++ [p]
      rw [List.filter_append]
      simp [grant]
    have steps : SendSide.Steps env.cfg h.sendSide (h.sendSide.credit p) := .single (.credit p grant nonneg)
    have passed : h.rpc.recvPkt env.cfg h.thisAddr p = .ok h.rpc := by
      have type : p.hdr.msgType = .grant := by
        unfold Packet.isGrant at grant
        exact beq_iff_eq.mp grant
      unfold Rpc.recvPkt
      rw [type]
      rfl
    exact {
      thisAddr := rfl
      sent := rfl
      rcvd := rfl
      outbound := Sender.outbound_findOrCreate ..
      inactive := Sender.outboundInactive_findOrCreate ..
      remotes := remotes
      rpc := passed
      ok := ⟨ok.send.quiet (((ok.send.queues.findOrCreate p.src).addCredit p.src p.hdr.credit data).congr rfl rfl rfl)
        (by rw [side]; exact steps) rfl rfl rfl, recv.inv, recv.nodup⟩
      send := by
        unfold sendTakes
        rw [if_pos grant]
        exact side
      recv := by
        rw [← recvSide_meets skips budget]
        exact .refl }
  -- the receiver takes the packet in, and lets the message go with the last one
  | part rpc rcv single kind low handled taken =>
    have grant : p.isGrant = false := Packet.isGrant_of_part kind
    have side := recvSide_takeIn (c := rpc) ok budget ⟨grant, single⟩
    have taking := takeIn_ok ok budget rpc ⟨grant, single⟩ (welcome.part grant)
    have rest : sendTakes p h.sendSide = h.sendSide := if_neg (by rw [grant]; exact Bool.false_ne_true)
    rcases taken with rfl | ⟨complete, removed⟩
    · exact {
        thisAddr := rfl
        sent := rfl
        rcvd := rfl
        outbound := Sender.outbound_findOrCreate ..
        inactive := Sender.outboundInactive_findOrCreate ..
        remotes := remotes
        rpc := handled
        ok := taking
        send := by rw [rest]; exact sendSide_meets p st h grant
        recv := by rw [← side]; exact .refl }
    · obtain ⟨retires, -⟩ := removeInbound_ok taking (mem_takeIn ..) complete removed
      exact {
        thisAddr := rfl
        sent := rfl
        rcvd := rfl
        outbound := Sender.outbound_findOrCreate ..
        inactive := Sender.outboundInactive_findOrCreate ..
        remotes := remotes
        rpc := handled
        ok := retires.ok
        send := by rw [rest]; exact sendSide_meets p st h grant
        recv := by rw [← side]; exact retires.steps }

end Host

end PhantomPass
