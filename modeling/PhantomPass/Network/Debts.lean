import PhantomPass.Granting.TimeSharing
import PhantomPass.Network.Pools

/-! What senders owe their receivers, in every run in which no data overtakes a
message that credited itself and of which nothing has arrived. -/

set_option autoImplicit false

namespace PhantomPass

open Lib (Avoids RoundRobin Store)

namespace Host

variable {w : Watched} {env : Env} {h : Host} {p : Packet} {id : UniqReqId} {now : Time}

theorem receivedData_settles {arrived grants : List Packet} (accounts : env.cfg.accountUnsched = true)
    (met : p.src ∈ h.rcv.senderState.keys) (pos : 0 < p.payload)
    (balance : (h.rcv.takeData p).creditReplenished ≤ (h.rcv.takeData p).creditGranted)
    (budget : (h.rcv.takeData p).budgetBytes ≤ env.cfg.budgetBytes)
    (obj : ObjOk arrived grants p.uniqReqId ((h.rcv.takeData p).msg p.uniqReqId)) :
    Avoids w.Stops (h.receivedData env p p.uniqReqId) := by
  have removed : ∀ rcv : Receiver, Avoids w.Stops (rcv.removeInbound p.uniqReqId) := by
    intro rcv
    unfold Receiver.removeInbound
    split <;> simp
  have got : 0 < ((h.rcv.takeData p).msg p.uniqReqId).dataBytesReceived := by
    change 0 < ((h.rcv.inboundObjs.modify p.uniqReqId (·.received p)).get p.uniqReqId).dataBytesReceived
    rw [Store.get_modify_self]
    exact Nat.add_pos_right _ pos
  have info : ((h.rcv.takeData p).msg p.uniqReqId).dataBytesReceived =
    ((h.rcv.takeData p).msg p.uniqReqId).dataBytesExpected →
      ((h.rcv.takeData p).msg p.uniqReqId).receivedMsgInfo = true := by
    intro all
    by_contra ignorant
    have := (obj.idle (by simpa using ignorant)).2.1
    omega
  have all : (h.rcv.modifyMsg p.uniqReqId fun m =>
      { m with dataBytesReceived := m.dataBytesReceived + p.payload }).replenish p.src
        (max (p.payload + r2p2AllHeadersSize + interPktGapSize + ethernetPreambleSize) minEthernetFrameOnWire : ℕ) =
      h.rcv.takeData p := rfl
  unfold receivedData
  simp only [accounts, all]
  simp +contextual [met, pos, balance, budget, removed, obj.bound, info]

section Granting

variable (grantable : Grantable env.cfg h) (inside : id ∈ h.rcv.inbound.msgs)

include grantable inside

theorem issueGrant_settles (quiet : ¬ w.Asks env)
    (le : (h.rcv.msg id).dataBytesGranted ≤ (h.rcv.msg id).dataBytesExpected) :
    Avoids w.Stops (h.issueGrant env now id) := by
  have requested : h.rcv.creditDataGranted + (h.rcv.msg id).creditNeededData ≤ h.rcv.creditDataRequestRcvd := by
    rw [(InboundMsgState.creditNeeded_eq le).1]
    exact grantable.halves.recv.inv.nextData_le (grantable.halves.recv.inv.live id (List.mem_toFinset.mpr inside))
  unfold issueGrant
  simp [requested, forwardGrant_spares quiet]

theorem grantInformed_settles (quiet : ¬ w.Asks env) (ret : Option CreditResult) :
    Avoids w.Stops (h.grantInformed env now id ret) := by
  have obj := grantable.obj inside
  have removed : Avoids w.Stops (h.rcv.removeInbound id) := by
    unfold Receiver.removeInbound
    split <;> simp
  unfold grantInformed
  dsimp only
  split
  · next info =>
    have pos := grantable.expected_pos inside info
    have granting : (h.rcv.msg id).dataBytesExpected ≠ (h.rcv.msg id).dataBytesGranted →
        Avoids w.Stops (h.grantCredit env now id) := by
      intro needs
      have budget : h.rcv.budgetBytes ≤ env.cfg.budgetBytes := grantable.budget
      unfold grantCredit
      simp [budget]
      intro _ _ _
      constructor
      · exact issueGrant_settles grantable inside quiet obj.granted_le
      · intro h1 issued
        have less := lt_of_le_of_ne obj.granted_le needs.symm
        obtain ⟨grants, inbound, -⟩ := issueGrant_ok grantable.halves inside info less issued
        have still : id ∈ h1.rcv.inbound.msgs := by rw [inbound]; exact inside
        obtain ⟨checked, run⟩ := checkGranted_succeeds (grantable.grants grants) still
        rw [run]
        exact .ok _
    unfold sendCreditPolicyCommon
    simp +contextual [info, pos, obj.bound info, obj.granted_le, removed, granting]
  · exact .pure _

end Granting

theorem grantable_lets (quiet : ¬ w.Asks env) : Lets w env now (Grantable env.cfg) where
  spares _ _ ret grantable inside := grantInformed_settles grantable inside quiet ret
  keeps _ _ _ _ _ grantable inside informed := grantable.grants (grantInformed_ok grantable.halves inside informed).1
  moves _ inbound grantable perm := grantable.grants (reorder_ok grantable.halves inbound perm)

theorem sendGrants_settles (grantable : Grantable env.cfg h) (quiet : ¬ w.Asks env) :
    Avoids w.Stops (h.sendGrants env now) :=
  sendGrants_spares (grantable_lets quiet) (grantable.begin_ now)

end Host

namespace Net

variable {cfg : Config} {env : Env} {net net' : Net} {src dst : Addr} {p q : Packet} {h : Host}

section Linked

variable (ok : NetOk cfg net)

include ok

theorem log_of_flight (flight : p ∈ net.flight) (src : Addr) :
    (fromAddr src ((net.host p.dst).rcvd ++ [p])).Subperm (toAddr p.dst (net.host src).sent) := by
  rw [fromAddr_append, fromAddr_singleton]
  split
  · next origin =>
    have single : [p].Subperm (fromAddr src (toAddr p.dst net.flight)) :=
      List.singleton_subperm_iff.mpr (mem_fromAddr.mpr ⟨mem_toAddr.mpr ⟨flight, rfl⟩, origin⟩)
    exact List.perm_append_comm.subperm.trans (((List.subperm_append_right _).mpr single).trans
      (ok.link src p.dst).symm.subperm)
  · rw [List.append_nil]
    exact log_of_rcvd ok src p.dst

end Linked

/-- A packet overtakes one that credited itself and of whose message nothing has arrived. -/
def Overtakes (net : Net) (p q : Packet) : Prop :=
  (q.src = p.src ∧ q.dst = p.dst ∧ q.seqno < p.seqno) ∧ (q.isSingleReply = false ∧ 0 < q.hdr.unsolCredit) ∧
    q.uniqReqId ≠ p.uniqReqId ∧ ∀ x ∈ (net.host q.dst).arrived, x.src = q.src → x.uniqReqId ≠ q.uniqReqId

instance (net : Net) (p q : Packet) : Decidable (net.Overtakes p q) := inferInstanceAs (Decidable (_ ∧ _ ∧ _))

def InTurn (net : Net) : Event → Prop
  | .deliver p _ => p.isData = true → p.isSingleReply = false → ∀ q ∈ net.flight, ¬ net.Overtakes p q
  | _ => True

instance (net : Net) : (e : Event) → Decidable (net.InTurn e)
  | .deliver p _ =>
    inferInstanceAs (Decidable (p.isData = true → p.isSingleReply = false → ∀ q ∈ net.flight, ¬ net.Overtakes p q))
  | .tick _ | .request _ _ _ _ _ _ | .reply _ _ _ | .poll _ | .collect _ => inferInstanceAs (Decidable True)

/-- Every receiver has heard of the messages that credited themselves when later data arrives. -/
def Tells (cfg : Config) (net : Net) : Prop :=
  ∀ src dst, Told (net.host src).sendSide ((net.host dst).recvSide cfg)

/-- What a host becomes that sends more, knows more, and gets data in turn. -/
structure Grows (net : Net) (addr : Addr) (h : Host) : Prop where
  thisAddr : h.thisAddr = addr
  numbered : h.Numbered
  sent : ∃ more, h.sent = (net.host addr).sent ++ more
  known : ∀ id ∈ (net.host addr).rcv.inboundObjs.keys, id ∈ h.rcv.inboundObjs.keys
  log : ∀ x ∈ h.arrived, x ∈ (net.host addr).arrived ∨ (x ∈ net.flight ∧ x.dst = addr ∧
    x.uniqReqId ∈ h.rcv.inboundObjs.keys ∧ (x.isData = true → ∀ q ∈ net.flight, ¬ net.Overtakes x q))

theorem Grows.refl (ok : NetOk cfg net) (addr : Addr) : net.Grows addr (net.host addr) where
  thisAddr := ok.addr addr
  numbered := (ok.host addr).halves.send.numbered
  sent := ⟨[], (List.append_nil _).symm⟩
  known _ inside := inside
  log _ inside := Or.inl inside

theorem Grows.sent_before (grows : net.Grows src h) (sentQ : q ∈ h.sent) (sentP : p ∈ (net.host src).sent)
    (same : q.dst = p.dst) (earlier : q.seqno < p.seqno) : q ∈ (net.host src).sent := by
  obtain ⟨more, sent⟩ := grows.sent
  rw [sent] at sentQ
  refine (List.mem_append.mp sentQ).resolve_right fun new => ?_
  have sorted : ((toAddr p.dst h.sent).map Packet.seqno).Pairwise (· < ·) := by
    rw [grows.numbered.seqno]
    exact List.pairwise_lt_range
  rw [sent, toAddr_append, List.map_append, List.pairwise_append] at sorted
  have later := sorted.2.2 p.seqno (List.mem_map_of_mem (mem_toAddr.mpr ⟨sentP, rfl⟩)) q.seqno
    (List.mem_map_of_mem (mem_toAddr.mpr ⟨new, same⟩))
  omega

theorem Tells.grows (ok : NetOk cfg net) (tells : Tells cfg net) {hs hd : Host} (sender : net.Grows src hs)
    (receiver : net.Grows dst hd) : Told hs.sendSide (hd.recvSide cfg) := by
  have addr : hs.sendSide.addr = src := sender.thisAddr
  have here : (hd.recvSide cfg).addr = dst := receiver.thisAddr
  intro q sentQ multi unsol p arrivedP earlier
  rw [here] at sentQ
  rw [addr] at arrivedP
  obtain ⟨towards, dataQ⟩ := mem_dataPkts.mp sentQ
  obtain ⟨outQ, toDst⟩ := mem_toAddr.mp towards
  obtain ⟨there, dataP⟩ := mem_dataPkts.mp arrivedP
  obtain ⟨come, fromSrc⟩ := mem_fromAddr.mp there
  -- the packet that arrived had been sent, and so had the other one
  have sentP : p ∈ (net.host src).sent ∧ p.dst = dst := by
    rcases receiver.log p come with old | ⟨flight, at_, -⟩
    · have := sent_of_rcvd ok (List.mem_of_mem_filter old)
      rwa [fromSrc] at this
    · have := sent_of_flight ok flight
      rw [fromSrc] at this
      exact ⟨this, at_⟩
  have sent := sender.sent_before (List.mem_of_mem_filter outQ) sentP.1 (toDst.trans sentP.2.symm) earlier
  have old : q ∈ dataPkts (toAddr dst (net.host src).sendSide.out) := by
    refine mem_dataPkts.mpr ⟨mem_toAddr.mpr ⟨List.mem_filter.mpr ⟨sent, ?_⟩, toDst⟩, dataQ⟩
    rw [Packet.isGrant_of_isData dataQ]
    rfl
  have heard : ∀ x ∈ (net.host dst).arrived, x.uniqReqId = q.uniqReqId → q.uniqReqId ∈ hd.rcv.inboundObjs.keys := by
    intro x arrived same
    rw [← same]
    exact receiver.known _ ((ok.host dst).halves.recv.inv.arrived x arrived).2.1
  rcases receiver.log p come with before | ⟨flight, -, knownP, turn⟩
  · have hostAddr : ((net.host dst).recvSide cfg).addr = dst := ok.addr dst
    have srcAddr : (net.host src).sendSide.addr = src := ok.addr src
    refine receiver.known _ (tells src dst q ?_ multi unsol p ?_ earlier)
    · rw [hostAddr]
      exact old
    · rw [srcAddr]
      exact mem_dataPkts.mpr ⟨mem_fromAddr.mpr ⟨before, fromSrc⟩, dataP⟩
  · by_cases same : q.uniqReqId = p.uniqReqId
    · rw [same]
      exact knownP
    · have origin : q.src = src := src_of_sent ok sent
      have placed : q ∈ fromAddr src (toAddr dst net.flight) ++ fromAddr src (net.host dst).rcvd :=
        (ok.link src dst).subset (mem_toAddr.mpr ⟨sent, toDst⟩)
      rcases List.mem_append.mp placed with waits | got
      · have inFlight := (mem_toAddr.mp (mem_fromAddr.mp waits).1).1
        have overtaken := turn dataP q inFlight
        unfold Overtakes at overtaken
        simp only [not_and, not_forall, not_not] at overtaken
        obtain ⟨x, arrived, -, of⟩ :=
          overtaken ⟨origin.trans fromSrc.symm, toDst.trans sentP.2.symm, earlier⟩ ⟨multi, unsol⟩ same
        rw [toDst] at arrived
        exact heard x arrived of
      · refine heard q (List.mem_filter.mpr ⟨(mem_fromAddr.mp got).1, ?_⟩) rfl
        rw [Packet.isGrant_of_isData dataQ, multi]
        rfl

section Run

theorem Grows.polls {addr : Addr} (ok : NetOk cfg net) {h0 h1 : Host} (hostOk : Host.HostOk cfg h)
    (polls : Host.Polls cfg h0 h1) (sent0 : h0.sent = (net.host addr).sent) (rcvd0 : h0.rcvd = (net.host addr).rcvd)
    (rcv0 : h0.rcv = (net.host addr).rcv)
    (addr0 : h0.thisAddr = (net.host addr).thisAddr) (sent : h.sent = h1.sent) (rcvd : h.rcvd = h1.rcvd)
    (rcv : h.rcv = h1.rcv) (thisAddr : h.thisAddr = h1.thisAddr) : net.Grows addr h where
  thisAddr := by rw [thisAddr, polls.thisAddr, addr0, ok.addr]
  numbered := hostOk.halves.send.numbered
  sent := by rw [sent, ← sent0]; exact polls.sent
  known id inside := by
    have keys : h1.rcv.inboundObjs.keys = h0.rcv.inboundObjs.keys := polls.recv.objs_keys
    rw [rcv, keys, rcv0]
    exact inside
  log x inside := by
    unfold Host.arrived at inside
    rw [rcvd, polls.rcvd, rcvd0] at inside
    exact Or.inl inside

theorem Grows.takes {h1 : Host} (ok : NetOk cfg net) (polls : Host.Polls cfg (net.host p.dst) h1)
    (halves : Host.HalvesOk cfg h)
    (thisAddr : h.thisAddr = h1.thisAddr) (sent : h.sent = h1.sent) (rcvd : h.rcvd = h1.rcvd ++ [p])
    (recv : RecvSide.Steps (Host.recvTakes p (h1.recvSide cfg)) (h.recvSide cfg)) (flight : p ∈ net.flight)
    (turn : p.isData = true → p.isSingleReply = false → ∀ q ∈ net.flight, ¬ net.Overtakes p q) : net.Grows p.dst h where
  thisAddr := by rw [thisAddr, polls.thisAddr, ok.addr]
  numbered := halves.send.numbered
  sent := by rw [sent]; exact polls.sent
  known id inside := by
    have keys : h.rcv.inboundObjs.keys = (Host.recvTakes p (h1.recvSide cfg)).objs.keys := recv.objs_keys
    have before : h1.rcv.inboundObjs.keys = (net.host p.dst).rcv.inboundObjs.keys := polls.recv.objs_keys
    rw [← before] at inside
    rw [keys]
    unfold Host.recvTakes
    split
    · exact (Store.mem_keys_insert ..).mpr (Or.inl inside)
    · exact inside
  log x inside := by
    have known := (halves.recv.inv.arrived x inside).2.1
    obtain ⟨member, counts⟩ := List.mem_filter.mp inside
    rw [rcvd, polls.rcvd] at member
    rcases List.mem_append.mp member with old | new
    · exact Or.inl (List.mem_filter.mpr ⟨old, counts⟩)
    · rw [List.mem_singleton.mp new] at known counts ⊢
      have multi : p.isSingleReply = false := by
        simp only [Bool.and_eq_true, Bool.not_eq_true'] at counts
        exact counts.2
      exact Or.inr ⟨flight, rfl, known, fun data => turn data multi⟩

theorem tells_act {addr : Addr} {flight : List Packet} (ok : NetOk cfg net) (tells : Tells cfg net)
    (grows : net.Grows addr h) : Tells cfg (net.act addr flight h) := by
  have each : ∀ a, net.Grows a ((net.act addr flight h).host a) := by
    intro a
    rw [host_act]
    split
    · next same =>
      rw [same]
      exact grows
    · exact .refl ok a
  exact fun src dst => tells.grows ok (each src) (each dst)

theorem tells_fire {e : Event} (ok : NetOk env.cfg net) (tells : Tells env.cfg net) (enabled : net.Enabled env e)
    (turn : net.InTurn e) (run : net.fire env e = .ok net') : Tells env.cfg net' := by
  have ok' := ok.fire enabled run
  cases fire_cases ok enabled run with
  | tick seconds => exact tells
  | request client server clThread srThread appLevelId n tuple h1 polls =>
    have hostOk := ok'.host client
    rw [host_act, if_pos rfl] at hostOk
    exact tells_act ok tells (.polls ok hostOk polls rfl rfl rfl rfl rfl rfl rfl rfl)
  | reply server thread n tuple rest st h1 polls =>
    have hostOk := ok'.host server
    rw [host_act, if_pos rfl] at hostOk
    exact tells_act ok tells (.polls ok hostOk polls rfl rfl rfl rfl rfl rfl rfl rfl)
  | poll addr h polls =>
    have hostOk := ok'.host addr
    rw [host_act, if_pos rfl] at hostOk
    exact tells_act ok tells (.polls ok hostOk polls rfl rfl rfl rfl rfl rfl rfl rfl)
  | deliver p stamp h1 h received polls arrives =>
    have hostOk := ok'.host p.dst
    rw [host_act, if_pos rfl] at hostOk
    exact tells_act ok tells
      (.takes ok polls hostOk.halves arrives.thisAddr arrives.sent arrives.rcvd arrives.recv enabled turn)
  | collect addr =>
    have hostOk := ok'.host addr
    rw [host_act, if_pos rfl] at hostOk
    exact tells_act ok tells (.polls ok hostOk (.refl (ok.host addr).halves) rfl rfl rfl rfl rfl rfl rfl rfl)

theorem Reach.tells (reach : Reach env InTurn net) : Tells env.cfg net := by
  -- one step keeps what the packets in flight tell
  induction reach with
  | init =>
    intro src dst q sentQ
    cases sentQ
  | step before enabled turn run ih => exact tells_fire before.ok ih enabled turn run

theorem Reach.owed_nonneg (reach : Reach env InTurn net) (src dst : Addr) :
    0 ≤ (net.host dst).rcv.owed env.cfg src := by
  have ok := reach.ok
  have owed := (linked_hosts ok src dst).owed_nonneg (reach.tells src dst)
  have addr : (net.host src).sendSide.addr = src := ok.addr src
  rw [addr] at owed
  exact owed

structure Solvent (cfg : Config) (h : Host) : Prop where
  replenished : h.rcv.creditReplenished ≤ h.rcv.creditGranted
  budget : h.rcv.budgetBytes ≤ cfg.budgetBytes
  srpb : ∀ src ∈ h.rcv.senderState.keys, (h.rcv.sender src).srpbBytes ≤ cfg.maxSrpb

theorem solvent_of_owed (recv : Host.RecvOk cfg h) (owed : ∀ src, 0 ≤ h.rcv.owed cfg src) : Solvent cfg h := by
  have lent : 0 ≤ cfg.budgetBytes - h.rcv.budgetBytes := by
    have sum : cfg.budgetBytes - h.rcv.budgetBytes = ∑ src ∈ h.rcv.senderState.keys.toFinset, h.rcv.owed cfg src :=
      recv.inv.lent
    rw [sum]
    exact Finset.sum_nonneg fun src _ => owed src
  have balance : cfg.budgetBytes - h.rcv.budgetBytes = h.rcv.creditGranted - h.rcv.creditReplenished := recv.inv.balance
  constructor
  · omega
  · omega
  · intro src known
    have own := owed src
    unfold Receiver.owed at own
    rw [if_pos known] at own
    omega

theorem solvent_takeIn {h1 : Host} {st : SenderState} (reach : Reach env InTurn net) (flight : p ∈ net.flight)
    (turn : p.isData = true → p.isSingleReply = false → ∀ q ∈ net.flight, ¬ net.Overtakes p q)
    (single : p.isSingleReply = false) (data : p.isData = true) (polls : Host.Polls env.cfg (net.host p.dst) h1)
    (budget : st.srpbBytes = (h1.senderOf env p.src).srpbBytes) :
    Host.HalvesOk env.cfg { h1.meets p st with rcv := (h1.meets p st).rcv.takeIn p, rpc := h1.rpc } ∧
      Solvent env.cfg { h1.meets p st with rcv := (h1.meets p st).rcv.takeIn p, rpc := h1.rpc } := by
  have ok := reach.ok
  have grant := Packet.isGrant_of_isData data
  have part : ∃ out m, Fits env.cfg h1.thisAddr h1.rcvd p out m := by
    rw [polls.thisAddr, ok.addr, polls.rcvd]
    exact part_of_flight ok flight grant
  have halves := Host.takeIn_ok polls.ok budget h1.rpc ⟨grant, single⟩ part
  have rcvd : ({ h1.meets p st with rcv := (h1.meets p st).rcv.takeIn p, rpc := h1.rpc } : Host).rcvd =
      (net.host p.dst).rcvd ++ [p] := by
    change h1.rcvd ++ [p] = _
    rw [polls.rcvd]
  have side := Host.recvSide_takeIn (c := h1.rpc) polls.ok budget ⟨grant, single⟩
  have grows : net.Grows p.dst { h1.meets p st with rcv := (h1.meets p st).rcv.takeIn p, rpc := h1.rpc } :=
    .takes ok polls halves rfl rfl rfl (by rw [side]; exact .refl) flight turn
  refine ⟨halves, solvent_of_owed halves.recv fun src => ?_⟩
  have link := linked ok halves.recv grows.thisAddr (fun src => by rw [rcvd]; exact log_of_flight ok flight src)
    grows.sent src
  have owed := link.owed_nonneg (reach.tells.grows ok (.refl ok src) grows)
  have addr : (net.host src).sendSide.addr = src := ok.addr src
  rw [addr] at owed
  exact owed

theorem receivedData_in_turn {w : Watched} {h1 : Host} {stamp : Stamp} {st : SenderState}
    (accounts : env.cfg.accountUnsched = true) (reach : Reach env InTurn net) (flight : p ∈ net.flight)
    (turn : net.InTurn (.deliver p stamp)) (started : (net.host p.dst).startPolling env net.clock = .ok h1)
    (update : (h1.senderOf env p.src).update env.cfg p stamp = .ok st) (single : p.isSingleReply = false)
    (data : p.isData = true) :
    Avoids w.Stops (({ h1.meets p st with rcv := ((h1.meets p st).rcv.findOrAdd p).noteFirst p } :
    Host).receivedData env p
      p.uniqReqId) := by
  have ok := reach.ok
  have polls := Host.startPolling_ok (ok.host p.dst).halves started
  obtain ⟨halves, solvent⟩ := solvent_takeIn reach flight turn single data polls (SenderState.srpbBytes_update update)
  have all : (h1.meets p st).rcv.takeIn p = (((h1.meets p st).rcv.findOrAdd p).noteFirst p).takeData p := if_pos data
  have obj := halves.recv.inv.obj p.uniqReqId (halves.recv.inv.live _ (List.mem_toFinset.mpr (Host.mem_takeIn ..)))
  have fits := fits_of_flight ok flight (Packet.isGrant_of_isData data)
  have met : p.src ∈ (((h1.meets p st).rcv.findOrAdd p).noteFirst p).senderState.keys := by
    rw [Receiver.senders_noteFirst, (Receiver.findOrAdd_rest _ p).1]
    exact (Store.mem_keys_insert ..).mpr (Or.inr rfl)
  rw [all] at solvent obj
  exact Host.receivedData_settles accounts met (fits.payload_pos data).1 solvent.replenished solvent.budget obj

/-- In every run in which no data overtakes a message that credited itself and of which nothing has arrived, every
receiver gets back no more than it lent, and its checks on that hold. -/
theorem solvent_in_turn (accounts : env.cfg.accountUnsched = true)
    (weight : 0 ≤ env.cfg.ceNewWeight ∧ env.cfg.ceNewWeight ≤ 1) (reach : Reach env InTurn net) :
    (∀ a, Solvent env.cfg (net.host a)) ∧
      ∀ e, net.Enabled env e → net.InTurn e → ∀ stop, net.fire env e = .error stop →
        stop.site ≠ .receivedData ∧ stop.site ≠ .sendCreditPolicyCommon := by
  have spares : ∀ w : Watched, ¬ w.Asks env → ∀ e, net.Enabled env e → net.InTurn e →
    Avoids w.Stops (net.fire env e) := by
    intro w quiet e enabled turn
    have polls : ∀ a, (net.host a).PollsSpare w env := by
      intro a
      apply polls_spare reach fun asks => absurd asks quiet
      intro _ rpc now
      have grantable := Reach.grantable weight reach a
      exact Host.sendGrants_settles ⟨grantable.halves.withRpc rpc, grantable.budget, grantable.rated⟩ quiet
    apply fire_spares polls
    rintro p stamp rfl
    apply Host.recv_spares (polls p.dst)
    exact fun h1 st started update single data =>
      receivedData_in_turn accounts reach enabled turn started update single data
  constructor
  · exact fun a => solvent_of_owed (reach.ok.host a).halves.recv fun src => reach.owed_nonneg src a
  · intro e enabled turn stop stops
    constructor
    · exact spares .receivedData (fun asks => by cases asks.1) e enabled turn stop stops
    · exact spares .sendCreditPolicyCommon (fun asks => by cases asks.1) e enabled turn stop stops

def deliverAt (place : ℕ) (net : Net) : Event :=
  match net.flight[place]? with
  | none => .tick 0
  | some p => .deliver p {}

def deliverInTurn (place : ℕ) (net : Net) : Event :=
    if net.InTurn (deliverAt place net) then deliverAt place net else .tick 0

theorem inTurn_deliverInTurn (place : ℕ) (net : Net) : net.InTurn (deliverInTurn place net) := by
  unfold deliverInTurn
  split
  · assumption
  · trivial

def allUnsolicited : Env := ⟨Config.small 3076 (-1) 0 3 0 twoFrames_set allUnsolicited_set, .plain⟩

/-- Two requests credit themselves; three packets leave, one of the first request, and two of the second one, of
which the credit of the first one pays for the last. -/
def twoUnsolicited : List (Net → Event) :=
  [fun _ => .request 0 1 0 0 0 4374, fun _ => .request 0 1 0 0 0 4373, fun _ => .tick (1 / 1000000), fun _ => .poll 0,
    fun _ => .tick (1 / 1000000), fun _ => .poll 0, fun _ => .tick (1 / 1000000), fun _ => .poll 0]

/-- In turn, the packets of the second request wait for the one of the first. -/
theorem solvent_in_turn_twoUnsolicited : ∃ net, Reach allUnsolicited InTurn net ∧
    (net.host 1).rcv.creditGranted = 4614 ∧ (net.host 1).rcv.creditReplenished = 3076 ∧
    Solvent allUnsolicited.cfg (net.host 1) := by
  have ran : ((init allUnsolicited.cfg).run allUnsolicited
      (twoUnsolicited ++ [deliverInTurn 1, deliverInTurn 0, deliverInTurn 1])).map (fun net =>
        ((net.host 1).rcv.creditGranted, (net.host 1).rcv.creditReplenished)) = some (4614, 3076) := by decide +kernel
  obtain ⟨net, run, values⟩ := Option.map_eq_some_iff.mp ran
  obtain ⟨granted, replenished⟩ := Prod.mk.inj values
  have allowed : ∀ e ∈ twoUnsolicited ++ [deliverInTurn 1, deliverInTurn 0, deliverInTurn 1], ∀ net,
    InTurn net (e net) := by
    intro e inside net
    simp only [twoUnsolicited, List.cons_append, List.nil_append, List.mem_cons, List.not_mem_nil, or_false] at inside
    rcases inside with rfl | rfl | rfl | rfl | rfl | rfl | rfl | rfl | rfl | rfl | rfl
    all_goals first | trivial | exact inTurn_deliverInTurn _ net
  have reach : Reach allUnsolicited InTurn net := Reach.run .init allowed run
  exact ⟨net, reach, granted, replenished, (solvent_in_turn (by decide) (by decide +kernel) reach).1 1⟩

/-- Out of turn, the second packet of the second request brings back what was never lent. -/
theorem refund_overtakes : ∃ net e, Reachable allUnsolicited net ∧ net.Enabled allUnsolicited e ∧
    net.fire allUnsolicited e =
      .error (.assertion .receivedData "stats->credit_replenished_ <= stats->credit_granted_") := by
  have ran : ((init allUnsolicited.cfg).run allUnsolicited (twoUnsolicited ++ [deliverAt 1])).map (fun net =>
      (decide (net.Enabled allUnsolicited (deliverAt 1 net)),
        (net.fire allUnsolicited (deliverAt 1 net)).map fun _ => ())) =
      some (true, .error (.assertion .receivedData "stats->credit_replenished_ <= stats->credit_granted_")) := by
    decide +kernel
  obtain ⟨net, run, rest⟩ := Option.map_eq_some_iff.mp ran
  simp only [Prod.mk.injEq, decide_eq_true_eq] at rest
  exact ⟨net, deliverAt 1 net, Reach.run .init (fun _ _ _ => trivial) run, rest.1, Lib.eq_error_of_map rest.2⟩

end Run

end Net

end PhantomPass
