import PhantomPass.Network.Activation
import PhantomPass.Network.Crediting
import PhantomPass.Network.Delivery
import PhantomPass.Network.Moves

/-! What a sender counts. It used no more credit than it received, and was granted
no more data than it asked for, so that no check of received_credit ever fails. -/

set_option autoImplicit false

namespace PhantomPass

open Lib (Store)

theorem creditDataSum_append (xs ys : List Packet) : creditDataSum
    (xs ++ ys) = creditDataSum xs + creditDataSum ys := by
  unfold creditDataSum
  rw [List.map_append, List.sum_append]

@[simp] theorem creditDataSum_singleton (p : Packet) : creditDataSum [p] = p.creditData := by
  unfold creditDataSum
  rw [List.map_singleton, List.sum_singleton]

theorem creditDataSum_le_of_subperm {xs ys : List Packet} (nonneg : ∀ p ∈ ys, 0 ≤ p.creditData) (sub : xs.Subperm ys) :
    creditDataSum xs ≤ creditDataSum ys := by
  obtain ⟨log, perm, sub⟩ := sub
  unfold creditDataSum
  rw [← (perm.map _).sum_eq]
  apply (sub.map _).sum_le_sum
  intro data inside
  obtain ⟨p, issued, rfl⟩ := List.mem_map.mp inside
  exact nonneg p issued

theorem MsgOk.announced_of_part {cfg : Config} {addr : Addr} {out : List Packet} {m : OutboundMsgState} {q : Packet}
    (ok : MsgOk cfg addr out m) (sent : q ∈ out) (of : q.uniqReqId = m.reqId)
    (kind : q.isData = true ∨ q.isCreditReq = true) :
    m.sentAnouncement = true := by
  rcases kind with data | req
  · have some_data : dataOf m.reqId out ≠ [] := List.ne_nil_of_mem (mem_dataOf.mpr ⟨sent, data, of⟩)
    cases scheduled : m.isScheduled with
    | false =>
      rw [ok.announced scheduled]
      by_contra quiet
      exact some_data (ok.sentFirst.mp (by simpa using quiet))
    | true =>
      apply (ok.scheduled _ scheduled).2
      by_contra idle
      -- nothing of an idle message was sent
      have lens := ok.lens
      rw [(ok.idle (by simpa using idle)).2] at lens
      exact some_data (List.map_eq_nil_iff.mp (List.append_left_eq_self.mp lens))
  · have one := List.length_pos_of_mem (mem_creditReqsOf.mpr ⟨sent, req, of⟩)
    rw [ok.creditReqs_length] at one
    by_contra quiet
    simp [quiet] at one

namespace Sender

variable {env : Env} {s s1 s' : Sender} {p : Packet}

/-- The counts of a sender cover its announced messages, and its pools. -/
structure Counted (s : Sender) : Prop where
  announced : s.announcedBytes ≤ s.creditDataRequested
  paid : s.creditUsed + s.unspent ≤ s.creditReceived

theorem Counted.of_counts (counted : Counted s) (counts : Counts s s') : Counted s' := by
  constructor
  · have before := counted.announced
    have change := counts.announced
    omega
  · have before := counted.paid
    have change := counts.paid
    omega

theorem Chooses.counts (chooses : Chooses s s') : Counts s s' := by
  obtain ⟨received, used, requested, -⟩ := chooses.counters
  have unspent : s'.unspent = s.unspent := by
    unfold unspent Store.total
    rw [chooses.remotes]
    exact Finset.sum_congr rfl fun addr _ => chooses.credit addr
  constructor
  · unfold announcedBytes
    rw [chooses.outbound, requested]
  · rw [received, used, unspent]

theorem round_chooses {selected : Option Addr} (update : s.updatePolicyState env = .ok s1)
    (select : s1.selectMsgToSend env.plat = .ok (selected, s')) : Chooses s s' := by
  obtain ⟨first, picks⟩ := updatePolicyState_ok update
  exact first.trans (selectMsgToSend_ok select picks).1

theorem counted_keeps (env : Env) : Keeps env Counted where
  works _ _ works counted := counted.of_counts works.counts
  round _ _ _ _ update select counted := counted.of_counts (round_chooses update select).counts
  credited _ _ credited counted := counted.of_counts credited.counts
  meets s addr counted := counted.of_counts (counts_findOrCreate s addr)

theorem received_persists (env : Env) (received : ℤ) : Persists env fun s => s.creditDataReceived = received where
  works _ _ works holds := works.received.trans holds
  round _ _ _ _ update select holds := (round_chooses update select).counters.2.2.2.trans holds

theorem receivedCredit_received (run : s.receivedCredit p = .ok s') :
    s'.creditDataReceived = s.creditDataReceived + p.creditData := by
  unfold receivedCredit assert at run
  dsimp only at run
  simp only [Lib.bind_eq_ok, Lib.require_eq_ok, Lib.pure_eq_ok, exists_and_left, exists_const] at run
  obtain ⟨-, -, s1, activated, -, -, -, -, -, -, rfl⟩ := run
  have same := (activateCredited_works activated).received
  unfold Packet.creditData
  dsimp only [addCredit, modifyRcvr]
  rw [same]

theorem receivedCredit_succeeds (idle : p.uniqReqId ∉ s.outboundInactive.msgs)
    (bounds : 84 ≤ p.hdr.credit ∧ p.hdr.credit ≤ 1538 ∧ 0 ≤ p.hdr.creditPad ∧ p.hdr.creditPad ≤ 3)
    (some_data : 0 < p.creditData) (known : p.src ∈ s.remotes.keys) (nonneg : 0 ≤ (s.rcvr p.src).availCreditBytes)
    (used : s.creditUsed ≤ s.creditReceived) (asked : s.creditDataReceived + p.creditData ≤ s.creditDataRequested) :
    ∃ s', s.receivedCredit p = .ok s' := by
  obtain ⟨low, high, pad, short⟩ := bounds
  have none : s.activateCredited p.src p.uniqReqId = .ok s := by
    rw [activateCredited_eq, findInactive, if_neg idle]
    rfl
  have frame : p.hdr.credit ≤ maxEthernetFrameOnWire := high
  have byte : 1 + r2p2AllHeadersSize + interPktGapSize + ethernetPreambleSize ≤ p.hdr.credit := by
    have data := some_data
    unfold Packet.creditData at data
    omega
  have spent : s.creditUsed ≤ s.creditReceived + p.hdr.credit := by omega
  have few : p.hdr.creditPad < minR2p2Payload := Int.lt_add_one_of_le short
  unfold receivedCredit assert
  dsimp only [addCredit, modifyRcvr]
  rw [Lib.require_true _ frame, Lib.ok_bind, Lib.require_true _ byte, Lib.ok_bind, none, Lib.ok_bind,
    Lib.require_true _ known, Lib.ok_bind, Lib.require_true _ nonneg, Lib.ok_bind,
      Lib.require_true _ spent, Lib.ok_bind,
    Lib.require_true _ few, Lib.ok_bind, Lib.require_true _ pad, Lib.ok_bind]
  exact ⟨_, (congrArg (· >>= _) (Lib.require_true _ asked)).trans (Lib.ok_bind _ _)⟩

end Sender

namespace Host

variable {env : Env} {h h' : Host} {now : Time} {p : Packet} {stamp : Stamp} {payload : ℕ} {tuple : RequestIdTuple}

def Tallied (h : Host) : Prop := h.snd.creditDataReceived = creditDataSum (h.rcvd.filter Packet.isGrant)

theorem Tallied.of_same (tallied : h.Tallied) (received : h'.snd.creditDataReceived = h.snd.creditDataReceived)
    (rcvd : h'.rcvd = h.rcvd) : h'.Tallied := by
  unfold Tallied
  rw [received, rcvd]
  exact tallied

theorem Tallied.poll (tallied : h.Tallied) (ok : HalvesOk env.cfg h) (run : h.poll env now = .ok h') : h'.Tallied :=
  tallied.of_same (poll_keeps (Sender.received_persists env _) ok rfl run) (poll_ok ok run).1.rcvd

theorem Tallied.startPolling (tallied : h.Tallied) (ok : HalvesOk env.cfg h) (run : h.startPolling env now = .ok h') :
    h'.Tallied :=
  tallied.of_same (startPolling_keeps (Sender.received_persists env _) ok rfl run) (startPolling_ok ok run).rcvd

theorem Tallied.accept (tallied : h.Tallied) (m : OutboundMsgState) (rpc : Rpc) :
    ({ h with snd := h.snd.accept m, rpc } : Host).Tallied :=
  tallied.of_same (Sender.findOrCreate_counts m.remoteAddr).1 rfl

theorem Tallied.sendReq (tallied : h.Tallied) (ok : HalvesOk env.cfg h)
    (run : h.sendReq env now payload tuple = .ok h') :
    h'.Tallied := by
  obtain ⟨-, h1, snd, started, rfl, whole⟩ := sendReq_cases run
  have asks : HalvesOk env.cfg { h with rpc := h.rpc.asked payload tuple } := ok.withRpc _
  have polled : h1.Tallied :=
    Tallied.startPolling (h := { h with rpc := h.rpc.asked payload tuple }) tallied asks started
  rw [whole (startPolling_ok asks started).rpc]
  exact polled.accept _ h1.rpc

theorem Tallied.appSendResponse {thread : ℤ} (tallied : h.Tallied) (ok : HalvesOk env.cfg h)
    (run : h.appSendResponse env now thread payload = .ok h') : h'.Tallied := by
  obtain ⟨tuple, rest, st, h1, -, -, started, -, rfl⟩ := appSendResponse_cases run
  have answers : HalvesOk env.cfg { h with rpc := h.rpc.answered payload tuple now st } := ok.withRpc _
  have polled : h1.Tallied :=
    Tallied.startPolling (h := { h with rpc := h.rpc.answered payload tuple now st }) tallied answers started
  exact polled.accept _ _

theorem Tallied.recv (tallied : h.Tallied) (ok : HalvesOk env.cfg h) (run : h.recv env now p stamp = .ok h') :
    h'.Tallied := by
  obtain ⟨h1, st, started, -, dispatched⟩ := recv_cases run
  have polled : h1.Tallied := tallied.startPolling ok started
  have met : (h1.meets p st).snd.creditDataReceived = h1.snd.creditDataReceived := (Sender.findOrCreate_counts p.src).1
  -- what is no GRANT leaves both sides alone
  have other : p.isGrant = false → (h1.meets p st).Tallied := by
    intro kind
    unfold Tallied at polled ⊢
    have rcvd : (h1.meets p st).rcvd = h1.rcvd ++ [p] := rfl
    rw [met, rcvd, polled, List.filter_append, List.filter_cons_of_neg (by simp [kind]), List.filter_nil,
      List.append_nil]
  cases dispatched with
  | reply rpc single =>
    have data : p.isData = true := by
      unfold Packet.isSingleReply at single
      unfold Packet.isData
      simp_all
    exact other (Packet.isGrant_of_isData data)
  | part rpc rcv _ kind => exact other (Packet.isGrant_of_part kind)
  | credit snd grant _ credited =>
    unfold Tallied at polled ⊢
    have rcvd : (h1.meets p st).rcvd = h1.rcvd ++ [p] := rfl
    dsimp only
    rw [Sender.receivedCredit_received credited, met, rcvd, polled, List.filter_append, List.filter_cons_of_pos grant,
      List.filter_nil, creditDataSum_append]
    simp [creditDataSum]

section Accepted

variable {addr : Addr} {o : InboundMsgState} (granted : GrantPkt addr o p) (started : h.pollStarted = true)

include granted started

theorem recv_grant : h.recv env now p stamp = (do
    let st ← (h.senderOf env p.src).update env.cfg p stamp
    let snd ← (h.snd.findOrCreate p.src).receivedCredit p
    return { h.meets p st with snd }) := by
  have wire : p.size ≤ maxEthernetFrameOnWire ∧ minEthernetFrameOnWire ≤ p.size ∧ p.padding < minR2p2Payload := by
    rw [granted.size, granted.padding]
    decide
  have frame : minEthernetFrame ≤ p.payload + r2p2AllHeadersSize + p.padding ∧
      p.payload + r2p2AllHeadersSize + p.padding ≤ maxEthernetFrame := by
    unfold Packet.payload
    rw [granted.size, granted.padding]
    decide
  have single : ¬ p.isSingleReply = true := by
    unfold Packet.isSingleReply
    simp [granted.msgType]
  have some_credit : 0 < p.hdr.credit := by
    have low := granted.bounds.1
    omega
  unfold recv checkSize startPolling assert
  rw [Lib.require_true _ wire.1, Lib.ok_bind, Lib.require_true _ wire.2.1, Lib.ok_bind, Lib.require_true _ wire.2.2,
    Lib.ok_bind,
    if_pos started, pure_bind]
  dsimp only
  rw [Lib.require_true _ frame.1, Lib.ok_bind, Lib.require_true _ frame.2, Lib.ok_bind]
  unfold updateSenderState
  dsimp only
  rw [bind_assoc]
  apply congrArg ((h.senderOf env p.src).update env.cfg p stamp >>= ·)
  funext st
  rw [pure_bind, dispatch_eq, if_neg single, if_pos some_credit]
  unfold assert
  rw [Lib.require_true _ granted.creditReq, Lib.ok_bind, Lib.require_true _ granted.msgType, Lib.ok_bind]
  rfl

theorem recv_grant_iff (known : p.src ∈ h.snd.remotes.keys) (credited : ∃ snd, h.snd.receivedCredit p = .ok snd) :
    (∃ h', h.recv env now p stamp = .ok h') ↔ (h.senderOf env p.src).Takes env.cfg stamp := by
  obtain ⟨snd, credited⟩ := credited
  have met : h.snd.findOrCreate p.src = h.snd := by
    unfold Sender.findOrCreate
    rw [if_pos known]
  rw [recv_grant granted started, met, credited, ← SenderState.update_succeeds_iff (p := p)]
  simp only [Lib.bind_eq_ok]
  constructor
  · rintro ⟨-, st, window, -⟩
    exact ⟨st, window⟩
  · rintro ⟨st, window⟩
    exact ⟨_, st, window, snd, rfl, rfl⟩

end Accepted

end Host

namespace Net

variable {env : Env} {cfg : Config} {net net' : Net} {e : Event} {cond : Net → Event → Prop}
    {src dst : Addr} {p : Packet}
  {id : UniqReqId}

theorem tallied_act {addr : Addr} {flight : List Packet} {h : Host} (tallied : ∀ a, (net.host a).Tallied)
    (here : h.Tallied) :
    ∀ a, ((net.act addr flight h).host a).Tallied := by
  intro a
  rw [host_act]
  split
  · exact here
  · exact tallied a

theorem fire_tallied (ok : NetOk env.cfg net) (tallied : ∀ a, (net.host a).Tallied) (run : net.fire env e = .ok net') :
    ∀ a, (net'.host a).Tallied := by
  cases e with
  | tick seconds =>
    simp only [Net.fire, Lib.pure_eq_ok] at run
    subst run
    exact tallied
  | request client server clThread srThread appLevelId n =>
    simp only [Net.fire, Lib.bind_eq_ok, Lib.pure_eq_ok] at run
    obtain ⟨h, sends, rfl⟩ := run
    exact tallied_act tallied ((tallied client).sendReq (ok.host client).halves sends)
  | reply server thread n =>
    simp only [Net.fire, Lib.bind_eq_ok, Lib.pure_eq_ok] at run
    obtain ⟨h, sends, rfl⟩ := run
    exact tallied_act tallied ((tallied server).appSendResponse (ok.host server).halves sends)
  | poll addr =>
    simp only [Net.fire, Lib.bind_eq_ok, Lib.pure_eq_ok] at run
    obtain ⟨h, polls, rfl⟩ := run
    exact tallied_act tallied ((tallied addr).poll (ok.host addr).halves polls)
  | deliver p stamp =>
    simp only [Net.fire, Lib.bind_eq_ok, Lib.pure_eq_ok] at run
    obtain ⟨h, recvs, rfl⟩ := run
    exact tallied_act tallied ((tallied p.dst).recv (ok.host p.dst).halves recvs)
  | collect addr =>
    simp only [Net.fire, Lib.pure_eq_ok] at run
    subst run
    exact tallied_act tallied (tallied addr)

theorem Reach.tallied (reach : Reach env cond net) : ∀ a, (net.host a).Tallied := by
  induction reach with
  | init => exact fun a => rfl
  | step before _ _ run ih => exact fire_tallied before.ok ih run

theorem Reach.counted (reach : Reach env cond net) (a : Addr) : (net.host a).snd.Counted :=
  reach.keeps (Sender.counted_keeps env) ⟨le_refl _, le_refl _⟩ a

section Granted

variable (ok : NetOk cfg net)

include ok

theorem message_of_grant (sent : p ∈ (net.host p.src).sent) (grant : p.isGrant = true) :
    p.uniqReqId ∈ (net.msgs p.dst).keys ∧ (net.msg p.dst p.uniqReqId).remoteAddr = p.src ∧
      (net.msg p.dst p.uniqReqId).sentAnouncement = true := by
  have inv := (ok.host p.src).halves.recv.inv
  obtain ⟨known, grantPkt⟩ := inv.grants p (List.mem_filter.mpr ⟨sent, grant⟩)
  obtain ⟨q, arrived, of, -, origin⟩ := inv.first _ known
  have kind := (inv.arrived q arrived).1
  have plain := Packet.isGrant_of_part kind
  obtain ⟨there, towards⟩ := sent_of_rcvd ok (List.mem_of_mem_filter arrived)
  rw [origin, ← grantPkt.dst] at there
  obtain ⟨-, member, remote⟩ := part_of_sent ok there plain
  rw [of] at member remote
  have out : q ∈ (net.host p.dst).sendSide.out := List.mem_filter.mpr ⟨there, by rw [plain]; rfl⟩
  exact ⟨member, remote.symm.trans towards, (msgOk ok member).announced_of_part out
    (of.trans (msg_reqId ok member).symm) kind⟩

variable (flight : p ∈ net.flight)

include flight

theorem due_subperm (src : Addr) : (fromAddr src ((net.host p.dst).rcvd ++ [p])).Subperm (net.host src).sent := by
  have single : (fromAddr src [p]).Subperm (fromAddr src (toAddr p.dst net.flight)) :=
    ((List.singleton_sublist.mpr (mem_toAddr.mpr ⟨flight, rfl⟩)).filter _).subperm
  have link := (ok.link src p.dst).symm.subperm.trans List.filter_sublist.subperm
  rw [fromAddr_append]
  exact (List.perm_append_comm.subperm.trans ((List.subperm_append_right _).mpr single)).trans link

/-- The GRANTs for a message that came, with the one that comes, are among those that were issued for it. -/
theorem grantsOf_subperm (id : UniqReqId) :
    (grantsOf id ((net.host p.dst).rcvd ++ [p])).Subperm (net.grantsFor p.dst id) := by
  have origin : ∀ q ∈ (net.host p.dst).rcvd ++ [p], q ∈ (net.host q.src).sent ∧ q.dst = p.dst := by
    intro q inside
    rcases List.mem_append.mp inside with came | comes
    · exact sent_of_rcvd ok came
    · rw [List.mem_singleton.mp comes]
      exact ⟨sent_of_flight ok flight, rfl⟩
  have own : grantsOf id ((net.host p.dst).rcvd ++ [p]) =
      grantsOf id (fromAddr (net.msg p.dst id).remoteAddr ((net.host p.dst).rcvd ++ [p])) := by
    unfold grantsOf fromAddr
    rw [List.filter_filter]
    apply List.filter_congr
    intro q inside
    obtain ⟨sent, towards⟩ := origin q inside
    cases kept : q.isGrant && q.uniqReqId == id with
    | false => rfl
    | true =>
      obtain ⟨grant, of⟩ : q.isGrant = true ∧ q.uniqReqId = id := by simpa using kept
      have remote := (message_of_grant ok sent grant).2.1
      rw [towards, of] at remote
      simp [remote]
  rw [own]
  exact (due_subperm ok flight _).filter _

end Granted

section Accepted

variable (reach : Reach env cond net) (flight : p ∈ net.flight) (grant : p.isGrant = true)

include reach flight grant

theorem Reach.asked_of_flight :
    (net.host p.dst).snd.creditDataReceived + p.creditData ≤ (net.host p.dst).snd.creditDataRequested := by
  have ok := reach.ok
  have nonneg : ∀ id, ∀ g ∈ net.grantsFor p.dst id, 0 ≤ g.creditData := by
    intro id g inside
    obtain ⟨sent, isGrant, -⟩ := mem_grantsOf.mp inside
    rw [(grantPkt_of_sent ok sent isGrant).2.creditData_eq]
    exact Int.natCast_nonneg _
  have member : ∀ id, ∀ g ∈ grantsOf id ((net.host p.dst).rcvd ++ [p]),
      id ∈ (net.msgs p.dst).keys ∧ (net.msg p.dst id).sentAnouncement = true := by
    intro id g inside
    obtain ⟨came, isGrant, of⟩ := mem_grantsOf.mp inside
    rcases List.mem_append.mp came with came | comes
    · obtain ⟨sent, towards⟩ := sent_of_rcvd ok came
      obtain ⟨here, -, announced⟩ := message_of_grant ok sent isGrant
      rw [of, towards] at here announced
      exact ⟨here, announced⟩
    · rw [List.mem_singleton.mp comes] at of
      obtain ⟨here, -, announced⟩ := message_of_grant ok (sent_of_flight ok flight) grant
      rw [of] at here announced
      exact ⟨here, announced⟩
  have each : ∀ id ∈ (net.msgs p.dst).keys, creditDataSum (grantsOf id ((net.host p.dst).rcvd ++ [p])) ≤
      if (net.msg p.dst id).sentAnouncement then ((net.msg p.dst id).totalBytes : ℤ) else 0 := by
    intro id inside
    rcases List.eq_nil_or_concat (grantsOf id ((net.host p.dst).rcvd ++ [p])) with none | ⟨rest, last, some_grant⟩
    · rw [none]
      split
      · exact Int.natCast_nonneg _
      · exact le_refl _
    · have announced := (member id last (by rw [some_grant]; simp)).2
      rw [if_pos announced]
      have sub := creditDataSum_le_of_subperm (nonneg id) (grantsOf_subperm ok flight id)
      obtain ⟨d, -, -, self, -⟩ := (msgOk ok inside).alloc
      have most := credited_le ok inside
      rw [self] at most
      omega
  have tallied : (net.host p.dst).snd.creditDataReceived + p.creditData =
      creditDataSum (((net.host p.dst).rcvd ++ [p]).filter Packet.isGrant) := by
    rw [reach.tallied p.dst, List.filter_append, List.filter_cons_of_pos grant, List.filter_nil, creditDataSum_append,
      creditDataSum_singleton]
  have items : (net.msgs p.dst).total (fun id _ => creditDataSum (grantsOf id ((net.host p.dst).rcvd ++ [p]))) =
      creditDataSum (((net.host p.dst).rcvd ++ [p]).filter Packet.isGrant) := by
    rw [creditDataSum, ← (net.msgs p.dst).total_items Packet.uniqReqId Packet.creditData]
    · apply Store.total_congr
      intro id inside
      unfold creditDataSum grantsOf
      rw [List.filter_filter]
      simp only [Bool.and_comm, beq_eq_decide]
    · intro g inside
      obtain ⟨came, isGrant⟩ := List.mem_filter.mp inside
      exact (member _ g (mem_grantsOf.mpr ⟨came, isGrant, rfl⟩)).1
  rw [tallied, ← items]
  exact ((net.msgs p.dst).total_le_total each).trans (reach.counted p.dst).announced

omit flight grant in
theorem Reach.pools_nonneg (a : Addr) : ∀ addr ∈ (net.host a).snd.remotes.keys,
    0 ≤ ((net.host a).snd.rcvr addr).availCreditBytes := by
  intro addr member
  have pool : 0 ≤ (net.host a).snd.pool addr := (reach.ok.host a).halves.send.inv.avail_nonneg addr
  unfold Sender.pool at pool
  rwa [if_pos member] at pool

omit flight grant in
theorem Reach.spent (a : Addr) : (net.host a).snd.creditUsed ≤ (net.host a).snd.creditReceived := by
  have paid := (reach.counted a).paid
  have unspent : 0 ≤ (net.host a).snd.unspent := (net.host a).snd.remotes.total_nonneg (reach.pools_nonneg a)
  omega

theorem Reach.credited : ∃ snd, (net.host p.dst).snd.receivedCredit p = .ok snd := by
  have ok := reach.ok
  obtain ⟨inside, remote, announced⟩ := message_of_grant ok (sent_of_flight ok flight) grant
  have granted := (grantPkt_of_sent ok (sent_of_flight ok flight) grant).2
  have known : p.src ∈ (net.host p.dst).snd.remotes.keys := remote ▸ (ok.host p.dst).halves.send.queues.remote _ inside
  have some_data : 0 < p.creditData := by
    have len := granted.len.1
    rw [granted.creditData_eq]
    omega
  have idle : p.uniqReqId ∉ (net.host p.dst).snd.outboundInactive.msgs := fun waits =>
    nomatch announced.symm.trans (unannounced_of_inactive ok waits).1
  exact Sender.receivedCredit_succeeds idle granted.bounds some_data known (reach.pools_nonneg p.dst _ known)
    (reach.spent p.dst)
    (reach.asked_of_flight flight grant)

theorem Reach.deliver_grant_iff {stamp : Stamp} :
    (∃ net', net.fire env (.deliver p stamp) = .ok net') ↔
    ((net.host p.dst).senderOf env p.src).Takes env.cfg stamp := by
  have ok := reach.ok
  obtain ⟨inside, remote, -⟩ := message_of_grant ok (sent_of_flight ok flight) grant
  have known : p.src ∈ (net.host p.dst).snd.remotes.keys := remote ▸ (ok.host p.dst).halves.send.queues.remote _ inside
  have started : (net.host p.dst).pollStarted = true := by
    by_contra idle
    obtain ⟨nobody, -⟩ := (reach.begun p.dst).idle (by simpa using idle)
    rw [nobody] at known
    cases known
  have granted := (grantPkt_of_sent ok (sent_of_flight ok flight) grant).2
  have accepts : (∃ h', (net.host p.dst).recv env net.clock p stamp = .ok h') ↔
      ((net.host p.dst).senderOf env p.src).Takes env.cfg stamp :=
    Host.recv_grant_iff granted started known (reach.credited flight grant)
  rw [← accepts]
  simp only [Net.fire, Lib.bind_eq_ok, Lib.pure_eq_ok]
  constructor
  · rintro ⟨net', h', received, -⟩
    exact ⟨h', received⟩
  · rintro ⟨h', received⟩
    exact ⟨_, h', received, rfl⟩

end Accepted

/-- In every run, whatever the order of its events, no host uses more credit than it received or is granted
more data than it asked for, so that a GRANT in flight is accepted if and only if the windows of its
destination take it. -/
theorem grants_accepted (reach : Reach env cond net) :
    (∀ a, (net.host a).snd.creditUsed ≤ (net.host a).snd.creditReceived ∧
      (net.host a).snd.creditDataReceived ≤ (net.host a).snd.creditDataRequested) ∧
    ∀ p ∈ net.flight, p.isGrant = true → ∀ stamp, ((∃ net', net.fire env (.deliver p stamp) = .ok net') ↔
      ((net.host p.dst).senderOf env p.src).Takes env.cfg stamp) :=
  ⟨fun a => ⟨reach.spent a, reach.requested a⟩, fun _ flight grant _ => reach.deliver_grant_iff flight grant⟩

/-- The first GRANT of three, before the others are issued. -/
theorem grants_accepted_first : ∃ net p net', Reachable tenFrames net ∧ net.flight = [p] ∧ p.isGrant = true ∧
    net.fire tenFrames (.deliver p {}) = .ok net' := by
  have ran : ((init tenFrames.cfg).run tenFrames (allGranted.take 6)).map (fun net => decide (net.flight.length = 1 ∧
      ∀ p ∈ net.flight, p.isGrant = true ∧ ((net.host p.dst).senderOf tenFrames p.src).maxSrpbBytes ≠ 0)) =
        some true := by
    decide +kernel
  obtain ⟨net, run, values⟩ := Option.map_eq_some_iff.mp ran
  obtain ⟨one, each⟩ := of_decide_eq_true values
  obtain ⟨p, flight⟩ := List.length_eq_one_iff.mp one
  have inside : p ∈ net.flight := by
    rw [flight]
    exact List.mem_singleton_self p
  obtain ⟨grant, budget⟩ := each p inside
  have reach : Reachable tenFrames net := Reach.run .init (fun _ _ _ => trivial) run
  obtain ⟨net', accepted⟩ := ((grants_accepted reach).2 p inside grant {}).mpr ⟨Or.inl rfl, fun _ => budget⟩
  exact ⟨net, p, net', reach, flight, grant, accepted⟩

end Net

end PhantomPass
