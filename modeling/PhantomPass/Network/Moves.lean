import PhantomPass.Network.Links
import PhantomPass.Policy.Rounds

/-! What can happen to a sender's policy states, and to its counts of the data that
it asked for and was granted: what every such move keeps holds in every run. -/

set_option autoImplicit false

namespace PhantomPass

open Lib (RoundRobin Store)

namespace Sender

variable {env : Env} {s s1 s' : Sender} {id : UniqReqId} {p : Packet}

def SamePolicies (s s' : Sender) : Prop := s'.remotes.keys = s.remotes.keys ∧ s'.rcverPolicyStates = s.rcverPolicyStates

theorem SamePolicies.trans (first : SamePolicies s s1) (second : SamePolicies s1 s') : SamePolicies s s' :=
  ⟨second.1.trans first.1, second.2.trans first.2⟩

def Requested (s : Sender) : Prop := s.creditDataReceived ≤ s.creditDataRequested

def announcedBytes (s : Sender) : ℤ := s.outbound.total fun _ m => if m.sentAnouncement then (m.totalBytes : ℤ) else 0

def unspent (s : Sender) : ℤ := s.remotes.total fun _ rs => rs.availCreditBytes

/-- The counts cover it: data is asked for when it is announced, and what is spent or left was received. -/
structure Counts (s s' : Sender) : Prop where
  announced : s'.announcedBytes + s.creditDataRequested ≤ s.announcedBytes + s'.creditDataRequested
  paid : s'.creditUsed + s'.unspent + s.creditReceived ≤ s.creditUsed + s.unspent + s'.creditReceived

theorem Counts.trans (first : Counts s s1) (second : Counts s1 s') : Counts s s' where
  announced := by
    have one := first.announced
    have two := second.announced
    omega
  paid := by
    have one := first.paid
    have two := second.paid
    omega

theorem Counts.of_same (outbound : s'.outbound = s.outbound) (remotes : s'.remotes = s.remotes)
    (requested : s'.creditDataRequested = s.creditDataRequested) (used : s'.creditUsed = s.creditUsed)
    (received : s'.creditReceived = s.creditReceived) : Counts s s' := by
  constructor
  · unfold announcedBytes
    rw [outbound, requested]
  · unfold unspent
    rw [remotes, used, received]

/-- The sender announces or sends: it asks for more data at most. -/
structure Works (s s' : Sender) : Prop where
  same : SamePolicies s s'
  received : s'.creditDataReceived = s.creditDataReceived
  requested : s.creditDataRequested ≤ s'.creditDataRequested
  counts : Counts s s'

theorem Works.trans (first : Works s s1) (second : Works s1 s') : Works s s' where
  same := first.same.trans second.same
  received := second.received.trans first.received
  requested := first.requested.trans second.requested
  counts := first.counts.trans second.counts

theorem Works.refl (s : Sender) : Works s s := ⟨⟨rfl, rfl⟩, rfl, le_refl _, .of_same rfl rfl rfl rfl rfl⟩

theorem Works.turn {inactive : RoundRobin UniqReqId} (works : Works { s with outboundInactive := inactive } s') :
    Works s s' :=
  ⟨works.same, works.received, works.requested, works.counts.announced, works.counts.paid⟩

theorem Works.keeps_requested (works : Works s s') (requested : s.Requested) : s'.Requested := by
  unfold Requested
  rw [works.received]
  exact requested.trans works.requested

/-- The sender gets credit, and has asked for the data that it counts. -/
structure Credited (s s' : Sender) : Prop where
  same : SamePolicies s s'
  counted : s'.Requested
  counts : Counts s s'

structure Persists (env : Env) (P : Sender → Prop) : Prop where
  works : ∀ s s', Works s s' → P s → P s'
  round : ∀ s s1 s2 selected, s.updatePolicyState env = .ok s1 → s1.selectMsgToSend env.plat = .ok (selected, s2) →
    P s → P s2

structure Keeps (env : Env) (P : Sender → Prop) : Prop extends Persists env P where
  credited : ∀ s s', Credited s s' → P s → P s'
  meets : ∀ s addr, P s → P (s.findOrCreate addr)

section Tables

theorem findOrCreate_counts (addr : Addr) : (s.findOrCreate addr).creditDataReceived = s.creditDataReceived ∧
    (s.findOrCreate addr).creditDataRequested = s.creditDataRequested := by
  unfold findOrCreate
  split <;> exact ⟨rfl, rfl⟩

theorem counts_findOrCreate (s : Sender) (addr : Addr) : Counts s (s.findOrCreate addr) := by
  unfold findOrCreate
  split
  · exact .of_same rfl rfl rfl rfl rfl
  · next unknown =>
    refine ⟨le_refl _, ?_⟩
    unfold unspent
    dsimp only
    rw [Store.total_insert s.remotes _ unknown]
    dsimp only
    omega

theorem counts_modifyMsg (id : UniqReqId) (change : OutboundMsgState → OutboundMsgState)
    (announced : (change (s.msg id)).sentAnouncement = (s.msg id).sentAnouncement)
    (total : (change (s.msg id)).totalBytes = (s.msg id).totalBytes) : Counts s (s.modifyMsg id change) := by
  refine ⟨?_, le_refl _⟩
  unfold announcedBytes modifyMsg
  dsimp only
  rw [Store.total_modify_of_eq]
  unfold msg at announced total
  rw [announced, total]

theorem counts_modifyRcvr (addr : Addr) (change : ReceiverState → ReceiverState)
    (same : (change (s.rcvr addr)).availCreditBytes = (s.rcvr addr).availCreditBytes) : Counts s
    (s.modifyRcvr addr change) := by
  refine ⟨le_refl _, ?_⟩
  unfold unspent modifyRcvr
  dsimp only
  rw [Store.total_modify_of_eq s.remotes addr change _ same]

theorem counts_addCredit (s : Sender) (addr : Addr) {credit : ℤ} (data : ℤ) (nonneg : 0 ≤ credit) :
    Counts s { s.addCredit addr credit data with creditReceived := s.creditReceived + credit } := by
  refine ⟨le_refl _, ?_⟩
  have most := Store.total_modify_le s.remotes addr
    (fun rs => { rs with
      availCreditBytes := rs.availCreditBytes + credit
      availCreditDataBytes := rs.availCreditDataBytes + data })
    (fun _ rs => rs.availCreditBytes) nonneg (le_refl _)
  unfold unspent addCredit modifyRcvr
  dsimp only at most ⊢
  omega

theorem counts_takeCredit (cfg : Config) (id : UniqReqId) {bytes : ℤ} (dataBytes : ℤ) (nonneg : 0 ≤ bytes) :
    Counts s (s.takeCredit cfg id bytes dataBytes) := by
  have marked : Counts s (s.modifyMsg id (·.credited cfg bytes dataBytes)) := counts_modifyMsg id _ rfl rfl
  exact ⟨marked.announced, (counts_addCredit s (s.msg id).remoteAddr dataBytes nonneg).paid⟩

theorem counts_accept (s : Sender) {m : OutboundMsgState} (quiet : m.sentAnouncement = false) :
    Counts (s.findOrCreate m.remoteAddr) (s.accept m) := by
  refine ⟨?_, le_refl _⟩
  have outbound : (s.findOrCreate m.remoteAddr).outbound = s.outbound := by
    unfold findOrCreate
    split <;> rfl
  have nonneg : 0 ≤ if m.reqId ∈ s.outbound.keys then
      (if (s.outbound.get m.reqId).sentAnouncement then ((s.outbound.get m.reqId).totalBytes : ℤ) else 0) else 0 := by
    split_ifs <;> omega
  unfold announcedBytes accept
  dsimp only
  rw [outbound, Store.total_insert_or, quiet, if_neg Bool.false_ne_true]
  omega

theorem Keeps.accept {P : Sender → Prop} (keeps : Keeps env P) (holds : P s) {m : OutboundMsgState}
    (quiet : m.sentAnouncement = false) : P (s.accept m) := by
  have works : Works (s.findOrCreate m.remoteAddr) (s.accept m) := ⟨⟨rfl, rfl⟩, rfl, le_refl _, counts_accept s quiet⟩
  exact keeps.works _ _ works (keeps.meets s m.remoteAddr holds)

end Tables

theorem requested_keeps (env : Env) : Keeps env Requested where
  works _ _ works := works.keeps_requested
  credited _ _ credited _ := credited.counted
  meets s addr requested := by
    unfold Requested
    rw [(findOrCreate_counts addr).1, (findOrCreate_counts addr).2]
    exact requested
  round s s1 s2 selected update select requested := by
    obtain ⟨first, picks⟩ := updatePolicyState_ok update
    obtain ⟨-, -, sent, received⟩ := (first.trans (selectMsgToSend_ok select picks).1).counters
    unfold Requested
    rw [sent, received]
    exact requested

theorem selfCredit_works {cfg : Config} (run : selfCredit cfg id s = .ok s') : Works s s' := by
  unfold selfCredit at run
  dsimp only at run
  split at run
  · simp only [Lib.bind_eq_ok, Lib.pure_eq_ok] at run
    obtain ⟨-, -, -, -, rfl⟩ := run
    have bytes : (0 : ℤ) ≤
      max (selfAllocation cfg (s.msg id).totalBytes (s.rcvr (s.msg id).remoteAddr).availCreditBytes).1
        minEthernetFrameOnWire := le_trans (Int.natCast_nonneg _) (le_max_right _ _)
    exact ⟨⟨rfl, rfl⟩, rfl, le_refl _, counts_takeCredit cfg id _ bytes⟩
  · rw [Lib.pure_eq_ok] at run
    subst run
    exact .refl s

theorem selfCreditLoop_works {cfg : Config} {turns : ℕ} (run : selfCreditLoop cfg turns s = .ok s') : Works s s' := by
  induction turns generalizing s with
  | zero =>
    simp only [selfCreditLoop, Lib.pure_eq_ok] at run
    subst run
    exact .refl s
  | succ turns ih =>
    unfold selfCreditLoop at run
    split at run
    · cases run
    · simp only [Lib.bind_eq_ok] at run
      obtain ⟨s1, credited, run⟩ := run
      exact (selfCredit_works credited).turn.trans (ih run)

theorem moveToReceiver_works (run : s.moveToReceiver id = .ok s') : Works s s' := by
  unfold moveToReceiver at run
  split at run
  · cases run
  · rw [Lib.pure_eq_ok] at run
    subst run
    refine ⟨⟨rfl, rfl⟩, rfl, le_refl _, ?_⟩
    have marked : Counts s (s.modifyMsg id fun m => { m with active := true }) := counts_modifyMsg id _ rfl rfl
    have queued := counts_modifyRcvr (s := s.modifyMsg id fun m => { m with active := true }) (s.msg id).remoteAddr
      (fun rs => { rs with outMsgs := rs.outMsgs.append id }) rfl
    exact (marked.trans queued).trans (.of_same rfl rfl rfl rfl rfl)

theorem activateCredited_works {receiver : Addr} (run : s.activateCredited receiver id = .ok s') : Works s s' := by
  rw [activateCredited_eq] at run
  split at run
  · rw [Lib.pure_eq_ok] at run
    subst run
    exact .refl s
  · simp only [Lib.bind_eq_ok] at run
    obtain ⟨-, -, moved⟩ := run
    exact moveToReceiver_works moved

theorem receivedCredit_counts (run : s.receivedCredit p = .ok s') : Credited s s' := by
  unfold receivedCredit assert at run
  dsimp only at run
  simp only [Lib.bind_eq_ok, Lib.require_eq_ok, Lib.pure_eq_ok, exists_and_left, exists_const] at run
  obtain ⟨-, low, s1, activated, -, -, -, -, -, counted, rfl⟩ := run
  have first := activateCredited_works activated
  refine ⟨first.same, counted,
    first.counts.trans ((counts_addCredit s1 p.src _ ?_).trans (.of_same rfl rfl rfl rfl rfl))⟩
  omega

end Sender

namespace Host

open Sender (Works Keeps Persists)

variable {env : Env} {h h' : Host} {id : UniqReqId} {payload : ℕ} {now : Time} {p : Packet} {stamp : Stamp}

theorem sendGrantReq_works (run : h.sendGrantReq env id = .ok h') : Works h.snd h'.snd := by
  unfold sendGrantReq at run
  simp only [Lib.bind_eq_ok, Lib.pure_eq_ok] at run
  obtain ⟨-, -, h1, forward, -, -, rfl⟩ := run
  have same := forwardToTransport_snd forward
  have most : ((h.snd.outbound.get id).totalBytes : ℤ) ≤
      (if (h.snd.outbound.get id).sentAnouncement then ((h.snd.outbound.get id).totalBytes : ℤ) else 0) +
        (h.snd.msg id).totalBytes := by
    unfold Sender.msg
    split <;> omega
  have asked := Store.total_modify_le h.snd.outbound id (fun m => { m with sentAnouncement := true })
    (fun _ m => if m.sentAnouncement then (m.totalBytes : ℤ) else 0) (Int.natCast_nonneg (h.snd.msg id).totalBytes) most
  rw [same]
  refine ⟨⟨rfl, rfl⟩, rfl, ?_, ?_, le_refl _⟩
  · dsimp only
    omega
  · unfold Sender.announcedBytes Sender.modifyMsg
    dsimp only
    omega

theorem activate_works (run : h.activate env id = .ok h') : Works h.snd h'.snd := by
  unfold activate at run
  dsimp only at run
  split at run
  · rw [Lib.pure_eq_ok] at run
    subst run
    exact .refl h.snd
  · simp only [Lib.bind_eq_ok] at run
    obtain ⟨-, -, run⟩ := run
    split at run
    · simp only [Lib.bind_eq_ok, Lib.pure_eq_ok] at run
      obtain ⟨h1, request, snd, moved, rfl⟩ := run
      exact (sendGrantReq_works request).trans (Sender.moveToReceiver_works moved)
    · simp only [pure_bind, Lib.bind_eq_ok, Lib.pure_eq_ok] at run
      obtain ⟨snd, moved, rfl⟩ := run
      exact Sender.moveToReceiver_works moved

theorem activateLoop_works {turns : ℕ} (run : h.activateLoop env turns = .ok h') : Works h.snd h'.snd := by
  induction turns generalizing h with
  | zero =>
    simp only [activateLoop, Lib.pure_eq_ok] at run
    subst run
    exact .refl h.snd
  | succ turns ih =>
    unfold activateLoop at run
    split at run
    · cases run
    · simp only [Lib.bind_eq_ok] at run
      obtain ⟨h1, activated, run⟩ := run
      have first := activate_works activated
      exact (Sender.Works.turn first).trans (ih run)

theorem announce_works (run : h.announce env = .ok h') : Works h.snd h'.snd := by
  unfold announce at run
  simp only [Lib.bind_eq_ok] at run
  obtain ⟨snd, credited, run⟩ := run
  have second : Works snd h'.snd := activateLoop_works run
  exact (Sender.selfCreditLoop_works credited).trans second

theorem spend_counts (known : (h.snd.msg id).remoteAddr ∈ h.snd.remotes.keys) : Sender.Counts h.snd
    (h.spend id).snd := by
  constructor
  case announced =>
    have more : 0 ≤ requestedWith (h.snd.msg id) h - h.snd.creditDataRequested := by
      unfold requestedWith
      split <;> omega
    have asked := Store.total_modify_le h.snd.outbound id OutboundMsgState.afterPacket
      (fun _ m => if m.sentAnouncement then (m.totalBytes : ℤ) else 0) more (by
        unfold requestedWith OutboundMsgState.afterPacket Sender.msg
        dsimp only
        cases (h.snd.outbound.get id).isScheduled <;> cases (h.snd.outbound.get id).sentAnouncement <;> simp)
    unfold Sender.announcedBytes spend Sender.modifyMsg Sender.modifyRcvr
    dsimp only
    omega
  case paid =>
    unfold Sender.unspent spend Sender.modifyMsg Sender.modifyRcvr
    dsimp only
    rw [Store.total_modify h.snd.remotes _ known]
    dsimp only
    omega

theorem transmit_works {ps : PolicyState} (known : (h.snd.msg id).remoteAddr ∈ h.snd.remotes.keys)
    (run : h.transmit env ps id = .ok h') : Works h.snd h'.snd := by
  unfold transmit at run
  dsimp only at run
  simp only [Lib.bind_eq_ok] at run
  obtain ⟨-, -, h1, forward, -, -, finish⟩ := run
  have snd : h1.snd = (h.spend id).snd := forwardToTransport_snd forward
  have spent : Works h.snd h1.snd := by
    rw [snd]
    refine ⟨⟨rfl, rfl⟩, rfl, ?_, spend_counts known⟩
    change h.snd.creditDataRequested ≤ requestedWith (h.snd.msg id) h
    unfold requestedWith
    split <;> omega
  split at finish
  · unfold dropSent at finish
    split at finish
    · cases finish
    · next outMsgs _ =>
      rw [Lib.pure_eq_ok] at finish
      subst finish
      refine ⟨spent.same, spent.received, spent.requested, spent.counts.trans ?_⟩
      exact Sender.counts_modifyRcvr _ (fun rs => { rs with outMsgs }) rfl
  · rw [Lib.pure_eq_ok] at finish
    subst finish
    exact spent

section Runs

variable {P : Sender → Prop}

section Polls

variable (persists : Persists env P)

include persists

theorem sendSelected_keeps (ok : SendOk env.cfg h) (holds : P h.snd) (run : h.sendSelected env = .ok h') :
    P h'.snd := by
  unfold sendSelected at run
  simp only [Lib.bind_eq_ok] at run
  obtain ⟨s1, update, ⟨selected, s2⟩, select, run⟩ := run
  have round := persists.round _ _ _ _ update select holds
  obtain ⟨chooses1, picks⟩ := Sender.updatePolicyState_ok update
  obtain ⟨chooses2, picked⟩ := Sender.selectMsgToSend_ok select picks
  have queues := (chooses_ok ok (chooses1.trans chooses2)).ok.queues
  dsimp only at run
  split at run
  · rw [Lib.pure_eq_ok] at run
    subst run
    exact round
  · next chosen =>
    obtain ⟨here, can, pick⟩ := picked chosen rfl
    split at run
    · cases run
    · next id state =>
      have known : (s2.msg id).remoteAddr ∈ s2.remotes.keys := by
        rcases pick with ⟨cannot, -⟩ | ⟨-, best, queued, named, -⟩
        · cases can.symm.trans cannot
        · obtain rfl := Option.some.inj (state.symm.trans named)
          exact queues.remote id ((queues.queue chosen here id).mp queued).1
      have sent : Works s2 h'.snd := transmit_works known run
      exact persists.works _ _ sent round

theorem sendData_keeps (ok : SendOk env.cfg h) (holds : P h.snd) (run : h.sendData env now = .ok h') : P h'.snd := by
  unfold sendData at run
  dsimp only at run
  split at run
  · rw [Lib.pure_eq_ok] at run
    subst run
    exact holds
  · simp only [Lib.bind_eq_ok] at run
    obtain ⟨h1, announced, run⟩ := run
    have sends := (announce_ok (h := h.updateDataBacklog env now) (ok.quiet ok.queues .refl rfl rfl rfl) announced).1
    have announces : Works (h.updateDataBacklog env now).snd h1.snd := announce_works announced
    have first := persists.works _ _ announces holds
    split at run
    · rw [Lib.pure_eq_ok] at run
      subst run
      exact first
    · exact sendSelected_keeps persists sends.ok first run

theorem poll_keeps (ok : HalvesOk env.cfg h) (holds : P h.snd) (run : h.poll env now = .ok h') : P h'.snd := by
  unfold poll at run
  simp only [Lib.bind_eq_ok] at run
  obtain ⟨h1, grants, h2, data, trace⟩ := run
  have first : P h1.snd := by
    rw [(sendGrants_ok ok grants).snd]
    exact holds
  have second := sendData_keeps persists (sendGrants_ok ok grants).ok.send first data
  unfold pollTrace at trace
  split at trace
  · simp only [Lib.bind_eq_ok, Lib.pure_eq_ok] at trace
    obtain ⟨-, -, -, -, rfl⟩ := trace
    exact second
  · rw [Lib.pure_eq_ok] at trace
    subst trace
    exact second

theorem startPolling_keeps (ok : HalvesOk env.cfg h) (holds : P h.snd) (run : h.startPolling env now = .ok h') :
    P h'.snd := by
  unfold startPolling at run
  split at run
  · rw [Lib.pure_eq_ok] at run
    subst run
    exact holds
  · simp only [Lib.bind_eq_ok, Lib.pure_eq_ok] at run
    obtain ⟨h1, polled, rfl⟩ := run
    have polls := poll_keeps persists ok holds polled
    exact polls

end Polls

variable (keeps : Keeps env P)

include keeps

theorem dispatched_keeps (holds : P h.snd) (dispatched : Dispatched env p h h') : P h'.snd := by
  cases dispatched with
  | reply rpc => exact holds
  | credit snd _ _ credited =>
    exact keeps.credited _ _ (Sender.receivedCredit_counts credited) holds
  | part rpc rcv => exact holds

theorem recv_keeps (ok : HalvesOk env.cfg h) (holds : P h.snd) (run : h.recv env now p stamp = .ok h') : P h'.snd := by
  obtain ⟨h1, st, started, -, dispatched⟩ := recv_cases run
  have polled := startPolling_keeps keeps.toPersists ok holds started
  have met : P (h1.meets p st).snd := keeps.meets _ p.src polled
  exact dispatched_keeps keeps met dispatched

theorem sendReq_keeps {tuple : RequestIdTuple} (ok : HalvesOk env.cfg h) (holds : P h.snd)
    (run : h.sendReq env now payload tuple = .ok h') : P h'.snd := by
  obtain ⟨-, h1, snd, started, rfl, whole⟩ := sendReq_cases run
  have asks : HalvesOk env.cfg { h with rpc := h.rpc.asked payload tuple } := ok.withRpc _
  have polled : P h1.snd := startPolling_keeps keeps.toPersists asks holds started
  have same : snd = _ := whole (startPolling_ok asks started).rpc
  subst same
  exact keeps.accept polled rfl

theorem appSendResponse_keeps {thread : ℤ} (ok : HalvesOk env.cfg h) (holds : P h.snd)
    (run : h.appSendResponse env now thread payload = .ok h') : P h'.snd := by
  obtain ⟨tuple, rest, st, h1, -, -, started, -, rfl⟩ := appSendResponse_cases run
  have answers : HalvesOk env.cfg { h with rpc := h.rpc.answered payload tuple now st } := ok.withRpc _
  have polled : P h1.snd := startPolling_keeps keeps.toPersists answers holds started
  exact keeps.accept polled rfl

end Runs

end Host

namespace Net

open Sender (Keeps)

variable {env : Env} {net net' : Net} {e : Event} {P : Sender → Prop} {cond : Net → Event → Prop}

theorem keeps_act {addr : Addr} {flight : List Packet} {h : Host} (before : ∀ a, P (net.host a).snd) (here : P h.snd) :
    ∀ a, P ((net.act addr flight h).host a).snd := by
  intro a
  rw [host_act]
  split
  · exact here
  · exact before a

theorem fire_keeps (keeps : Keeps env P) (ok : NetOk env.cfg net) (before : ∀ a, P (net.host a).snd)
    (run : net.fire env e = .ok net') : ∀ a, P (net'.host a).snd := by
  cases e with
  | tick seconds =>
    simp only [Net.fire, Lib.pure_eq_ok] at run
    subst run
    exact before
  | request client server clThread srThread appLevelId n =>
    simp only [Net.fire, Lib.bind_eq_ok, Lib.pure_eq_ok] at run
    obtain ⟨h, sends, rfl⟩ := run
    exact keeps_act before (Host.sendReq_keeps keeps (ok.host client).halves (before client) sends)
  | reply server thread n =>
    simp only [Net.fire, Lib.bind_eq_ok, Lib.pure_eq_ok] at run
    obtain ⟨h, sends, rfl⟩ := run
    exact keeps_act before (Host.appSendResponse_keeps keeps (ok.host server).halves (before server) sends)
  | poll addr =>
    simp only [Net.fire, Lib.bind_eq_ok, Lib.pure_eq_ok] at run
    obtain ⟨h, polls, rfl⟩ := run
    exact keeps_act before (Host.poll_keeps keeps.toPersists (ok.host addr).halves (before addr) polls)
  | deliver p stamp =>
    simp only [Net.fire, Lib.bind_eq_ok, Lib.pure_eq_ok] at run
    obtain ⟨h, recvs, rfl⟩ := run
    exact keeps_act before (Host.recv_keeps keeps (ok.host p.dst).halves (before p.dst) recvs)
  | collect addr =>
    simp only [Net.fire, Lib.pure_eq_ok] at run
    subst run
    exact keeps_act before (before addr)

theorem Reach.keeps (keeps : Keeps env P) (start : P {}) (reach : Reach env cond net) : ∀ a, P (net.host a).snd := by
  induction reach with
  | init => exact fun a => start
  | step before _ _ run ih => exact fire_keeps keeps (Reach.ok before) ih run

theorem Reach.requested (reach : Reach env cond net) (a : Addr) : (net.host a).snd.Requested :=
  reach.keeps (Sender.requested_keeps env) (le_refl _) a

end Net

end PhantomPass
