import PhantomPass.Network.Moves
import PhantomPass.Network.Pools
import PhantomPass.Pacing.Runs
import PhantomPass.Refinement.Announceable

/-! Messages of a host in a run: each credits itself at most once, waits in one
vector at a time, and is not found there by the lookup of received_credit. -/

set_option autoImplicit false

namespace PhantomPass

open Lib (RoundRobin Store)

namespace SendSide

variable {cfg : Config} {s s' : SendSide}

theorem Step.checked (step : Step cfg s s') {id : UniqReqId} (inside : id ∈ s.msgs.keys)
    (done : (s.msgs.get id).usnsolCheckDone = true) :
    (s'.msgs.get id).usnsolCheckDone = true ∧ (s'.msgs.get id).selfAllocCredit = (s.msgs.get id).selfAllocCredit := by
  cases step with
  | enqueue m fresh new =>
    have other : id ≠ m.reqId := fun same => fresh (same ▸ inside)
    rw [show (s.enqueue m).msgs.get id = s.msgs.get id from Store.get_insert_of_ne _ _ other]
    exact ⟨done, rfl⟩
  | selfCredit id' prefixLen _ _ unchecked =>
    have other : id ≠ id' := by
      rintro rfl
      rw [unchecked] at done
      cases done
    rw [msgs_selfCredit, Store.get_modify_of_ne _ _ other]
    exact ⟨done, rfl⟩
  | activate id' =>
    rw [msgs_activate, Store.get_modify]
    split
    · next same => exact same ▸ ⟨done, rfl⟩
    · exact ⟨done, rfl⟩
  | announce id' p =>
    rw [msgs_announce, Store.get_modify]
    split
    · next same => exact same ▸ ⟨done, rfl⟩
    · exact ⟨done, rfl⟩
  | transmit id' ps p =>
    rw [msgs_transmit, Store.get_modify]
    split
    · next same => exact same ▸ ⟨done, rfl⟩
    · exact ⟨done, rfl⟩
  | credit p => exact ⟨done, rfl⟩

theorem Steps.checked (steps : Steps cfg s s') {id : UniqReqId} (inside : id ∈ s.msgs.keys)
    (done : (s.msgs.get id).usnsolCheckDone = true) :
    (s'.msgs.get id).usnsolCheckDone = true ∧ (s'.msgs.get id).selfAllocCredit = (s.msgs.get id).selfAllocCredit := by
  induction steps with
  | refl => exact ⟨done, rfl⟩
  | tail before last ih =>
    have step := last.checked (Steps.fixed before inside).1 ih.1
    exact ⟨step.1, step.2.trans ih.2⟩

end SendSide

namespace Net

variable {env : Env} {net net' : Net} {e : Event} {a : Addr} {id : UniqReqId}

/-- Two states of a message between which it credits itself nothing more. -/
def KeepsCredit (m m' : OutboundMsgState) : Prop :=
  m.usnsolCheckDone = true → m'.usnsolCheckDone = true ∧ m'.selfAllocCredit = m.selfAllocCredit

theorem keepsCredit_steps {cfg : Config} {h h' : Host} (steps : SendSide.Steps cfg h.sendSide h'.sendSide)
    (inside : id ∈ h.snd.outbound.keys) :
    id ∈ h'.snd.outbound.keys ∧ KeepsCredit (h.snd.msg id) (h'.snd.msg id) :=
  ⟨(steps.fixed inside).1, fun done => steps.checked inside done⟩

theorem keepsCredit_accept {s : Sender} {m : OutboundMsgState} (inside : id ∈ s.outbound.keys)
    (fresh : m.reqId ∉ s.outbound.keys) :
    id ∈ (s.accept m).outbound.keys ∧ (s.accept m).msg id = s.msg id := by
  have other : id ≠ m.reqId := fun same => fresh (same ▸ inside)
  refine ⟨(Host.mem_outbound_accept ..).mpr (Or.inl inside), ?_⟩
  rw [Host.msg_accept, if_neg other]

theorem keepsCredit_act {addr : Addr} {flight : List Packet} {h : Host} (inside : id ∈ (net.msgs a).keys)
    (here : id ∈ (net.host addr).snd.outbound.keys → id ∈ h.snd.outbound.keys ∧ KeepsCredit ((net.host addr).snd.msg id)
    (h.snd.msg id)) :
    id ∈ ((net.act addr flight h).msgs a).keys ∧ KeepsCredit (net.msg a id) ((net.act addr flight h).msg a id) := by
  unfold msgs msg at *
  rw [host_act]
  split
  · next same =>
    subst same
    exact here inside
  · exact ⟨inside, fun done => ⟨done, rfl⟩⟩

theorem keepsCredit_fire (ok : NetOk env.cfg net) (enabled : net.Enabled env e) (run : net.fire env e = .ok net')
    (inside : id ∈ (net.msgs a).keys) : id ∈ (net'.msgs a).keys ∧ KeepsCredit (net.msg a id) (net'.msg a id) := by
  cases fire_cases ok enabled run with
  | tick seconds => exact ⟨inside, fun done => ⟨done, rfl⟩⟩
  | request client server clThread srThread appLevelId n tuple h1 polls fresh =>
    refine keepsCredit_act inside fun here => ?_
    obtain ⟨there, keeps⟩ := keepsCredit_steps polls.send here
    obtain ⟨stays, same⟩ := keepsCredit_accept there (fun old => fresh (polls.keys ▸ old))
    exact ⟨stays, same ▸ keeps⟩
  | reply server thread n tuple rest st h1 polls fresh =>
    refine keepsCredit_act inside fun here => ?_
    obtain ⟨there, keeps⟩ := keepsCredit_steps polls.send here
    obtain ⟨stays, same⟩ := keepsCredit_accept there (fun old => fresh (polls.keys ▸ old))
    exact ⟨stays, same ▸ keeps⟩
  | poll addr h polls => exact keepsCredit_act inside (keepsCredit_steps polls.send)
  | deliver p stamp h1 h received polls arrives =>
    refine keepsCredit_act inside fun here => ?_
    obtain ⟨there, keeps⟩ := keepsCredit_steps polls.send here
    rw [show h.snd.msg id = h1.snd.msg id from congrArg (Store.get · id) arrives.outbound,
      show h.snd.outbound = h1.snd.outbound from arrives.outbound]
    exact ⟨there, keeps⟩
  | collect addr => exact keepsCredit_act inside fun here => ⟨here, fun done => ⟨done, rfl⟩⟩

theorem Steps.keepsCredit (ok : NetOk env.cfg net) (steps : Steps env net net') (inside : id ∈ (net.msgs a).keys) :
    id ∈ (net'.msgs a).keys ∧ KeepsCredit (net.msg a id) (net'.msg a id) := by
  have all : NetOk env.cfg net' ∧ id ∈ (net'.msgs a).keys ∧ KeepsCredit (net.msg a id) (net'.msg a id) := by
    induction steps with
    | refl => exact ⟨ok, inside, fun done => ⟨done, rfl⟩⟩
    | tail _ last ih =>
      obtain ⟨e, enabled, run⟩ := last
      obtain ⟨still, there, keeps⟩ := ih
      obtain ⟨stays, next⟩ := keepsCredit_fire still enabled run there
      refine ⟨still.fire enabled run, stays, fun done => ?_⟩
      obtain ⟨checked, same⟩ := keeps done
      obtain ⟨checked', same'⟩ := next checked
      exact ⟨checked', same'.trans same⟩
  exact all.2

theorem unannounced_of_inactive {cfg : Config} (ok : NetOk cfg net)
    (inside : id ∈ (net.host a).snd.outboundInactive.msgs) :
    (net.host a).snd.Unannounced id := by
  obtain ⟨member, idle⟩ := ((ok.host a).halves.send.queues.inactive id).mp inside
  have msg := msgOk ok member
  obtain ⟨quiet, unsent⟩ := msg.idle idle
  have pos := msg.total_pos
  exact ⟨quiet, unsent.symm ▸ pos⟩

/-- A call of send_data has done with the inactive messages what it should, whatever becomes of the packet
that it selects then. -/
structure Handles (env : Env) (now : Time) (h h1 : Host) : Prop where
  announced : (h.updateDataBacklog env now).announce env = .ok h1
  activation : Host.Activation env.cfg h h1
  once : ∀ id ∈ h.snd.outboundInactive.msgs, (h1.snd.rcvr (h.snd.msg id).remoteAddr).outMsgs.msgs.count id = 1
  rest : h.sendData env now =
    if (3 / 2 : ℚ) * env.cfg.bytesDrainedPerLoop < h1.dataPacerBacklog then return h1 else h1.sendSelected env
  tail : ∀ h', h.sendData env now = .ok h' → Host.Tail h1 h' ∧ h'.snd.outboundInactive.msgs = []

theorem handles_of_announce {now : Time} {h h1 : Host} (known : h.snd.remotes.keys ≠ []) (queues : h.snd.Queues)
    (unannounced : ∀ id ∈ h.snd.outboundInactive.msgs, h.snd.Unannounced id)
    (announced : (h.updateDataBacklog env now).announce env = .ok h1) : Handles env now h h1 := by
  have activation := Host.activation_updated
    (Host.announce_exact (h := h.updateDataBacklog env now) queues unannounced announced)
  have rest := Host.sendData_eq env now known
  rw [announced, Lib.ok_bind] at rest
  refine ⟨announced, activation, fun id inside => ?_, rest, fun h' run => ?_⟩
  · obtain ⟨member, idle⟩ := (queues.inactive id).mp inside
    have there := queues.remote id member
    have fresh : id ∉ (h.snd.rcvr (h.snd.msg id).remoteAddr).outMsgs.msgs := by
      intro queued
      have active := ((queues.queue _ there id).mp queued).2.1
      rw [idle] at active
      cases active
    have nodup := RoundRobin.nodup_upcoming rfl queues.inactive_nodup
    have joined : id ∈ h.snd.outboundInactive.upcoming.filter fun other =>
        (h.snd.msg other).remoteAddr = (h.snd.msg id).remoteAddr :=
      List.mem_filter.mpr ⟨(h.snd.outboundInactive.mem_upcoming id).mpr inside, by simp⟩
    rw [activation.queue, List.count_append, List.count_eq_zero_of_not_mem fresh, Nat.zero_add]
    exact List.count_eq_one_of_mem (nodup.filter _) joined
  · rw [rest] at run
    have tail := Host.rest_tail run
    exact ⟨tail, by rw [tail.inactive, activation.inactive]⟩

/-- What a message is when its turn comes in a run: only the configuration and, under algorithm 2, what the
receivers owe decide. -/
theorem announceable_iff {cond : Net → Event → Prop} (reach : Reach env cond net) (a : Addr) :
    (net.host a).Announceable env ↔
      (∀ id ∈ (net.host a).snd.outboundInactive.msgs, Sender.Eligible env.cfg (net.msg a id) →
        Sender.Creditable env.cfg (net.msg a id).totalBytes) ∧
      ∀ pre id post, (net.host a).snd.outboundInactive.upcoming = pre ++ id :: post →
        Host.AsksCredit env.cfg (net.msg a id) → env.cfg.senderAlgo ≠ 101 ∧
          (env.cfg.senderAlgo = 2 → (net.host a).OwesBehind env.cfg pre) := by
  have queues := (reach.ok.host a).halves.send.queues
  have inside : ∀ {pre id post}, (net.host a).snd.outboundInactive.upcoming = pre ++ id :: post →
      id ∈ (net.host a).snd.outboundInactive.msgs := by
    intro pre id post split
    rw [← RoundRobin.mem_upcoming, split]
    exact List.mem_append_right _ List.mem_cons_self
  have member : ∀ {id}, id ∈ (net.host a).snd.outboundInactive.msgs → id ∈ (net.msgs a).keys :=
    fun waits => ((queues.inactive _).mp waits).1
  constructor
  · intro announceable
    refine ⟨fun id waits eligible => (announceable.credits id waits eligible).1, fun pre id post split asks => ?_⟩
    have can := (announceable.turns pre id post split).2 (decide_eq_true asks)
    exact ⟨can.implemented, can.expected⟩
  · rintro ⟨credits, turns⟩
    refine ⟨fun id waits eligible => ⟨credits id waits eligible, ?_⟩, fun pre id post split => ⟨?_, fun asks => ?_⟩⟩
    · rw [← Sender.pool_eq (queues.remote id (member waits))]
      exact (reach.ok.host a).halves.send.inv.avail_nonneg _
    · exact ((msgOk reach.ok (member (inside split))).idle ((queues.inactive id).mp (inside split)).2).2.symm
    · have msg := msgOk reach.ok (member (inside split))
      obtain ⟨solicited, scheduled⟩ := of_decide_eq_true asks
      obtain ⟨implemented, owes⟩ := turns pre id post split ⟨solicited, scheduled⟩
      refine ⟨fun all => solicited ⟨Or.inl all, ?_⟩, lt_trans (by norm_num) msg.created, implemented, ?_, owes⟩
      · have checked : ((net.host a).snd.msg id).isScheduled = !((net.host a).snd.msg id).usnsolCheckDone := msg.checked
        rw [scheduled] at checked
        simpa using checked.symm
      · have requested := reach.requested a
        unfold Sender.Requested at requested
        have sum : 0 ≤ ((pre.filter fun other =>
          decide (Host.AsksCredit env.cfg ((net.host a).snd.msg other))).map fun other =>
            (((net.host a).snd.msg other).totalBytes : ℤ)).sum :=
          List.sum_nonneg fun x from_one => by
            obtain ⟨other, -, rfl⟩ := List.mem_map.mp from_one
            exact Int.natCast_nonneg _
        omega

theorem stops_of_announce {now : Time} {h : Host} {stop : Fault} (known : h.snd.remotes.keys ≠ [])
    (stops : (h.updateDataBacklog env now).announce env = .error stop) :
    h.sendData env now = .error stop ∧ ¬ ∃ h1, Handles env now h h1 := by
  refine ⟨by rw [Host.sendData_eq env now known, stops]; rfl, ?_⟩
  rintro ⟨h1, handles⟩
  cases stops.symm.trans handles.announced

theorem lessThanFrame_set : (1537 : ℤ) ≠ 0 := by decide

/-- A pair's budget has no room for a frame, and every message has an unsolicited part. -/
def tightBudget : Env := ⟨Config.small 1537 (-1) 0 3 0 lessThanFrame_set allUnsolicited_set, .plain⟩

def oneLong : List (Net → Event) := [fun _ => .request 0 1 0 0 0 3000, fun _ => .tick (1 / 1000000)]

theorem waits_once {cfg : Config} (ok : NetOk cfg net) (inside : id ∈ (net.msgs a).keys)
    (live : 0 < (net.msg a id).unsentBytes) :
    id ∈ (net.host a).snd.outboundInactive.msgs ↔
      id ∉ ((net.host a).snd.rcvr (net.msg a id).remoteAddr).outMsgs.msgs := by
  have queues := (ok.host a).halves.send.queues
  have there := queues.remote id inside
  rw [queues.inactive, show (net.msg a id).remoteAddr = ((net.host a).snd.msg id).remoteAddr from rfl,
    queues.queue _ there]
  cases active : ((net.host a).snd.msg id).active with
  | true => simp [show id ∈ (net.host a).snd.outbound.keys from inside,
    show 0 < ((net.host a).snd.msg id).unsentBytes from live]
  | false => simp [show id ∈ (net.host a).snd.outbound.keys from inside]

/-- Every live message waits in exactly one vector; the lookup in the queues is
right exactly for the messages that are not queued, and received_credit finds
exactly the live messages that are not queued. -/
theorem lookup_iff (reach : Reachable env net) (a : Addr) :
    (∀ id ∈ (net.msgs a).keys, 0 < (net.msg a id).unsentBytes →
      Xor (id ∈ (net.host a).snd.outboundInactive.msgs)
        (id ∈ ((net.host a).snd.rcvr (net.msg a id).remoteAddr).outMsgs.msgs) ∧
      (net.host a).snd.outboundInactive.msgs.Nodup ∧
      ((net.host a).snd.rcvr (net.msg a id).remoteAddr).outMsgs.msgs.Nodup ∧
      ∀ addr ∈ (net.host a).snd.remotes.keys, id ∈ ((net.host a).snd.rcvr addr).outMsgs.msgs →
        addr = (net.msg a id).remoteAddr) ∧
    (∀ receiver id, (net.host a).snd.findOutboundMsg receiver id =
      (if receiver ∈ (net.host a).snd.remotes.keys then (net.host a).snd.findQueued receiver id else none) ↔
        ¬ (receiver ∈ (net.host a).snd.remotes.keys ∧ id ∈ ((net.host a).snd.rcvr receiver).outMsgs.msgs)) ∧
    ∀ id ∈ (net.msgs a).keys, 0 < (net.msg a id).unsentBytes →
      ((net.host a).snd.findCredited (net.msg a id).remoteAddr id = some (net.msg a id) ↔
        id ∉ ((net.host a).snd.rcvr (net.msg a id).remoteAddr).outMsgs.msgs) := by
  have queues := (reach.ok.host a).halves.send.queues
  refine ⟨?_, ?_, ?_⟩
  · intro id inside live
    have once := waits_once reach.ok inside live
    refine ⟨xor_iff_iff_not.mpr once, queues.inactive_nodup, queues.queue_nodup _ (queues.remote id inside), ?_⟩
    intro addr known queued
    exact ((queues.queue addr known id).mp queued).2.2.2.symm
  · intro receiver id
    rw [Sender.findOutboundMsg_eq]
    unfold Sender.findQueued
    by_cases known : receiver ∈ (net.host a).snd.remotes.keys
    · by_cases queued : id ∈ ((net.host a).snd.rcvr receiver).outMsgs.msgs
      · simp [known, queued]
      · simp [known, queued]
    · simp [known]
  · intro id inside live
    rw [← waits_once reach.ok inside live]
    unfold Sender.findCredited Sender.findInactive
    rw [Sender.findOutboundMsg_eq]
    dsimp only
    split
    · next waits => exact iff_of_true rfl waits
    · next away => exact iff_of_false (by simp) away

/-- A request of three packets is announced, and waits in the queue of its receiver. -/
def announced : List (Net → Event) :=
  [fun _ => .request 0 1 0 0 0 3000, fun _ => .tick (1 / 1000000), fun _ => .poll 0]

theorem announced_waits : ∃ net, Reachable tenFrames net ∧ 1 ∈ (net.host 0).snd.remotes.keys ∧
    (⟨0, 0, 0⟩ : UniqReqId) ∈ ((net.host 0).snd.rcvr 1).outMsgs.msgs := by
  have ran : ((init tenFrames.cfg).run tenFrames announced).map (fun net =>
      (decide (1 ∈ (net.host 0).snd.remotes.keys),
        decide ((⟨0, 0, 0⟩ : UniqReqId) ∈ ((net.host 0).snd.rcvr 1).outMsgs.msgs))) =
        some (true, true) := by decide +kernel
  obtain ⟨net, run, waits⟩ := Option.map_eq_some_iff.mp ran
  have reach : Reachable tenFrames net := Reach.run .init (fun _ _ _ => trivial) run
  exact ⟨net, reach, of_decide_eq_true (congrArg Prod.fst waits), of_decide_eq_true (congrArg Prod.snd waits)⟩

/-- The lookup misses a message that waits in the queue. -/
theorem lookup_misses : ¬ ∀ (env : Env) (net : Net), Reachable env net → ∀ a receiver id,
    (net.host a).snd.findOutboundMsg receiver id =
      if receiver ∈ (net.host a).snd.remotes.keys then (net.host a).snd.findQueued receiver id else none := by
  intro claimed
  obtain ⟨net, reach, known, queued⟩ := announced_waits
  have found := claimed tenFrames net reach 0 1 ⟨0, 0, 0⟩
  rw [Sender.findOutboundMsg_eq, if_pos known] at found
  unfold Sender.findQueued at found
  rw [if_pos queued] at found
  cases found

theorem lookup_iff_announced : ∃ net, Reachable tenFrames net ∧
    (net.host 0).snd.findOutboundMsg 1 ⟨0, 0, 1⟩ =
      (if 1 ∈ (net.host 0).snd.remotes.keys then (net.host 0).snd.findQueued 1 ⟨0, 0, 1⟩ else none) := by
  have ran : ((init tenFrames.cfg).run tenFrames announced).map (fun net =>
      decide ((⟨0, 0, 1⟩ : UniqReqId) ∉ ((net.host 0).snd.rcvr 1).outMsgs.msgs)) = some true := by decide +kernel
  obtain ⟨net, run, away⟩ := Option.map_eq_some_iff.mp ran
  have reach : Reachable tenFrames net := Reach.run .init (fun _ _ _ => trivial) run
  have branch := ((lookup_iff reach 0).2.1 1 ⟨0, 0, 1⟩).mpr fun queued => of_decide_eq_true away queued.2
  exact ⟨net, reach, branch⟩

end Net

end PhantomPass
