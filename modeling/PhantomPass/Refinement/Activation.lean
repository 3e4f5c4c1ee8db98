import Mathlib
import PhantomPass.Refinement.SendData

/-! The two loops of send_data over the inactive messages, exactly: which
messages credit themselves, which ask for credit, and where all of them go. -/

set_option autoImplicit false

namespace PhantomPass

open Lib (RoundRobin Store)

namespace Sender

variable {cfg : Config} {s s1 s' : Sender} {id : UniqReqId} {ids : List UniqReqId}

/-- The message has an unsolicited part and was not asked about it. -/
def Eligible (cfg : Config) (m : OutboundMsgState) : Prop := unsolicited cfg m.totalBytes ∧ m.usnsolCheckDone = false

instance (cfg : Config) (m : OutboundMsgState) : Decidable (Eligible cfg m) := inferInstanceAs (Decidable (_ ∧ _))

theorem selfCredit_cases (run : selfCredit cfg id s = .ok s') :
    (Eligible cfg (s.msg id) ∧ ∃ bytes data, 0 < bytes ∧ s' = s.takeCredit cfg id bytes data) ∨
      ¬ Eligible cfg (s.msg id) ∧ s' = s := by
  unfold selfCredit at run
  dsimp only at run
  by_cases eligible : Eligible cfg (s.msg id)
  · rw [if_pos (show _ ∧ _ from eligible)] at run
    unfold assert at run
    simp only [Lib.bind_eq_ok, Lib.require_eq_ok, Lib.pure_eq_ok, exists_and_left, exists_const] at run
    obtain ⟨pos, -, rfl⟩ := run
    exact Or.inl ⟨eligible, _, _, lt_of_lt_of_le pos (le_max_left _ _), rfl⟩
  · rw [if_neg (show ¬ (_ ∧ _) from eligible), Lib.pure_eq_ok] at run
    exact Or.inr ⟨eligible, run.symm⟩

/-- What a message has credited itself, when it does so and is towards a receiver. -/
def share (cfg : Config) (s s' : Sender) (addr : Addr) (id : UniqReqId) : ℤ :=
  if Eligible cfg (s.msg id) ∧ (s.msg id).remoteAddr = addr then (s'.msg id).selfAllocCredit else 0

/-- Of the messages visited, each one that should has credited itself once. -/
structure SelfCredits (cfg : Config) (ids : List UniqReqId) (s s' : Sender) : Prop where
  queues : s'.Queues
  inactive : s'.outboundInactive.msgs = s.outboundInactive.msgs
  keys : s'.outbound.keys = s.outbound.keys
  remotes : s'.remotes.keys = s.remotes.keys
  outMsgs : ∀ addr, (s'.rcvr addr).outMsgs = (s.rcvr addr).outMsgs
  taken : ∀ id ∈ ids, Eligible cfg (s.msg id) → ∃ bytes data, 0 < bytes ∧ s'.msg id = (s.msg id).credited cfg bytes data
  kept : ∀ id, ¬ (id ∈ ids ∧ Eligible cfg (s.msg id)) → s'.msg id = s.msg id
  avail : ∀ addr, (s'.rcvr addr).availCreditBytes = (s.rcvr addr).availCreditBytes + (ids.map (share cfg s s' addr)).sum

theorem SelfCredits.nil (queues : s.Queues) {inactive : RoundRobin UniqReqId}
    (msgs : inactive.msgs = s.outboundInactive.msgs) :
    SelfCredits cfg [] s { s with outboundInactive := inactive } where
  queues := queues.advance msgs
  inactive := msgs
  keys := rfl
  remotes := rfl
  outMsgs _ := rfl
  taken _ inside := absurd inside List.not_mem_nil
  kept _ _ := rfl
  avail _ := (add_zero _).symm

theorem selfCredit_exact (queues : s.Queues) (run : selfCredit cfg id s = .ok s') : SelfCredits cfg [id] s s' := by
  rcases selfCredit_cases run with ⟨eligible, bytes, data, pos, rfl⟩ | ⟨not, rfl⟩
  · have msg : ∀ other, (s.takeCredit cfg id bytes data).msg other =
        if other = id then (s.msg id).credited cfg bytes data else s.msg other :=
      fun other => Store.get_modify s.outbound id other (·.credited cfg bytes data)
    have rcvr : ∀ addr, (s.takeCredit cfg id bytes data).rcvr addr =
        if addr = (s.msg id).remoteAddr then { s.rcvr addr with
          availCreditBytes := (s.rcvr addr).availCreditBytes + bytes
          availCreditDataBytes := (s.rcvr addr).availCreditDataBytes + data } else s.rcvr addr := by
      intro addr
      refine (Store.get_modify s.remotes (s.msg id).remoteAddr addr fun rs => { rs with
        availCreditBytes := rs.availCreditBytes + bytes
        availCreditDataBytes := rs.availCreditDataBytes + data }).trans ?_
      split
      · next same => rw [same]; rfl
      · rfl
    constructor
    case queues =>
      exact ((queues.addCredit (s.msg id).remoteAddr bytes data).modifyMsg id
        (·.credited cfg bytes data) rfl rfl rfl).congr
        rfl rfl rfl
    case inactive => rfl
    case keys => rfl
    case remotes => rfl
    case outMsgs =>
      intro addr
      rw [rcvr]
      split <;> rfl
    case taken =>
      intro other inside _
      rw [List.mem_singleton.mp inside, msg, if_pos rfl]
      exact ⟨bytes, data, pos, rfl⟩
    case kept =>
      intro other outside
      have apart : other ≠ id := fun same => outside ⟨List.mem_singleton.mpr same, same ▸ eligible⟩
      rw [msg, if_neg apart]
    case avail =>
      intro addr
      rw [rcvr, List.map_singleton, List.sum_singleton]
      unfold share
      rw [msg, if_pos rfl]
      by_cases towards : (s.msg id).remoteAddr = addr
      · rw [if_pos towards.symm, if_pos ⟨eligible, towards⟩]
        rfl
      · rw [if_neg fun same => towards same.symm, if_neg fun both => towards both.2, add_zero]
  · constructor
    case queues => exact queues
    case inactive => rfl
    case keys => rfl
    case remotes => rfl
    case outMsgs => exact fun _ => rfl
    case taken =>
      intro other inside eligible
      rw [List.mem_singleton.mp inside] at eligible
      exact absurd eligible not
    case kept => exact fun _ _ => rfl
    case avail =>
      intro addr
      rw [List.map_singleton, List.sum_singleton]
      unfold share
      rw [if_neg fun both => not both.1, add_zero]

theorem SelfCredits.append {more : List UniqReqId} (first : SelfCredits cfg ids s s1)
    (second : SelfCredits cfg more s1 s') (apart : ∀ id ∈ ids, id ∉ more) : SelfCredits cfg (ids ++ more) s s' := by
  -- what is visited later was not touched before, and stays untouched once visited
  have before : ∀ id ∈ more, s1.msg id = s.msg id :=
    fun id later => first.kept id fun both => apart id both.1 later
  have after : ∀ id ∈ ids, s'.msg id = s1.msg id :=
    fun id earlier => second.kept id fun both => apart id earlier both.1
  constructor
  case queues => exact second.queues
  case inactive => exact second.inactive.trans first.inactive
  case keys => exact second.keys.trans first.keys
  case remotes => exact second.remotes.trans first.remotes
  case outMsgs => exact fun addr => (second.outMsgs addr).trans (first.outMsgs addr)
  case taken =>
    intro id inside eligible
    rcases List.mem_append.mp inside with earlier | later
    · rw [after id earlier]
      exact first.taken id earlier eligible
    · rw [← before id later] at eligible ⊢
      exact second.taken id later eligible
  case kept =>
    intro id outside
    by_cases later : id ∈ more
    · rw [← before id later] at outside ⊢
      exact second.kept id fun both => outside ⟨List.mem_append_right _ both.1, both.2⟩
    · rw [second.kept id fun both => later both.1]
      exact first.kept id fun both => outside ⟨List.mem_append_left _ both.1, both.2⟩
  case avail =>
    intro addr
    have one : ids.map (share cfg s s1 addr) = ids.map (share cfg s s' addr) :=
      List.map_congr_left fun id earlier => by unfold share; rw [after id earlier]
    have two : more.map (share cfg s1 s' addr) = more.map (share cfg s s' addr) :=
      List.map_congr_left fun id later => by unfold share; rw [before id later]
    rw [second.avail, first.avail, one, two, List.map_append, List.sum_append, add_assoc]

theorem selfCredit_inactive (run : selfCredit cfg id s = .ok s') : s'.outboundInactive = s.outboundInactive := by
  rcases selfCredit_cases run with ⟨-, bytes, data, -, rfl⟩ | ⟨-, rfl⟩
  · rfl
  · rfl

theorem selfCreditLoop_cons (cfg : Config) {rest : List UniqReqId}
    (upcoming : s.outboundInactive.upcoming = id :: rest) : ∃ inactive,
    inactive.msgs = s.outboundInactive.msgs ∧ inactive.upcoming = rest ++ [id] ∧
    ∀ turns, selfCreditLoop cfg (turns + 1) s =
      selfCredit cfg id { s with outboundInactive := inactive } >>= selfCreditLoop cfg turns := by
  obtain ⟨inactive, step, msgs, later⟩ := RoundRobin.next_of_upcoming upcoming
  refine ⟨inactive, msgs, later, fun turns => ?_⟩
  rw [selfCreditLoop, step]

/-- The first loop visits as many messages as it has turns, and moves the cursor by as much. -/
theorem selfCreditLoop_exact {turns : ℕ} {more : List UniqReqId} (queues : s.Queues)
    (upcoming : s.outboundInactive.upcoming = ids ++ more) (visits : turns = ids.length)
    (run : selfCreditLoop cfg turns s = .ok s') :
    SelfCredits cfg ids s s' ∧ s'.outboundInactive.upcoming = more ++ ids := by
  subst visits
  -- `ids` are the messages that the loop has still to come to, in the order of the cursor
  induction ids generalizing s more with
  | nil =>
    simp only [List.length_nil, selfCreditLoop, Lib.pure_eq_ok] at run
    subst run
    exact ⟨.nil queues rfl, by rw [upcoming, List.nil_append, List.append_nil]⟩
  | cons id rest ih =>
    obtain ⟨inactive, msgs, later, turn⟩ := selfCreditLoop_cons cfg upcoming
    rw [List.length_cons, turn, Lib.bind_eq_ok] at run
    obtain ⟨s1, one, others⟩ := run
    have fresh := (List.nodup_cons.mp (RoundRobin.nodup_upcoming upcoming queues.inactive_nodup)).1
    have first := selfCredit_exact (queues.advance msgs) one
    have cursor : s1.outboundInactive.upcoming = rest ++ (more ++ [id]) := by
      rw [selfCredit_inactive one, ← List.append_assoc]
      exact later
    obtain ⟨second, last⟩ := ih first.queues cursor others
    have apart : ∀ other ∈ [id], other ∉ rest := by
      intro other here
      rw [List.mem_singleton.mp here]
      exact fun again => fresh (List.mem_append_left _ again)
    refine ⟨((SelfCredits.nil queues msgs).append first (by simp)).append second apart, ?_⟩
    rw [last, List.append_assoc, List.singleton_append]

theorem moveToReceiver_eq (run : s.moveToReceiver id = .ok s') : ∃ inactive, s' = s.enqueue id inactive := by
  unfold moveToReceiver at run
  split at run
  · cases run
  · next inactive _ =>
    rw [Lib.pure_eq_ok] at run
    exact ⟨inactive, run.symm⟩

def Unannounced (s : Sender) (id : UniqReqId) : Prop := (s.msg id).sentAnouncement = false ∧ 0 < (s.msg id).unsentBytes

theorem SelfCredits.unannounced (credits : SelfCredits cfg ids s s') (unannounced : s.Unannounced id) :
    s'.Unannounced id := by
  unfold Unannounced
  by_cases taken : id ∈ ids ∧ Eligible cfg (s.msg id)
  · obtain ⟨bytes, data, -, msg⟩ := credits.taken id taken.1 taken.2
    rw [msg]
    exact unannounced
  · rw [credits.kept id taken]
    exact unannounced

end Sender

namespace Host

variable {env : Env} {h h1 h' : Host} {id : UniqReqId} {ids : List UniqReqId}

/-- The messages visited, in their order, have joined the queues of their
receivers; those that are completely scheduled have sent a request for credit. -/
structure Activates (ids : List UniqReqId) (h h' : Host) : Prop where
  thisAddr : h'.thisAddr = h.thisAddr
  queues : h'.snd.Queues
  keys : h'.snd.outbound.keys = h.snd.outbound.keys
  remotes : h'.snd.remotes.keys = h.snd.remotes.keys
  msg : ∀ id, h'.snd.msg id = if id ∈ ids then
    { h.snd.msg id with active := true, sentAnouncement := (h.snd.msg id).isScheduled } else h.snd.msg id
  queue : ∀ addr, (h'.snd.rcvr addr).outMsgs.msgs = (h.snd.rcvr addr).outMsgs.msgs ++
    ids.filter fun id => (h.snd.msg id).remoteAddr = addr
  avail : ∀ addr, (h'.snd.rcvr addr).availCreditBytes = (h.snd.rcvr addr).availCreditBytes
  sent : ∃ reqs, h'.sent = h.sent ++ reqs ∧
    List.Forall₂ (fun id p => Packet.Carries p (h.snd.msg id).grantReqHdr grantReqMsgSize h.thisAddr
      (h.snd.msg id).remoteAddr)
      (ids.filter fun id => (h.snd.msg id).isScheduled) reqs

theorem Activates.nil (queues : h.snd.Queues) {inactive : RoundRobin UniqReqId}
    (msgs : inactive.msgs = h.snd.outboundInactive.msgs) :
    Activates [] h { h with snd := { h.snd with outboundInactive := inactive } } where
  thisAddr := rfl
  queues := queues.advance msgs
  keys := rfl
  remotes := rfl
  msg _ := (if_neg List.not_mem_nil).symm
  queue _ := (List.append_nil _).symm
  avail _ := rfl
  sent := ⟨[], (List.append_nil _).symm, .nil⟩

theorem Activates.enqueue {inactive : RoundRobin UniqReqId} {reqs : List Packet} (thisAddr : h1.thisAddr = h.thisAddr)
    (snd : h'.snd = h1.snd.enqueue id inactive) (queues : h'.snd.Queues)
    (same : h'.thisAddr = h1.thisAddr ∧ h'.sent = h1.sent) (keys : h1.snd.outbound.keys = h.snd.outbound.keys)
    (msg : ∀ other, h1.snd.msg other =
      if other = id then { h.snd.msg id with sentAnouncement := (h.snd.msg id).isScheduled } else h.snd.msg other)
    (remotes : h1.snd.remotes = h.snd.remotes) (sent : h1.sent = h.sent ++ reqs)
    (carried : List.Forall₂
      (fun id p => Packet.Carries p (h.snd.msg id).grantReqHdr grantReqMsgSize h.thisAddr (h.snd.msg id).remoteAddr)
      ([id].filter fun id => (h.snd.msg id).isScheduled) reqs) : Activates [id] h h' := by
  have moved : ∀ other, h'.snd.msg other = if other = id then { h1.snd.msg id with active := true }
    else h1.snd.msg other := by
    intro other
    rw [snd]
    exact Store.get_modify h1.snd.outbound id other fun m => { m with active := true }
  have here : (h1.snd.msg id).remoteAddr = (h.snd.msg id).remoteAddr := by rw [msg, if_pos rfl]
  have rcvr : ∀ addr, h1.snd.rcvr addr = h.snd.rcvr addr := fun addr => by unfold Sender.rcvr; rw [remotes]
  constructor
  case thisAddr => exact same.1.trans thisAddr
  case queues => exact queues
  case keys => rw [snd]; exact keys
  case remotes => rw [snd, ← remotes]; rfl
  case msg =>
    intro other
    rw [moved]
    by_cases found : other = id
    · rw [if_pos found, msg, if_pos rfl, if_pos (List.mem_singleton.mpr found), found]
    · rw [if_neg found, msg, if_neg found, if_neg (mt List.mem_singleton.mp found)]
  case queue =>
    intro addr
    rw [snd, Sender.rcvr_enqueue, here, rcvr]
    by_cases towards : (h.snd.msg id).remoteAddr = addr
    · rw [if_pos towards.symm, List.filter_cons_of_pos (by simpa using towards), List.filter_nil]
      rfl
    · rw [if_neg fun same => towards same.symm, List.filter_cons_of_neg (by simpa using towards), List.filter_nil,
        List.append_nil]
  case avail =>
    intro addr
    rw [snd, Sender.rcvr_enqueue, rcvr]
    split <;> rfl
  case sent => exact ⟨reqs, same.2.trans sent, carried⟩

theorem activate_exact (queues : h.snd.Queues) (inside : id ∈ h.snd.outboundInactive.msgs)
    (unannounced : h.snd.Unannounced id) (run : h.activate env id = .ok h') :
    Activates [id] h h' ∧ h'.snd.outboundInactive.upcoming = h.snd.outboundInactive.upcoming.erase id := by
  obtain ⟨quiet, unsent⟩ := unannounced
  unfold activate assert at run
  rw [if_neg (by simp [quiet])] at run
  simp only [Lib.bind_eq_ok, Lib.require_eq_ok, exists_and_left, exists_const] at run
  obtain ⟨-, run⟩ := run
  cases scheduled : (h.snd.msg id).isScheduled with
  | false =>
    simp only [scheduled, Bool.false_eq_true, if_false, Lib.bind_eq_ok, Lib.pure_eq_ok, exists_eq_left'] at run
    obtain ⟨snd, moved, rfl⟩ := run
    have moves := Sender.moveToReceiver_ok queues inside unsent moved
    obtain ⟨inactive, same⟩ := Sender.moveToReceiver_eq moved
    have msg : ∀ other, h.snd.msg other =
        if other = id then { h.snd.msg id with sentAnouncement := (h.snd.msg id).isScheduled }
          else h.snd.msg other := by
      intro other
      split
      · next found => rw [found, scheduled, ← quiet]
      · rfl
    have sent : h.sent = h.sent ++ [] := (List.append_nil _).symm
    refine ⟨Activates.enqueue rfl same moves.queues ⟨rfl, rfl⟩ rfl msg rfl sent ?_, moves.upcoming⟩
    rw [List.filter_cons_of_neg (by simpa using scheduled)]
    exact .nil
  | true =>
    simp only [scheduled, if_true, Lib.bind_eq_ok, Lib.pure_eq_ok] at run
    obtain ⟨h1, request, snd, moved, rfl⟩ := run
    obtain ⟨p, emits, requested⟩ := sendGrantReq_ok request
    have snd1 : h1.snd = { h.snd.modifyMsg id fun m => { m with sentAnouncement := true } with
        creditDataRequested := h.snd.creditDataRequested + (h.snd.msg id).totalBytes } := by rw [requested]
    have queues1 : h1.snd.Queues := by
      rw [snd1]
      exact (queues.modifyMsg id (fun m => { m with sentAnouncement := true }) rfl rfl rfl).congr rfl rfl rfl
    have inside1 : id ∈ h1.snd.outboundInactive.msgs := by rw [snd1]; exact inside
    have msg : ∀ other, h1.snd.msg other =
        if other = id then { h.snd.msg id with sentAnouncement := (h.snd.msg id).isScheduled }
          else h.snd.msg other := by
      intro other
      rw [snd1, scheduled]
      exact Store.get_modify h.snd.outbound id other fun m => { m with sentAnouncement := true }
    have unsent1 : 0 < (h1.snd.msg id).unsentBytes := by rw [msg, if_pos rfl]; exact unsent
    have moves := Sender.moveToReceiver_ok queues1 inside1 unsent1 moved
    obtain ⟨inactive, same⟩ := Sender.moveToReceiver_eq moved
    have addr : h1.thisAddr = h.thisAddr := by rw [requested]; rfl
    have sent : h1.sent = h.sent ++ [p] := by rw [requested]; rfl
    refine ⟨Activates.enqueue addr same moves.queues ⟨rfl, rfl⟩ (by rw [snd1]; rfl) msg (by rw [snd1]; rfl) sent ?_, ?_⟩
    · rw [List.filter_cons_of_pos (by simpa using scheduled), List.filter_nil]
      exact .cons emits.carries .nil
    · rw [moves.upcoming, snd1]
      rfl

theorem Activates.append {more : List UniqReqId} (first : Activates ids h h1) (second : Activates more h1 h')
    (apart : ∀ id ∈ ids, id ∉ more) : Activates (ids ++ more) h h' := by
  -- the loop changes neither the size, nor the header, nor the receiver of a message
  have fixed : ∀ id, (h1.snd.msg id).remoteAddr = (h.snd.msg id).remoteAddr ∧
      (h1.snd.msg id).isScheduled = (h.snd.msg id).isScheduled ∧
      (h1.snd.msg id).grantReqHdr = (h.snd.msg id).grantReqHdr := by
    intro id
    rw [first.msg]
    split <;> exact ⟨rfl, rfl, rfl⟩
  constructor
  case thisAddr => exact second.thisAddr.trans first.thisAddr
  case queues => exact second.queues
  case keys => exact second.keys.trans first.keys
  case remotes => exact second.remotes.trans first.remotes
  case msg =>
    intro id
    by_cases later : id ∈ more
    · have fresh : id ∉ ids := fun earlier => apart id earlier later
      rw [second.msg, if_pos later, first.msg, if_neg fresh, if_pos (List.mem_append_right _ later)]
    · rw [second.msg, if_neg later, first.msg]
      simp only [List.mem_append, later, or_false]
  case queue =>
    intro addr
    have same : (more.filter fun id => (h1.snd.msg id).remoteAddr = addr) =
        more.filter fun id => (h.snd.msg id).remoteAddr = addr :=
      List.filter_congr fun id _ => by rw [(fixed id).1]
    rw [second.queue, first.queue, same, List.filter_append, List.append_assoc]
  case avail => exact fun addr => (second.avail addr).trans (first.avail addr)
  case sent =>
    obtain ⟨reqs1, sent1, carried1⟩ := first.sent
    obtain ⟨reqs2, sent2, carried2⟩ := second.sent
    have same : (more.filter fun id => (h1.snd.msg id).isScheduled) = more.filter fun id =>
      (h.snd.msg id).isScheduled :=
      List.filter_congr fun id _ => (fixed id).2.1
    refine ⟨reqs1 ++ reqs2, by rw [sent2, sent1, List.append_assoc], ?_⟩
    rw [List.filter_append]
    refine List.rel_append carried1 ?_
    rw [← same]
    refine carried2.imp fun id p carries => ?_
    rw [(fixed id).1, (fixed id).2.2, first.thisAddr] at carries
    exact carries

theorem Activates.unannounced (activates : Activates ids h h') (outside : id ∉ ids)
    (unannounced : h.snd.Unannounced id) :
    h'.snd.Unannounced id := by
  unfold Sender.Unannounced
  rw [activates.msg, if_neg outside]
  exact unannounced

theorem activateLoop_cons (env : Env) {rest : List UniqReqId}
    (upcoming : h.snd.outboundInactive.upcoming = id :: rest) : ∃ inactive,
    inactive.msgs = h.snd.outboundInactive.msgs ∧ inactive.upcoming = rest ++ [id] ∧
    ∀ turns, h.activateLoop env (turns + 1) =
      { h with snd := { h.snd with outboundInactive := inactive } }.activate env id >>= activateLoop env turns := by
  obtain ⟨inactive, step, msgs, later⟩ := RoundRobin.next_of_upcoming upcoming
  refine ⟨inactive, msgs, later, fun turns => ?_⟩
  rw [activateLoop, step]

theorem activate_turn_exact {inactive : RoundRobin UniqReqId} {rest : List UniqReqId} (queues : h.snd.Queues)
    (upcoming : h.snd.outboundInactive.upcoming = id :: rest) (msgs : inactive.msgs = h.snd.outboundInactive.msgs)
    (later : inactive.upcoming = rest ++ [id]) (unannounced : h.snd.Unannounced id)
    (run : { h with snd := { h.snd with outboundInactive := inactive } }.activate env id = .ok h1) :
    Activates [id] { h with snd := { h.snd with outboundInactive := inactive } } h1 ∧
      h1.snd.outboundInactive.upcoming = rest := by
  have fresh := (List.nodup_cons.mp (RoundRobin.nodup_upcoming upcoming queues.inactive_nodup)).1
  have inside : id ∈ inactive.msgs := by
    rw [← RoundRobin.mem_upcoming, later]
    exact List.mem_append_right _ (List.mem_singleton_self id)
  obtain ⟨activates, cursor⟩ := activate_exact (h := { h with snd := { h.snd with outboundInactive := inactive } })
    (queues.advance msgs) inside unannounced run
  refine ⟨activates, ?_⟩
  rw [cursor]
  change inactive.upcoming.erase id = rest
  rw [later, List.erase_append_right _ fresh, List.erase_cons_head, List.append_nil]

theorem activateLoop_exact {turns : ℕ} {more : List UniqReqId} (queues : h.snd.Queues)
    (upcoming : h.snd.outboundInactive.upcoming = ids ++ more) (unannounced : ∀ id ∈ ids, h.snd.Unannounced id)
    (visits : turns = ids.length) (run : h.activateLoop env turns = .ok h') :
    Activates ids h h' ∧ h'.snd.outboundInactive.upcoming = more := by
  subst visits
  -- the front leaves the list in its turn, and the order of the others stays
  induction ids generalizing h with
  | nil =>
    simp only [List.length_nil, activateLoop, Lib.pure_eq_ok] at run
    subst run
    exact ⟨.nil queues rfl, upcoming⟩
  | cons id rest ih =>
    obtain ⟨inactive, msgs, later, turn⟩ := activateLoop_cons env upcoming
    rw [List.length_cons, turn, Lib.bind_eq_ok] at run
    obtain ⟨h1, one, others⟩ := run
    have fresh := (List.nodup_cons.mp (RoundRobin.nodup_upcoming upcoming queues.inactive_nodup)).1
    have apart : id ∉ rest := fun again => fresh (List.mem_append_left _ again)
    obtain ⟨first, left⟩ := activate_turn_exact queues upcoming msgs later (unannounced id List.mem_cons_self) one
    have waiting : ∀ other ∈ rest, h1.snd.Unannounced other := by
      intro other inside
      have outside : other ∉ [id] := fun same => apart (List.mem_singleton.mp same ▸ inside)
      exact first.unannounced outside (unannounced other (List.mem_cons_of_mem _ inside))
    obtain ⟨second, last⟩ := ih first.queues left waiting others
    refine ⟨((Activates.nil queues msgs).append first (by simp)).append second ?_, last⟩
    intro other here
    rw [List.mem_singleton.mp (show other ∈ [id] from here)]
    exact apart

/-- What both loops do to a host: each message that was inactive, in the order of
the cursor, has credited itself if it was to, has asked for its credit if it is
completely scheduled, and is in the queue of its receiver. -/
structure Activation (cfg : Config) (h h' : Host) : Prop where
  visited : h.snd.outboundInactive.upcoming.Perm h.snd.outboundInactive.msgs
  credited : ∀ id ∈ h.snd.outboundInactive.msgs, Sender.Eligible cfg (h.snd.msg id) → ∃ bytes data, 0 < bytes ∧
    h'.snd.msg id = { (h.snd.msg id).credited cfg bytes data with active := true, sentAnouncement := false }
  others : ∀ id ∈ h.snd.outboundInactive.msgs, ¬ Sender.Eligible cfg (h.snd.msg id) →
    h'.snd.msg id = { h.snd.msg id with active := true, sentAnouncement := (h.snd.msg id).isScheduled }
  kept : ∀ id ∉ h.snd.outboundInactive.msgs, h'.snd.msg id = h.snd.msg id
  avail : ∀ addr, (h'.snd.rcvr addr).availCreditBytes = (h.snd.rcvr addr).availCreditBytes +
    (h.snd.outboundInactive.upcoming.map (Sender.share cfg h.snd h'.snd addr)).sum
  requests : ∃ reqs, h'.sent = h.sent ++ reqs ∧
    List.Forall₂ (fun id p => Packet.Carries p (h.snd.msg id).grantReqHdr grantReqMsgSize h.thisAddr
      (h.snd.msg id).remoteAddr)
      (h.snd.outboundInactive.upcoming.filter fun id =>
        ¬ Sender.Eligible cfg (h.snd.msg id) ∧ (h.snd.msg id).isScheduled = true) reqs
  queue : ∀ addr, (h'.snd.rcvr addr).outMsgs.msgs = (h.snd.rcvr addr).outMsgs.msgs ++
    h.snd.outboundInactive.upcoming.filter fun id => (h.snd.msg id).remoteAddr = addr
  inactive : h'.snd.outboundInactive.msgs = []
  queues : h'.snd.Queues
  keys : h'.snd.outbound.keys = h.snd.outbound.keys

theorem announce_exact (queues : h.snd.Queues) (unannounced : ∀ id ∈ h.snd.outboundInactive.msgs, h.snd.Unannounced id)
    (run : h.announce env = .ok h') : Activation env.cfg h h' := by
  unfold announce at run
  simp only [Lib.bind_eq_ok] at run
  obtain ⟨snd, credit, activate⟩ := run
  have member := h.snd.outboundInactive.mem_upcoming
  obtain ⟨credits, turned⟩ := Sender.selfCreditLoop_exact queues (List.append_nil _).symm
    (RoundRobin.length_upcoming _).symm credit
  rw [List.nil_append] at turned
  have size : snd.outboundInactive.size = h.snd.outboundInactive.upcoming.length := by
    rw [← turned, RoundRobin.length_upcoming]
  obtain ⟨activates, left⟩ := activateLoop_exact (h := { h with snd }) credits.queues
    (turned.trans (List.append_nil _).symm)
    (fun id inside => credits.unannounced (unannounced id ((member id).mp inside))) size activate
  -- what a message is after the first loop
  have first : ∀ id ∈ h.snd.outboundInactive.msgs, Sender.Eligible env.cfg (h.snd.msg id) → ∃ bytes data, 0 < bytes ∧
      snd.msg id = (h.snd.msg id).credited env.cfg bytes data :=
        fun id inside => credits.taken id ((member id).mpr inside)
  have same : ∀ id, ¬ Sender.Eligible env.cfg (h.snd.msg id) → snd.msg id = h.snd.msg id :=
    fun id not => credits.kept id fun both => not both.2
  have remote : ∀ id, (snd.msg id).remoteAddr = (h.snd.msg id).remoteAddr := by
    intro id
    by_cases taken : id ∈ h.snd.outboundInactive.upcoming ∧ Sender.Eligible env.cfg (h.snd.msg id)
    · obtain ⟨bytes, data, -, msg⟩ := credits.taken id taken.1 taken.2
      rw [msg]
      rfl
    · rw [credits.kept id taken]
  have scheduled : ∀ id ∈ h.snd.outboundInactive.upcoming, (snd.msg id).isScheduled =
      decide (¬ Sender.Eligible env.cfg (h.snd.msg id) ∧ (h.snd.msg id).isScheduled = true) := by
    intro id inside
    by_cases eligible : Sender.Eligible env.cfg (h.snd.msg id)
    · obtain ⟨bytes, data, -, msg⟩ := credits.taken id inside eligible
      rw [msg]
      simp [eligible, OutboundMsgState.credited]
    · rw [same id eligible]
      simp [eligible]
  constructor
  case visited => exact h.snd.outboundInactive.upcoming_perm
  case credited =>
    intro id inside eligible
    obtain ⟨bytes, data, pos, msg⟩ := first id inside eligible
    refine ⟨bytes, data, pos, ?_⟩
    rw [activates.msg, if_pos ((member id).mpr inside)]
    change ({ snd.msg id with active := true, sentAnouncement := (snd.msg id).isScheduled } : OutboundMsgState) = _
    rw [msg]
    rfl
  case others =>
    intro id inside not
    rw [activates.msg, if_pos ((member id).mpr inside)]
    change ({ snd.msg id with active := true, sentAnouncement := (snd.msg id).isScheduled } : OutboundMsgState) = _
    rw [same id not]
  case kept =>
    intro id outside
    have apart : id ∉ h.snd.outboundInactive.upcoming := mt (member id).mp outside
    rw [activates.msg, if_neg apart]
    exact credits.kept id fun both => apart both.1
  case avail =>
    intro addr
    have shares : h.snd.outboundInactive.upcoming.map (Sender.share env.cfg h.snd h'.snd addr) =
        h.snd.outboundInactive.upcoming.map (Sender.share env.cfg h.snd snd addr) := by
      refine List.map_congr_left fun id inside => ?_
      unfold Sender.share
      rw [activates.msg, if_pos inside]
    rw [shares, activates.avail]
    exact credits.avail addr
  case requests =>
    obtain ⟨reqs, sent, carried⟩ := activates.sent
    refine ⟨reqs, sent, ?_⟩
    change List.Forall₂ (fun id p => Packet.Carries p (snd.msg id).grantReqHdr grantReqMsgSize h.thisAddr
      (snd.msg id).remoteAddr) (h.snd.outboundInactive.upcoming.filter fun id => (snd.msg id).isScheduled) reqs
        at carried
    rw [List.filter_congr scheduled] at carried
    have asking : ∀ id ∈ h.snd.outboundInactive.upcoming.filter fun id =>
        decide (¬ Sender.Eligible env.cfg (h.snd.msg id) ∧ (h.snd.msg id).isScheduled = true),
        ¬ Sender.Eligible env.cfg (h.snd.msg id) :=
      fun id inside => (of_decide_eq_true (List.mem_filter.mp inside).2).1
    refine ((List.forall₂_and_left _ _).mpr ⟨asking, carried⟩).imp ?_
    rintro id p ⟨not, carries⟩
    rw [same id not] at carries
    exact carries
  case queue =>
    intro addr
    rw [activates.queue]
    change (snd.rcvr addr).outMsgs.msgs ++ _ = _
    rw [credits.outMsgs]
    exact congrArg _ (List.filter_congr
      fun id _ => by rw [show ({ h with snd } : Host).snd.msg id = snd.msg id from rfl, remote])
  case inactive => exact RoundRobin.upcoming_eq_nil.mp left
  case queues => exact activates.queues
  case keys => exact activates.keys.trans credits.keys

/-- Behind the loops a call sends at most one packet, of data, and lets no message back among the inactive ones. -/
structure Tail (h h' : Host) : Prop where
  inactive : h'.snd.outboundInactive = h.snd.outboundInactive
  sent : ∃ data, h'.sent = h.sent ++ data ∧ data.length ≤ 1 ∧ ∀ p ∈ data, p.isData = true

theorem transmit_tail {ps : PolicyState} (run : h.transmit env ps id = .ok h') : Tail h h' := by
  unfold transmit at run
  dsimp only at run
  simp only [Lib.bind_eq_ok] at run
  obtain ⟨_, check, h1, forward, -, -, finish⟩ := run
  have unsent : 0 < (h.snd.msg id).unsentBytes := by
    unfold checkTransmit assert at check
    simp only [Lib.bind_eq_ok, Lib.require_eq_ok, exists_and_left, exists_const] at check
    exact check.2.2.1
  have len : (h.snd.msg id).nextPayload = min ethernet.mss (h.snd.msg id).unsentBytes :=
    OutboundMsgState.nextPayload_eq _
  have mss : ethernet.mss = maxR2p2Payload := rfl
  obtain ⟨p, emits, rfl⟩ := forwardToTransport_ok forward (by have := ethernet.mss_pos; omega) (by omega)
  have data : p.isData = true := by
    have type := emits.carries.msgType
    unfold Packet.isData
    rw [type]
    unfold OutboundMsgState.packetHdr
    dsimp only
    split <;> rfl
  have one : ∀ q ∈ [p], q.isData = true := fun q inside => by rw [List.mem_singleton.mp inside]; exact data
  split at finish
  · unfold dropSent at finish
    split at finish
    · cases finish
    · rw [Lib.pure_eq_ok] at finish
      subst finish
      exact ⟨rfl, [p], rfl, le_rfl, one⟩
  · rw [Lib.pure_eq_ok] at finish
    subst finish
    exact ⟨rfl, [p], rfl, le_rfl, one⟩

theorem sendSelected_tail (run : h.sendSelected env = .ok h') : Tail h h' := by
  unfold sendSelected at run
  simp only [Lib.bind_eq_ok] at run
  obtain ⟨s1, update, ⟨selected, s2⟩, select, run⟩ := run
  obtain ⟨chooses1, picks⟩ := Sender.updatePolicyState_ok update
  have chooses := chooses1.trans (Sender.selectMsgToSend_ok select picks).1
  dsimp only at run
  split at run
  · rw [Lib.pure_eq_ok] at run
    subst run
    exact ⟨chooses.inactive, [], (List.append_nil _).symm, Nat.zero_le _, fun p inside =>
      absurd inside List.not_mem_nil⟩
  · split at run
    · cases run
    · have tail := transmit_tail run
      exact ⟨tail.inactive.trans chooses.inactive, tail.sent⟩

theorem sendData_eq (env : Env) (now : Time) (known : h.snd.remotes.keys ≠ []) : h.sendData env now = (do
    let h1 ← (h.updateDataBacklog env now).announce env
    if (3 / 2 : ℚ) * env.cfg.bytesDrainedPerLoop < h1.dataPacerBacklog then return h1 else h1.sendSelected env) := by
  unfold sendData
  exact if_neg known

theorem rest_tail (run : (if (3 / 2 : ℚ) * env.cfg.bytesDrainedPerLoop < h.dataPacerBacklog then return h
    else h.sendSelected env : Checked Host) = .ok h') : Tail h h' := by
  split at run
  · rw [Lib.pure_eq_ok] at run
    subst run
    exact ⟨rfl, [], (List.append_nil _).symm, Nat.zero_le _, fun p inside => absurd inside List.not_mem_nil⟩
  · exact sendSelected_tail run

theorem activation_updated {now : Time} (activation : Activation env.cfg (h.updateDataBacklog env now) h') :
    Activation env.cfg h h' :=
  ⟨activation.visited, activation.credited, activation.others, activation.kept, activation.avail, activation.requests,
    activation.queue, activation.inactive, activation.queues, activation.keys⟩

end Host

end PhantomPass
