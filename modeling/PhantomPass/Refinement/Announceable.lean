import PhantomPass.Refinement.Activation
import PhantomPass.Refinement.Checks

/-! When both loops of send_data over the inactive messages get through, by what
the host holds before the call. -/

set_option autoImplicit false

namespace PhantomPass

open Lib (RoundRobin Store)

theorem forall_split_cons {α : Type} {P : List α → α → Prop} {x : α} {rest : List α} :
    (∀ pre y post, x :: rest = pre ++ y :: post → P pre y) ↔
      P [] x ∧ ∀ pre y post, rest = pre ++ y :: post → P (x :: pre) y := by
  constructor
  · intro all
    exact ⟨all [] x rest rfl, fun pre y post split => all (x :: pre) y post (congrArg (x :: ·) split)⟩
  · intro both pre y post split
    cases pre with
    | nil =>
      obtain ⟨rfl, -⟩ := List.cons.inj split
      exact both.1
    | cons first pre =>
      obtain ⟨rfl, behind⟩ := List.cons.inj split
      exact both.2 pre y post behind

namespace Sender

variable {env : Env} {cfg : Config} {s s' : Sender} {addr daddr : Addr} {id : UniqReqId} {ids more : List UniqReqId}

section Credits

/-- A message of so many bytes finds something to credit itself with. -/
def Creditable (cfg : Config) (total : ℕ) : Prop :=
  if addHeaderOverhead total ≤ cfg.maxSrpb then 0 < total else maxEthernetFrameOnWire ≤ cfg.maxSrpb

instance (cfg : Config) (total : ℕ) : Decidable (Creditable cfg total) := inferInstanceAs (Decidable (ite _ _ _))

theorem full_pos_iff (space : ℤ) : 0 < addHeaderOverhead (removeHeaderOverhead space) true ↔ 1538 ≤ space := by
  rw [(alloc_full space).1]
  constructor
  · intro pos
    have := full_le_space space (by omega)
    omega
  · intro large
    have one : 1 ≤ space.tdiv 1538 := Int.le_tdiv_of_mul_le (by decide) (by omega)
    omega

theorem selfAllocation_pos_iff (cfg : Config) (total : ℕ) (avail : ℤ) :
    0 < (selfAllocation cfg total avail).1 ↔ Creditable cfg total := by
  have space : (1538 : ℤ) ≤ max (cfg.maxSrpb - avail) maxEthernetFrameOnWire := le_max_right _ _
  have backlog := (full_pos_iff (max (cfg.maxSrpb - avail) maxEthernetFrameOnWire)).mpr space
  have frame : ((maxEthernetFrameOnWire : ℕ) : ℤ) = 1538 := rfl
  have whole : 0 < addHeaderOverhead total ↔ 0 < total := by
    rw [addHeaderOverhead_eq]
    constructor
    · intro pos
      by_contra none
      rw [Nat.eq_zero_of_not_pos none] at pos
      exact absurd pos (by decide)
    · intro pos
      exact_mod_cast ethernet.wire_pos pos
  unfold selfAllocation Creditable
  dsimp only
  split_ifs with fits less less
  · exact iff_of_true backlog (whole.mp (by omega))
  · exact whole
  · rw [frame]
    exact iff_of_true backlog ((full_pos_iff cfg.maxSrpb).mp (by omega))
  · rw [frame]
    exact full_pos_iff cfg.maxSrpb

def poolWith (cfg : Config) (s : Sender) (addr : Addr) (avail : ℤ) (id : UniqReqId) : ℤ :=
  if Eligible cfg (s.msg id) ∧ (s.msg id).remoteAddr = addr then
    avail + max (selfAllocation cfg (s.msg id).totalBytes avail).1 minEthernetFrameOnWire
  else avail

/-- The pool once all of these messages have credited themselves that should. -/
def poolAfter (cfg : Config) (s : Sender) (ids : List UniqReqId) (addr : Addr) : ℤ :=
  ids.foldl (poolWith cfg s addr) (s.rcvr addr).availCreditBytes

theorem le_poolWith (avail : ℤ) : avail ≤ poolWith cfg s addr avail id := by
  unfold poolWith
  split
  · have least : (0 : ℤ) ≤ minEthernetFrameOnWire := by decide
    have := le_max_right (selfAllocation cfg (s.msg id).totalBytes avail).1 (minEthernetFrameOnWire : ℤ)
    omega
  · exact le_rfl

structure Checks (cfg : Config) (id : UniqReqId) (s s' : Sender) : Prop where
  pool : ∀ addr, (s'.rcvr addr).availCreditBytes = poolWith cfg s addr (s.rcvr addr).availCreditBytes id
  received : s'.creditDataReceived = s.creditDataReceived
  requested : s'.creditDataRequested = s.creditDataRequested

theorem selfCredit_checks (run : selfCredit cfg id s = .ok s') : Checks cfg id s s' := by
  unfold selfCredit at run
  dsimp only at run
  by_cases eligible : Eligible cfg (s.msg id)
  · rw [if_pos (show _ ∧ _ from eligible)] at run
    unfold assert at run
    simp only [Lib.bind_eq_ok, Lib.require_eq_ok, Lib.pure_eq_ok, exists_and_left, exists_const] at run
    obtain ⟨-, -, rfl⟩ := run
    refine ⟨fun addr => ?_, rfl, rfl⟩
    set alloc := selfAllocation cfg (s.msg id).totalBytes (s.rcvr (s.msg id).remoteAddr).availCreditBytes with own
    refine (congrArg (·.availCreditBytes) (Store.get_modify s.remotes (s.msg id).remoteAddr addr fun rs => { rs with
      availCreditBytes := rs.availCreditBytes + max alloc.1 minEthernetFrameOnWire
      availCreditDataBytes := rs.availCreditDataBytes + alloc.2 })).trans ?_
    unfold poolWith
    by_cases towards : (s.msg id).remoteAddr = addr
    · subst towards
      rw [if_pos rfl, if_pos ⟨eligible, rfl⟩]
      rfl
    · rw [if_neg fun same => towards same.symm, if_neg fun both => towards both.2]
      rfl
  · rw [if_neg (show ¬ (_ ∧ _) from eligible), Lib.pure_eq_ok] at run
    subst run
    refine ⟨fun addr => ?_, rfl, rfl⟩
    unfold poolWith
    rw [if_neg fun both => eligible both.1]

def CanCredit (cfg : Config) (s : Sender) (id : UniqReqId) : Prop :=
  Eligible cfg (s.msg id) → Creditable cfg (s.msg id).totalBytes ∧ 0 ≤ (s.rcvr (s.msg id).remoteAddr).availCreditBytes

theorem selfCredit_succeeds_iff (cfg : Config) (id : UniqReqId) (s : Sender) :
    (∃ s', selfCredit cfg id s = .ok s') ↔ CanCredit cfg s id := by
  unfold selfCredit CanCredit assert
  dsimp only
  by_cases eligible : Eligible cfg (s.msg id)
  · rw [if_pos (show _ ∧ _ from eligible)]
    simp only [Lib.bind_eq_ok, Lib.require_eq_ok, exists_and_left, exists_const, selfAllocation_pos_iff, Lib.pure_eq_ok,
      exists_eq', and_true, eligible, true_imp_iff]
  · rw [if_neg (show ¬ (_ ∧ _) from eligible)]
    exact iff_of_true ⟨s, rfl⟩ fun must => absurd must eligible

theorem canCredit_next {other : UniqReqId} (credits : SelfCredits cfg [id] s s') (checks : Checks cfg id s s')
    (can : CanCredit cfg s id) (apart : other ≠ id) : CanCredit cfg s' other ↔ CanCredit cfg s other := by
  have same : s'.msg other = s.msg other := credits.kept other fun both => apart (List.mem_singleton.mp both.1)
  unfold CanCredit at can ⊢
  rw [same, checks.pool]
  refine imp_congr_right fun _ => and_congr_right fun _ => ?_
  constructor
  · intro nonneg
    unfold poolWith at nonneg
    split at nonneg
    · next both => exact both.2 ▸ (can both.1).2
    · exact nonneg
  · exact fun nonneg => nonneg.trans (le_poolWith _)

theorem selfCreditLoop_checks {turns : ℕ} (queues : s.Queues) (upcoming : s.outboundInactive.upcoming = ids ++ more)
    (visits : turns = ids.length) (run : selfCreditLoop cfg turns s = .ok s') :
    (∀ addr, (s'.rcvr addr).availCreditBytes = poolAfter cfg s ids addr) ∧
      s'.creditDataReceived = s.creditDataReceived ∧ s'.creditDataRequested = s.creditDataRequested := by
  subst visits
  induction ids generalizing s more with
  | nil =>
    simp only [List.length_nil, selfCreditLoop, Lib.pure_eq_ok] at run
    subst run
    exact ⟨fun _ => rfl, rfl, rfl⟩
  | cons id rest ih =>
    obtain ⟨inactive, msgs, later, turn⟩ := selfCreditLoop_cons cfg upcoming
    rw [List.length_cons, turn, Lib.bind_eq_ok] at run
    obtain ⟨s1, one, others⟩ := run
    have fresh := (List.nodup_cons.mp (RoundRobin.nodup_upcoming upcoming queues.inactive_nodup)).1
    have first := selfCredit_exact (queues.advance msgs) one
    have checks := selfCredit_checks one
    have cursor : s1.outboundInactive.upcoming = rest ++ (more ++ [id]) := by
      rw [selfCredit_inactive one, ← List.append_assoc]
      exact later
    obtain ⟨pools, received, requested⟩ := ih first.queues cursor others
    refine ⟨fun addr => ?_, received.trans checks.received, requested.trans checks.requested⟩
    rw [pools]
    unfold poolAfter
    rw [checks.pool, List.foldl_cons]
    refine List.foldl_ext _ _ _ fun avail other inside => ?_
    have apart : other ∉ [id] := fun here => fresh (List.mem_append_left _ (List.mem_singleton.mp here ▸ inside))
    unfold poolWith
    rw [first.kept other fun both => apart both.1]
    rfl

theorem selfCreditLoop_succeeds_iff (cfg : Config) {turns : ℕ} (queues : s.Queues)
    (upcoming : s.outboundInactive.upcoming = ids ++ more)
    (visits : turns = ids.length) : (∃ s', selfCreditLoop cfg turns s = .ok s') ↔ ∀ id ∈ ids, CanCredit cfg s id := by
  subst visits
  -- what a message finds is said of the state before the loop: the turns in front of it only add to its pool
  induction ids generalizing s more with
  | nil => exact iff_of_true ⟨s, rfl⟩ fun id inside => absurd inside List.not_mem_nil
  | cons id rest ih =>
    obtain ⟨inactive, msgs, later, turn⟩ := selfCreditLoop_cons cfg upcoming
    have fresh := (List.nodup_cons.mp (RoundRobin.nodup_upcoming upcoming queues.inactive_nodup)).1
    have first := selfCredit_succeeds_iff cfg id { s with outboundInactive := inactive }
    -- behind the first message the others find what they found before
    have rest_iff : ∀ s1, selfCredit cfg id { s with outboundInactive := inactive } = .ok s1 →
        ((∃ s', selfCreditLoop cfg rest.length s1 = .ok s') ↔ ∀ other ∈ rest, CanCredit cfg s other) := by
      intro s1 one
      have credits := selfCredit_exact (queues.advance msgs) one
      have cursor : s1.outboundInactive.upcoming = rest ++ (more ++ [id]) := by
        rw [selfCredit_inactive one, ← List.append_assoc]
        exact later
      rw [ih credits.queues cursor]
      refine forall₂_congr fun other inside => ?_
      have apart : other ≠ id := by
        rintro rfl
        exact fresh (List.mem_append_left _ inside)
      exact canCredit_next (s := { s with outboundInactive := inactive }) credits (selfCredit_checks one)
        (first.mp ⟨s1, one⟩) apart
    rw [List.length_cons, turn, Lib.bind_succeeds_iff, List.forall_mem_cons]
    constructor
    · rintro ⟨s1, one, others⟩
      exact ⟨first.mp ⟨s1, one⟩, (rest_iff s1 one).mp others⟩
    · rintro ⟨own, others⟩
      obtain ⟨s1, one⟩ := first.mpr own
      exact ⟨s1, one, (rest_iff s1 one).mpr others⟩

end Credits

section Owing

theorem creditExpected_succeeds_iff : (∃ expected, s.creditExpected addr = .ok expected) ↔
    (s.rcvr addr).availCreditBytes ≤ s.unsentBytes addr := by
  unfold creditExpected assert
  dsimp only
  simp only [Lib.bind_eq_ok, Lib.require_eq_ok, exists_and_left, exists_const, Lib.pure_eq_ok, exists_eq', and_true]
  exact sub_nonneg

theorem numReceiversOwingCredit_succeeds_iff {order : List Addr} : (∃ num, s.numReceiversOwingCredit order = .ok num) ↔
    ∀ addr ∈ order, (s.rcvr addr).availCreditBytes ≤ s.unsentBytes addr := by
  induction order with
  | nil => exact iff_of_true ⟨0, rfl⟩ fun addr inside => absurd inside List.not_mem_nil
  | cons addr rest ih =>
    rw [List.forall_mem_cons, ← creditExpected_succeeds_iff, ← ih]
    rw [numReceiversOwingCredit, Lib.bind_succeeds_iff]
    constructor
    · rintro ⟨expected, own, others⟩
      obtain ⟨num, counts, -⟩ := Lib.bind_succeeds_iff.mp others
      exact ⟨⟨expected, own⟩, num, counts⟩
    · rintro ⟨⟨expected, own⟩, num, counts⟩
      exact ⟨expected, own, Lib.bind_succeeds_iff.mpr ⟨num, counts, _, rfl⟩⟩

/-- The queue length of a packet to a known receiver: algorithm 101 has none, algorithm 2 expects of every receiver. -/
theorem getOutboundVqLen_succeeds_iff (known : daddr ∈ s.remotes.keys) :
    (∃ q, getOutboundVqLen env daddr s = .ok q) ↔ env.cfg.senderAlgo ≠ 101 ∧ (env.cfg.senderAlgo = 2 → s.Within) := by
  have order : (∀ addr ∈ env.plat.walk s.remotes.keys, (s.rcvr addr).availCreditBytes ≤ s.unsentBytes addr) ↔
    s.Within :=
    forall_congr' fun addr => imp_congr_left (env.plat.walk_perm _).mem_iff
  unfold getOutboundVqLen
  by_cases none : env.cfg.senderAlgo = 101
  · rw [if_pos none]
    exact iff_of_false (fun found => by obtain ⟨q, run⟩ := found; cases run) fun both => both.1 none
  · rw [if_neg none]
    by_cases two : env.cfg.senderAlgo = 2
    · rw [if_pos two, Lib.bind_succeeds_iff]
      rw [← order, ← numReceiversOwingCredit_succeeds_iff]
      constructor
      · rintro ⟨num, counts, -⟩
        exact ⟨none, fun _ => ⟨num, counts⟩⟩
      · rintro ⟨-, counts⟩
        obtain ⟨num, counts⟩ := counts two
        exact ⟨num, counts, _, rfl⟩
    · rw [if_neg two]
      refine iff_of_true ?_ ⟨none, fun yes => absurd yes two⟩
      by_cases three : env.cfg.senderAlgo = 3
      · rw [if_pos three]
        exact Lib.bind_succeeds ⟨_, Lib.require_true _ known⟩ fun _ _ => ⟨1, rfl⟩
      · rw [if_neg three]
        exact ⟨_, rfl⟩

end Owing

end Sender

namespace Host

variable {env : Env} {h h1 h' : Host} {hdr : Hdr} {n : ℕ} {daddr : Addr} {id : UniqReqId} {ids : List UniqReqId}

theorem forwardToTransport_checks (run : h.forwardToTransport env hdr n daddr = .ok h') (short : n < maxR2p2Payload)
    (pos : 0 < n) : 0 < hdr.msgCreationTime ∧ ∃ q, getOutboundVqLen env daddr h.snd = .ok q := by
  unfold forwardToTransport sendmsg assert at run
  simp only [Lib.bind_eq_ok, Lib.require_eq_ok, exists_and_left, exists_const] at run
  obtain ⟨created, ⟨hdr', granted, h1⟩, full, run⟩ := run
  rw [Nat.div_eq_of_lt short] at full
  unfold sendFullFrames at full
  simp only [Lib.pure_eq_ok, Prod.mk.injEq] at full
  obtain ⟨rfl, -, rfl⟩ := full
  rw [Nat.mod_eq_of_lt short, if_neg pos.ne'] at run
  simp only [Lib.bind_eq_ok] at run
  obtain ⟨⟨h2, granted⟩, frame, -⟩ := run
  unfold sendFrame at frame
  simp only [Lib.bind_eq_ok] at frame
  obtain ⟨-, -, -, -, q, qlen, -⟩ := frame
  exact ⟨created, q, qlen⟩

theorem sendGrantReq_succeeds_iff (known : (h.snd.msg id).remoteAddr ∈ h.snd.remotes.keys) :
    (∃ h', h.sendGrantReq env id = .ok h') ↔ env.cfg.unsolicitedThreshBytes ≠ -1 ∧ 0 < (h.snd.msg id).msgCreationTime ∧
      (env.cfg.senderAlgo ≠ 101 ∧ (env.cfg.senderAlgo = 2 → h.snd.Within)) ∧
      h.snd.creditDataReceived ≤ h.snd.creditDataRequested + (h.snd.msg id).totalBytes := by
  rw [← Sender.getOutboundVqLen_succeeds_iff known]
  unfold sendGrantReq assert
  dsimp only
  constructor
  · rintro ⟨h', run⟩
    simp only [Lib.bind_eq_ok, Lib.require_eq_ok, exists_and_left, exists_const] at run
    obtain ⟨threshold, h1, forward, requested, -⟩ := run
    obtain ⟨created, qlen⟩ := forwardToTransport_checks forward (by decide) (by decide)
    rw [forwardToTransport_snd forward] at requested
    exact ⟨threshold, created, qlen, requested⟩
  · rintro ⟨threshold, created, qlen, requested⟩
    have can : CanSend env (h.snd.msg id).grantReqHdr (h.snd.msg id).remoteAddr h.snd := by
      refine ⟨created, fun _ _ => ?_, qlen⟩
      simp [OutboundMsgState.grantReqHdr]
    refine Lib.bind_succeeds ⟨_, Lib.require_true _ threshold⟩ fun _ _ => ?_
    refine Lib.bind_succeeds (forwardToTransport_succeeds can (by decide) (by decide)) fun h1 forward => ?_
    have still : h1.snd.creditDataReceived ≤ h1.snd.creditDataRequested + (h.snd.msg id).totalBytes := by
      rw [forwardToTransport_snd forward]
      exact requested
    exact Lib.bind_succeeds ⟨_, Lib.require_true _ still⟩ fun _ _ => ⟨_, rfl⟩

/-- No receiver's pool holds more than the messages queued to it still cost, once the messages in front have joined. -/
def Owes (h : Host) (pool : Addr → ℤ) (pre : List UniqReqId) : Prop :=
  ∀ addr ∈ h.snd.remotes.keys, pool addr ≤ h.snd.unsentBytes addr +
    ((pre.filter fun other => (h.snd.msg other).remoteAddr = addr).map fun other =>
      addHeaderOverhead (h.snd.msg other).unsentBytes).sum

/-- What a completely scheduled message finds when its turn comes, behind those in front of it that ask
for credit as well and those that wait in the queues by then. -/
structure CanAsk (env : Env) (h : Host) (pool : Addr → ℤ) (asks : UniqReqId → Bool) (pre : List UniqReqId)
    (id : UniqReqId) : Prop where
  threshold : env.cfg.unsolicitedThreshBytes ≠ -1
  created : 0 < (h.snd.msg id).msgCreationTime
  implemented : env.cfg.senderAlgo ≠ 101
  requested : h.snd.creditDataReceived ≤ h.snd.creditDataRequested +
    ((pre.filter asks).map fun other => ((h.snd.msg other).totalBytes : ℤ)).sum + (h.snd.msg id).totalBytes
  expected : env.cfg.senderAlgo = 2 → h.Owes pool pre

def TurnOk (env : Env) (h : Host) (pool : Addr → ℤ) (asks : UniqReqId → Bool) (pre : List UniqReqId)
    (id : UniqReqId) : Prop :=
  (h.snd.msg id).totalBytes = (h.snd.msg id).unsentBytes ∧ (asks id = true → CanAsk env h pool asks pre id)

abbrev TurnNow (env : Env) (h : Host) : List UniqReqId → UniqReqId → Prop :=
  TurnOk env h (fun addr => (h.snd.rcvr addr).availCreditBytes) fun other => (h.snd.msg other).isScheduled

theorem activate_succeeds_iff (env : Env) (queues : h.snd.Queues) (inside : id ∈ h.snd.outboundInactive.msgs)
    (unannounced : h.snd.Unannounced id) : (∃ h', h.activate env id = .ok h') ↔ TurnNow env h [] id := by
  have known := queues.remote id ((queues.inactive id).mp inside).1
  have moves : ∀ h1 : Host, id ∈ h1.snd.outboundInactive.msgs → ∃ h', (do
      let snd ← h1.snd.moveToReceiver id
      return { h1 with snd } : Checked Host) = .ok h' :=
    fun h1 there => Lib.bind_succeeds (Sender.moveToReceiver_succeeds there) fun _ _ => ⟨_, rfl⟩
  unfold activate assert TurnNow TurnOk
  dsimp only
  rw [if_neg (by simp [unannounced.1])]
  cases scheduled : (h.snd.msg id).isScheduled with
  | false =>
    constructor
    · rintro ⟨h', run⟩
      simp only [Lib.bind_eq_ok, Lib.require_eq_ok, exists_and_left, exists_const] at run
      exact ⟨run.1, fun asks => absurd asks Bool.false_ne_true⟩
    · rintro ⟨whole, -⟩
      exact Lib.bind_succeeds ⟨_, Lib.require_true _ whole⟩ fun _ _ => moves h inside
  | true =>
    have none_before : CanAsk env h (fun addr => (h.snd.rcvr addr).availCreditBytes)
        (fun other => (h.snd.msg other).isScheduled) [] id ↔ ∃ h', h.sendGrantReq env id = .ok h' := by
      rw [sendGrantReq_succeeds_iff known]
      constructor
      · intro can
        refine ⟨can.threshold, can.created, ⟨can.implemented, fun two addr there => ?_⟩, ?_⟩
        · simpa using can.expected two addr there
        · simpa using can.requested
      · rintro ⟨threshold, created, ⟨implemented, within⟩, requested⟩
        refine ⟨threshold, created, implemented, by simpa using requested, fun two addr there => ?_⟩
        simpa using within two addr there
    rw [none_before]
    constructor
    · rintro ⟨h', run⟩
      simp only [if_true, Lib.bind_eq_ok, Lib.require_eq_ok, exists_and_left, exists_const] at run
      obtain ⟨whole, h1, request, -⟩ := run
      exact ⟨whole, fun _ => ⟨h1, request⟩⟩
    · rintro ⟨whole, request⟩
      refine Lib.bind_succeeds ⟨_, Lib.require_true _ whole⟩ fun _ _ => ?_
      refine Lib.bind_succeeds (request rfl) fun h1 requested => moves h1 ?_
      obtain ⟨p, -, sent⟩ := sendGrantReq_ok requested
      rw [sent]
      exact inside

theorem activate_counts (unannounced : h.snd.Unannounced id) (run : h.activate env id = .ok h') :
    h'.snd.creditDataReceived = h.snd.creditDataReceived ∧ h'.snd.creditDataRequested = h.snd.creditDataRequested +
      if (h.snd.msg id).isScheduled then ((h.snd.msg id).totalBytes : ℤ) else 0 := by
  unfold activate assert at run
  rw [if_neg (by simp [unannounced.1])] at run
  simp only [Lib.bind_eq_ok, Lib.require_eq_ok, exists_and_left, exists_const] at run
  obtain ⟨-, run⟩ := run
  cases scheduled : (h.snd.msg id).isScheduled with
  | false =>
    simp only [scheduled, Bool.false_eq_true, if_false, Lib.bind_eq_ok, Lib.pure_eq_ok, exists_eq_left'] at run
    obtain ⟨snd, moved, rfl⟩ := run
    obtain ⟨inactive, same⟩ := Sender.moveToReceiver_eq moved
    rw [same]
    exact ⟨rfl, (add_zero _).symm⟩
  | true =>
    simp only [scheduled, if_true, Lib.bind_eq_ok, Lib.pure_eq_ok] at run
    obtain ⟨h1, request, snd, moved, rfl⟩ := run
    obtain ⟨p, -, requested⟩ := sendGrantReq_ok request
    obtain ⟨inactive, same⟩ := Sender.moveToReceiver_eq moved
    dsimp only
    rw [same, requested]
    exact ⟨rfl, rfl⟩

theorem Activates.unsentBytes (activates : Activates [id] h h') (addr : Addr) : h'.snd.unsentBytes addr =
    h.snd.unsentBytes addr + if (h.snd.msg id).remoteAddr = addr then addHeaderOverhead
    (h.snd.msg id).unsentBytes else 0 := by
  have same : ∀ other, (h'.snd.msg other).unsentBytes = (h.snd.msg other).unsentBytes := by
    intro other
    rw [activates.msg]
    split <;> rfl
  unfold Sender.unsentBytes
  simp only [same]
  rw [activates.queue, List.map_append, List.sum_append]
  split
  · next towards => simp [towards]
  · next away => simp [away]

/-- Behind the turn of a message the others find what they found with it in front of them. -/
theorem turn_iff (activates : Activates [id] h h1) (counts : h1.snd.creditDataReceived = h.snd.creditDataReceived ∧
      h1.snd.creditDataRequested = h.snd.creditDataRequested +
        if (h.snd.msg id).isScheduled then ((h.snd.msg id).totalBytes : ℤ) else 0)
    (pre : List UniqReqId) (other : UniqReqId) :
    TurnNow env h1 pre other ↔ TurnNow env h (id :: pre) other := by
  have fixed : ∀ any, (h1.snd.msg any).totalBytes = (h.snd.msg any).totalBytes ∧
      (h1.snd.msg any).unsentBytes = (h.snd.msg any).unsentBytes ∧
      (h1.snd.msg any).isScheduled = (h.snd.msg any).isScheduled ∧
      (h1.snd.msg any).msgCreationTime = (h.snd.msg any).msgCreationTime ∧
      (h1.snd.msg any).remoteAddr = (h.snd.msg any).remoteAddr := by
    intro any
    rw [activates.msg]
    split <;> exact ⟨rfl, rfl, rfl, rfl, rfl⟩
  have total := fun any => (fixed any).1
  have unsent := fun any => (fixed any).2.1
  have scheduled := fun any => (fixed any).2.2.1
  have created := fun any => (fixed any).2.2.2.1
  have remote := fun any => (fixed any).2.2.2.2
  have asked : h1.snd.creditDataRequested +
        ((pre.filter fun any => (h.snd.msg any).isScheduled).map fun any => ((h.snd.msg any).totalBytes : ℤ)).sum =
      h.snd.creditDataRequested +
        (((id :: pre).filter fun any => (h.snd.msg any).isScheduled).map fun any =>
          ((h.snd.msg any).totalBytes : ℤ)).sum := by
    rw [counts.2, List.filter_cons]
    split <;> simp [add_assoc]
  have waits : ∀ addr,
    h1.snd.unsentBytes addr + ((pre.filter fun any => (h.snd.msg any).remoteAddr = addr).map fun any =>
        addHeaderOverhead (h.snd.msg any).unsentBytes).sum =
      h.snd.unsentBytes addr + (((id :: pre).filter fun any => (h.snd.msg any).remoteAddr = addr).map fun any =>
        addHeaderOverhead (h.snd.msg any).unsentBytes).sum := by
    intro addr
    rw [activates.unsentBytes, List.filter_cons]
    by_cases towards : (h.snd.msg id).remoteAddr = addr <;> simp [towards, add_assoc]
  have owes : h1.Owes (fun addr => (h1.snd.rcvr addr).availCreditBytes) pre ↔
      h.Owes (fun addr => (h.snd.rcvr addr).availCreditBytes) (id :: pre) := by
    unfold Owes
    simp only [activates.remotes, activates.avail, unsent, remote, waits]
  unfold TurnNow TurnOk
  simp only [total, unsent, scheduled]
  refine and_congr_right fun _ => imp_congr_right fun _ => ?_
  constructor
  · intro can
    have past := can.created
    have requested := can.requested
    rw [created] at past
    simp only [total, counts.1, asked] at requested
    exact ⟨can.threshold, past, can.implemented, requested, fun two => owes.mp (can.expected two)⟩
  · intro can
    refine ⟨can.threshold, ?_, can.implemented, ?_, fun two => owes.mpr (can.expected two)⟩
    · rw [created]
      exact can.created
    · simp only [total, counts.1, asked]
      exact can.requested

theorem turn_moved {inactive : RoundRobin UniqReqId} (pre : List UniqReqId) (other : UniqReqId) :
    TurnNow env { h with snd := { h.snd with outboundInactive := inactive } } pre other ↔ TurnNow env h pre other :=
  and_congr_right fun _ => imp_congr_right fun _ =>
    ⟨fun can => ⟨can.threshold, can.created, can.implemented, can.requested, can.expected⟩,
      fun can => ⟨can.threshold, can.created, can.implemented, can.requested, can.expected⟩⟩

/-- The second loop gets through when every message finds what it needs, each behind those in front of it. -/
theorem activateLoop_succeeds_iff {turns : ℕ} (queues : h.snd.Queues) (upcoming : h.snd.outboundInactive.upcoming = ids)
    (unannounced : ∀ id ∈ ids, h.snd.Unannounced id) (visits : turns = ids.length) :
    (∃ h', h.activateLoop env turns = .ok h') ↔ ∀ pre id post, ids = pre ++ id :: post → TurnNow env h pre id := by
  subst visits
  -- the turns in front of a message are put into what it finds, one at a time
  induction ids generalizing h with
  | nil => exact iff_of_true ⟨h, rfl⟩ fun pre id post split => absurd split (by simp)
  | cons id rest ih =>
    obtain ⟨inactive, msgs, later, turn⟩ := activateLoop_cons env upcoming
    have fresh := (List.nodup_cons.mp (RoundRobin.nodup_upcoming upcoming queues.inactive_nodup)).1
    have inside : id ∈ inactive.msgs := by
      rw [← RoundRobin.mem_upcoming, later]
      exact List.mem_append_right _ (List.mem_singleton_self id)
    have own := unannounced id List.mem_cons_self
    have first := activate_succeeds_iff env (h := { h with snd := { h.snd with outboundInactive := inactive } })
      (queues.advance msgs) inside own
    rw [turn_moved] at first
    have rest_iff : ∀ h1, { h with snd := { h.snd with outboundInactive := inactive } }.activate env id = .ok h1 →
        ((∃ h', h1.activateLoop env rest.length = .ok h') ↔
          ∀ pre other post, rest = pre ++ other :: post → TurnNow env h (id :: pre) other) := by
      intro h1 one
      obtain ⟨activates, left⟩ := activate_turn_exact queues upcoming msgs later own one
      have waiting : ∀ other ∈ rest, h1.snd.Unannounced other := by
        intro other inside
        have outside : other ∉ [id] := fun same => fresh (List.mem_singleton.mp same ▸ inside)
        exact activates.unannounced outside (unannounced other (List.mem_cons_of_mem _ inside))
      rw [ih activates.queues left waiting]
      refine forall_congr' fun pre => forall_congr' fun other => forall_congr' fun post => imp_congr_right fun _ => ?_
      rw [turn_iff activates (activate_counts own one), turn_moved]
    rw [List.length_cons, turn, Lib.bind_succeeds_iff, forall_split_cons]
    constructor
    · rintro ⟨h1, one, others⟩
      exact ⟨first.mp ⟨h1, one⟩, (rest_iff h1 one).mp others⟩
    · rintro ⟨now, others⟩
      obtain ⟨h1, one⟩ := first.mpr now
      exact ⟨h1, one, (rest_iff h1 one).mpr others⟩

def AsksCredit (cfg : Config) (m : OutboundMsgState) : Prop := ¬ Sender.Eligible cfg m ∧ m.isScheduled = true

instance (cfg : Config) (m : OutboundMsgState) : Decidable (AsksCredit cfg m) := inferInstanceAs (Decidable (_ ∧ _))

/-- Every inactive message can credit itself if it is to, and finds what it needs when its turn comes. -/
structure Announceable (env : Env) (h : Host) : Prop where
  credits : ∀ id ∈ h.snd.outboundInactive.msgs, Sender.CanCredit env.cfg h.snd id
  turns : ∀ pre id post, h.snd.outboundInactive.upcoming = pre ++ id :: post →
    TurnOk env h (Sender.poolAfter env.cfg h.snd h.snd.outboundInactive.upcoming)
      (fun other => decide (AsksCredit env.cfg (h.snd.msg other))) pre id

theorem turn_credited {snd : Sender} {pre : List UniqReqId} (credits : Sender.SelfCredits env.cfg ids h.snd snd)
    (pools : ∀ addr, (snd.rcvr addr).availCreditBytes = Sender.poolAfter env.cfg h.snd ids addr)
    (counts : snd.creditDataReceived = h.snd.creditDataReceived ∧ snd.creditDataRequested = h.snd.creditDataRequested)
    (inside : ∀ other ∈ pre ++ [id], other ∈ ids) : TurnNow env { h with snd } pre id ↔
      TurnOk env h (Sender.poolAfter env.cfg h.snd ids)
      (fun other => decide (AsksCredit env.cfg (h.snd.msg other))) pre id := by
  -- a message that credits itself keeps its size, its time and its receiver
  have fixed : ∀ any, (snd.msg any).totalBytes = (h.snd.msg any).totalBytes ∧
      (snd.msg any).unsentBytes = (h.snd.msg any).unsentBytes ∧
      (snd.msg any).msgCreationTime = (h.snd.msg any).msgCreationTime ∧
      (snd.msg any).remoteAddr = (h.snd.msg any).remoteAddr := by
    intro any
    by_cases taken : any ∈ ids ∧ Sender.Eligible env.cfg (h.snd.msg any)
    · obtain ⟨bytes, data, -, msg⟩ := credits.taken any taken.1 taken.2
      rw [msg]
      exact ⟨rfl, rfl, rfl, rfl⟩
    · rw [credits.kept any taken]
      exact ⟨rfl, rfl, rfl, rfl⟩
  have total := fun any => (fixed any).1
  have unsent := fun any => (fixed any).2.1
  have created := fun any => (fixed any).2.2.1
  have remote := fun any => (fixed any).2.2.2
  have scheduled : ∀ any ∈ pre ++ [id], (snd.msg any).isScheduled = decide (AsksCredit env.cfg (h.snd.msg any)) := by
    intro any there
    by_cases eligible : Sender.Eligible env.cfg (h.snd.msg any)
    · obtain ⟨bytes, data, -, msg⟩ := credits.taken any (inside any there) eligible
      rw [msg]
      simp [AsksCredit, eligible, OutboundMsgState.credited]
    · rw [credits.kept any fun both => eligible both.2]
      simp [AsksCredit, eligible]
  have asking : (pre.filter fun any => (snd.msg any).isScheduled) = pre.filter fun any =>
    decide (AsksCredit env.cfg (h.snd.msg any)) :=
    List.filter_congr fun any there => scheduled any (List.mem_append_left _ there)
  have waits : ∀ addr, snd.unsentBytes addr = h.snd.unsentBytes addr := by
    intro addr
    unfold Sender.unsentBytes
    rw [credits.outMsgs]
    simp only [unsent]
  have owes : Owes { h with snd } (fun addr => (snd.rcvr addr).availCreditBytes) pre ↔
      h.Owes (Sender.poolAfter env.cfg h.snd ids) pre := by
    unfold Owes
    simp only [credits.remotes, unsent, remote, waits, pools]
  unfold TurnNow TurnOk
  dsimp only
  rw [scheduled id (by simp), total, unsent]
  refine and_congr_right fun _ => imp_congr_right fun _ => ?_
  constructor
  · intro can
    have past := can.created
    have requested := can.requested
    rw [created] at past
    simp only [total, counts.1, counts.2, asking] at requested
    exact ⟨can.threshold, past, can.implemented, requested, fun two => owes.mp (can.expected two)⟩
  · intro can
    refine ⟨can.threshold, ?_, can.implemented, ?_, fun two => owes.mpr (can.expected two)⟩
    · rw [created]
      exact can.created
    · simp only [total, counts.1, counts.2, asking]
      exact can.requested

/-- The pools hold no more than they should when the turn comes of what is behind these. -/
def OwesBehind (cfg : Config) (h : Host) (pre : List UniqReqId) : Prop :=
  h.Owes (Sender.poolAfter cfg h.snd h.snd.outboundInactive.upcoming) pre

theorem announceable_updated {now : Time} : Announceable env (h.updateDataBacklog env now) ↔ Announceable env h := by
  constructor
  · intro announceable
    refine ⟨announceable.credits, fun pre id post split => ?_⟩
    obtain ⟨whole, asks⟩ := announceable.turns pre id post split
    refine ⟨whole, fun asked => ?_⟩
    obtain ⟨threshold, created, implemented, requested, expected⟩ := asks asked
    exact ⟨threshold, created, implemented, requested, expected⟩
  · intro announceable
    refine ⟨announceable.credits, fun pre id post split => ?_⟩
    obtain ⟨whole, asks⟩ := announceable.turns pre id post split
    refine ⟨whole, fun asked => ?_⟩
    obtain ⟨threshold, created, implemented, requested, expected⟩ := asks asked
    exact ⟨threshold, created, implemented, requested, expected⟩

theorem announce_succeeds_iff (env : Env) (queues : h.snd.Queues) (unannounced : ∀ id ∈ h.snd.outboundInactive.msgs,
    h.snd.Unannounced id) :
    (∃ h', h.announce env = .ok h') ↔ Announceable env h := by
  have member := h.snd.outboundInactive.mem_upcoming
  have upcoming : h.snd.outboundInactive.upcoming = h.snd.outboundInactive.upcoming ++ [] := (List.append_nil _).symm
  have turns : h.snd.outboundInactive.size = h.snd.outboundInactive.upcoming.length :=
    (RoundRobin.length_upcoming _).symm
  have first := Sender.selfCreditLoop_succeeds_iff env.cfg queues upcoming turns
  simp only [member] at first
  have second : ∀ snd, Sender.selfCreditLoop env.cfg h.snd.outboundInactive.size h.snd = .ok snd →
      ((∃ h', ({ h with snd } : Host).activateLoop env snd.outboundInactive.size = .ok h') ↔
        ∀ pre id post, h.snd.outboundInactive.upcoming = pre ++ id :: post →
          TurnOk env h (Sender.poolAfter env.cfg h.snd h.snd.outboundInactive.upcoming)
            (fun other => decide (AsksCredit env.cfg (h.snd.msg other))) pre id) := by
    intro snd credit
    obtain ⟨credits, turned⟩ := Sender.selfCreditLoop_exact queues upcoming turns credit
    obtain ⟨pools, counts⟩ := Sender.selfCreditLoop_checks queues upcoming turns credit
    rw [List.nil_append] at turned
    have size : snd.outboundInactive.size = h.snd.outboundInactive.upcoming.length := by
      rw [← turned, RoundRobin.length_upcoming]
    rw [activateLoop_succeeds_iff (h := { h with snd }) credits.queues turned
      (fun id inside => credits.unannounced (unannounced id ((member id).mp inside))) size]
    refine forall_congr' fun pre => forall_congr' fun id => forall_congr' fun post => imp_congr_right fun split => ?_
    refine turn_credited credits pools counts fun other inside => ?_
    rw [split, List.append_cons]
    exact List.mem_append_left post inside
  unfold announce
  rw [Lib.bind_succeeds_iff]
  constructor
  · rintro ⟨snd, credit, activates⟩
    exact ⟨first.mp ⟨snd, credit⟩, (second snd credit).mp activates⟩
  · rintro ⟨credits, turns⟩
    obtain ⟨snd, credit⟩ := first.mpr credits
    exact ⟨snd, credit, (second snd credit).mpr turns⟩

end Host

end PhantomPass
