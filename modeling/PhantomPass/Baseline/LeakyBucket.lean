import Mathlib
import PhantomPass.Config
import PhantomPass.Lib.Runs

/-! R2p2LeakyBucket, which paces control messages by their tokens. Its add sends
at once, whether or not the uplink is committed: packets leave in their order,
but closer than they should. -/

set_option autoImplicit false

namespace PhantomPass.Baseline

/-- packet_info_t: the header, with the delay of a GRANT, the size and the destination. -/
structure PacketInfo where
  hdr : Hdr
  grantDelayS : Time := 0
  payload : ℕ := 0
  daddr : Addr := 0
  deriving DecidableEq

structure BucketItem where
  pktInfo : PacketInfo
  tokensNeeded : ℤ
  deriving DecidableEq

/-- What stays: the link speed in bits per second, and the idle gap. -/
structure Leak where
  leakSpeed : ℚ
  gapSizeNs : ℤ := 0

/-- The bucket, with its timers by the time at which they are due. What entered
the backlog and what left are kept beside the state; the code reads neither. -/
structure LeakyBucket where
  backlog : List BucketItem := []
  uplinkCommitted : Bool := false
  leakTimer : Option Time := none
  deferred : List (Time × BucketItem) := []
  lastGrantTime : Time := 0
  nextGrantIn : Time := 0
  now : Time := 0
  entered : List BucketItem := []
  departed : List (Time × BucketItem) := []
  deriving DecidableEq

def microseconds (seconds : Time) : ℚ := seconds * 1000 * 1000

def PacketInfo.Deferred (m : PacketInfo) : Prop := m.hdr.msgType = .grant ∧ 0.00001 < microseconds m.grantDelayS

instance (m : PacketInfo) : Decidable m.Deferred := inferInstanceAs (Decidable (_ ∧ _))

namespace Leak

variable (leak : Leak)

def seconds (nbytes : ℤ) : Time := nbytes * 8 / leak.leakSpeed + leak.gapSizeNs / 1000 / 1000 / 1000

def nextSendTime (nbytes : ℤ) : Checked Time := do
  assert .nextSendTime "leak_speed_ > 0" (0 < leak.leakSpeed)
  return leak.seconds nbytes

end Leak

namespace LeakyBucket

variable (leak : Leak) (s : LeakyBucket)

def depart (now : Time) (item : BucketItem) (rest : List BucketItem) : LeakyBucket :=
  { s with
    uplinkCommitted := true
    nextGrantIn := leak.seconds item.tokensNeeded
    leakTimer := some (now + leak.seconds item.tokensNeeded)
    lastGrantTime := now
    departed := s.departed ++ [(now, item)]
    backlog := rest }

def send (now : Time) : Checked LeakyBucket :=
  match s.backlog with
  | item :: rest => do
    assert .leakyBucketSend "gap_size_ns_ >= 0" (0 ≤ leak.gapSizeNs)
    let next ← leak.nextSendTime item.tokensNeeded
    assert .leakyBucketSend "next_grant_in_ > 0" (0 < next)
    return s.depart leak now item rest
  -- the uplink is free again
  | [] => return { s with uplinkCommitted := false }

def checkDelay (m : PacketInfo) : Checked PUnit :=
  if m.hdr.msgType = .reqrdy ∨ m.hdr.msgType = .grant then do
    assert .leakyBucketAdd "r2p2_hdr.credit() > 0" (0 < m.hdr.credit)
    assert .leakyBucketAdd "r2p2_hdr.grant_delay_s() * 1000.0 * 1000.0 < 1000.0" (microseconds m.grantDelayS < 1000)
    assert .leakyBucketAdd "r2p2_hdr.grant_delay_s() * 1000.0 * 1000.0 > -0.00001" (-0.00001 <
      microseconds m.grantDelayS)
    if m.hdr.msgType = .reqrdy then
      assert .leakyBucketAdd "r2p2_hdr.grant_delay_s() * 1000.0 * 1000.0 < 0.00001"
        (microseconds m.grantDelayS < 0.00001)
    else return ⟨⟩
  else assert .leakyBucketAdd "r2p2_hdr.grant_delay_s() * 1000.0 * 1000.0 < 0.00001"
    (microseconds m.grantDelayS < 0.00001)

def add (now : Time) (item : BucketItem) : Checked LeakyBucket := do
  checkDelay item.pktInfo
  assert .leakyBucketAdd "tokens_needed > 0" (0 < item.tokensNeeded)
  -- it comes back when its delay is over
  if item.pktInfo.Deferred then
    let again := { item with pktInfo := { item.pktInfo with grantDelayS := 0 } }
    return { s with deferred := s.deferred ++ [(now + item.pktInfo.grantDelayS, again)] }
  else ({ s with backlog := s.backlog ++ [item], entered := s.entered ++ [item] } : LeakyBucket).send leak now

/-- A call of add, the leak timer or one of the deferred timers. -/
inductive Event
  | add (now : Time) (item : BucketItem)
  | leak
  | deferred (i : ℕ)

def Due (now : Time) : Prop := s.now ≤ now ∧ (∀ due ∈ s.leakTimer, now ≤ due) ∧ ∀ timer ∈ s.deferred, now ≤ timer.1

instance (now : Time) : Decidable (s.Due now) := inferInstanceAs (Decidable (_ ∧ _ ∧ _))

/-- DeferredSendTimer::expire. -/
def expire (now : Time) (item : BucketItem) : Checked LeakyBucket := do
  assert .deferredSendTimerExpire "grant_delay_s() * 1000.0 * 1000.0 < 0.000001"
    (microseconds item.pktInfo.grantDelayS < 0.000001)
  s.add leak now item

def Event.time : Event → Option Time
  | .add now _ => some now
  | .leak => s.leakTimer
  | .deferred i => (s.deferred[i]?).map Prod.fst

def fire : Event → Checked LeakyBucket
  | .add now item => { s with now }.add leak now item
  | .leak =>
    match s.leakTimer with
    | some now => { s with now, leakTimer := none }.send leak now
    | none => return s
  | .deferred i =>
    match s.deferred[i]? with
    | some (now, item) => { s with now, deferred := s.deferred.eraseIdx i }.expire leak now item
    | none => return s

/-- What happens next, at its time; timers that are due at one time expire in any order. -/
def Step (s : LeakyBucket) (e : Event) (t : LeakyBucket) : Prop :=
  ∃ now, e.time s = some now ∧ s.Due now ∧ s.fire leak e = .ok t

def move (e : Event) : Option LeakyBucket :=
  (e.time s).bind fun now => if s.Due now then (s.fire leak e).toOption else none

theorem move_step (s : LeakyBucket) (e : Event) (t : LeakyBucket) (moves : move leak s e = some t) :
    Step leak s e t := by
  obtain ⟨now, time, moves⟩ := Option.bind_eq_some_iff.mp moves
  refine ⟨now, time, ?_⟩
  split at moves
  · next due => exact ⟨due, Lib.toOption_eq_some.mp moves⟩
  · cases moves

def Event.enters : Event → Option Time
  | .add now item => if item.pktInfo.Deferred then none else some now
  | .leak => none
  | .deferred i => (s.deferred[i]?).map Prod.fst

/-- A message enters the backlog when the uplink is free: the leak timer does not
run, or is due. -/
def Free (e : Event) : Prop := ∀ now ∈ e.enters s, ∀ due ∈ s.leakTimer, due ≤ now

instance (e : Event) : Decidable (s.Free e) := inferInstanceAs (Decidable (∀ now ∈ _, ∀ due ∈ _, _))

/-- Two departures in a row are as far apart as the tokens of the earlier one say. -/
def Spaced : Prop := s.departed.IsChain fun earlier later => earlier.1 + leak.seconds earlier.2.tokensNeeded ≤ later.1

/-- Between events the backlog is empty, and the leak timer runs for the last departure. -/
structure Ok : Prop where
  backlog : s.backlog = []
  entered : s.entered = s.departed.map Prod.snd
  committed : s.uplinkCommitted = s.leakTimer.isSome
  first : s.departed = [] → s.leakTimer = none
  last : ∀ x ∈ s.departed.getLast?, s.leakTimer = some (x.1 + leak.seconds x.2.tokensNeeded) ∨
    (s.leakTimer = none ∧ x.1 + leak.seconds x.2.tokensNeeded ≤ s.now)
  readded : ∀ timer ∈ s.deferred, timer.2.pktInfo.grantDelayS = 0

theorem Ok.init : Ok leak {} := ⟨rfl, rfl, rfl, fun _ => rfl, by simp, by simp⟩

variable {leak} {s} {t : LeakyBucket}

theorem add_eq {now : Time} {item : BucketItem} (empty : s.backlog = []) (run : s.add leak now item = .ok t) :
    if item.pktInfo.Deferred then
      t = { s with deferred := s.deferred ++
        [(now + item.pktInfo.grantDelayS, { item with pktInfo := { item.pktInfo with grantDelayS := 0 } })] }
    else t = { s with entered := s.entered ++ [item] }.depart leak now item [] := by
  unfold add at run
  split
  · next later =>
    simp only [if_pos later, Lib.bind_eq_ok, Lib.pure_eq_ok] at run
    obtain ⟨-, -, -, -, rfl⟩ := run
    rfl
  · next now_ =>
    simp only [if_neg now_, empty, List.nil_append, send, Lib.bind_eq_ok, Lib.pure_eq_ok, Leak.nextSendTime] at run
    obtain ⟨-, -, -, -, -, -, _, ⟨-, -, rfl⟩, -, -, rfl⟩ := run
    rfl

theorem Ok.depart (ok : Ok leak s) {now : Time} (item : BucketItem) (due : s.Due now) :
    Ok leak ({ s with now, entered := s.entered ++ [item] }.depart leak now item []) ∧
      (Spaced leak ({ s with now, entered := s.entered ++ [item] }.depart leak now item []) ↔
        s.Spaced leak ∧ ∀ later ∈ s.leakTimer, later ≤ now) := by
  refine ⟨⟨rfl, by simp [LeakyBucket.depart, ok.entered], rfl, by simp [LeakyBucket.depart], ?_, ok.readded⟩, ?_⟩
  · intro x last
    simp only [LeakyBucket.depart, List.getLast?_concat, Option.mem_def, Option.some.injEq] at last
    subst last
    exact Or.inl rfl
  · simp only [Spaced, LeakyBucket.depart, List.isChain_append, List.isChain_singleton, List.head?_cons,
      Option.mem_def, Option.some.injEq, forall_eq', true_and, and_congr_right_iff]
    intro spaced
    cases before : s.departed.getLast? with
    | none =>
      have idle := ok.first (List.getLast?_eq_none_iff.mp before)
      simp [idle]
    | some x =>
      rcases ok.last x before with runs | ⟨idle, expired⟩
      · simp [runs]
      · simp only [idle, Option.some.injEq, forall_eq', reduceCtorEq, false_implies, implies_true, iff_true]
        exact expired.trans due.1

/-- One step keeps the bucket; the departures stay spaced exactly if the uplink was free. -/
theorem Ok.step (ok : Ok leak s) {e : Event} (step : Step leak s e t) :
    Ok leak t ∧ (t.Spaced leak ↔ s.Spaced leak ∧ s.Free e) := by
  obtain ⟨now, time, due, run⟩ := step
  cases e with
  | add at_ item =>
    cases time
    have out := add_eq (s := { s with now }) ok.backlog run
    split at out
    · next later =>
      subst out
      have never : s.Free (.add now item) := by simp [Free, Event.enters, later]
      refine ⟨⟨ok.backlog, ok.entered, ok.committed, ok.first, fun x last => ?_, ?_⟩, ?_⟩
      · exact (ok.last x last).imp_right fun expired => ⟨expired.1, expired.2.trans due.1⟩
      · rintro timer inside
        rcases List.mem_append.mp inside with old | new
        · exact ok.readded timer old
        · rw [List.mem_singleton.mp new]
      · exact ⟨fun spaced => ⟨spaced, never⟩, And.left⟩
    · next enters =>
      subst out
      have free : s.Free (.add now item) ↔ ∀ later ∈ s.leakTimer, later ≤ now := by simp [Free, Event.enters, enters]
      rw [free]
      exact ok.depart item due
  | leak =>
    have timer : s.leakTimer = some now := time
    simp only [fire, timer, send, ok.backlog, Lib.pure_eq_ok] at run
    subst run
    refine ⟨⟨rfl, ok.entered, rfl, fun _ => rfl, fun x last => Or.inr ⟨rfl, ?_⟩, ok.readded⟩,
      fun spaced => ⟨spaced, fun _ none => by cases none⟩, And.left⟩
    rcases ok.last x last with runs | ⟨idle, -⟩
    · rw [timer] at runs
      exact (Option.some.inj runs).ge
    · rw [timer] at idle
      cases idle
  | deferred i =>
    obtain ⟨⟨at_, item⟩, found, rfl⟩ := Option.map_eq_some_iff.mp time
    have no_delay : item.pktInfo.grantDelayS = 0 := ok.readded _ (List.mem_of_getElem? found)
    have enters : ¬ item.pktInfo.Deferred := by
      rintro ⟨-, delay⟩
      rw [no_delay] at delay
      norm_num [microseconds] at delay
    simp only [fire, found, expire, Lib.bind_eq_ok] at run
    obtain ⟨-, -, run⟩ := run
    have out := add_eq (s := { s with now := at_, deferred := s.deferred.eraseIdx i }) ok.backlog run
    rw [if_neg enters] at out
    subst out
    have free : s.Free (.deferred i) ↔ ∀ later ∈ s.leakTimer, later ≤ at_ := by
      simp only [Free, Event.enters, found, Option.map_some, Option.mem_def, Option.some.injEq, forall_eq']
    rw [free]
    have fewer : Ok leak { s with deferred := s.deferred.eraseIdx i } :=
      ⟨ok.backlog, ok.entered, ok.committed, ok.first, ok.last,
        fun timer inside => ok.readded timer (List.mem_of_mem_eraseIdx inside)⟩
    exact fewer.depart item ⟨due.1, due.2.1, fun timer inside => due.2.2 timer (List.mem_of_mem_eraseIdx inside)⟩

/-- In every run, packets leave in the order in which they entered the backlog;
and they leave spaced exactly if none ever entered while the uplink was busy. -/
theorem spaced_iff {trace : List (LeakyBucket × Event)} (run : Lib.Run (Step leak) {} trace s) :
    s.entered = s.departed.map Prod.snd ++ s.backlog ∧
      (s.Spaced leak ↔ ∀ x ∈ trace, x.1.Free x.2) := by
  have stays : ∀ s e t, Ok leak s → Step leak s e t → Ok leak t := fun _ _ _ ok step => (ok.step step).1
  have ok : Ok leak s := run.keeps (Ok leak) (.init leak) stays
  refine ⟨by rw [ok.backlog, List.append_nil, ok.entered], ?_⟩
  exact run.iff_all (Ok leak) (fun s e => s.Free e) (Spaced leak)
    (.init leak) stays List.isChain_nil fun _ _ _ before step => (before.step step).2

def slow : Leak := ⟨8, 0⟩

def tenTokens (reqId : ℕ) : BucketItem := ⟨{ hdr := { msgType := .request, reqId } }, 10⟩

/-- The second message is added when the first one's time is over. -/
theorem spaced_late : ∃ s : LeakyBucket, s.departed = [(0, tenTokens 0), (10, tenTokens 1)] ∧ s.Spaced slow := by
  have late : (Lib.Run.exec (move slow) {} [.add 0 (tenTokens 0), .add 10 (tenTokens 1)]).any
      (fun out => out.2.departed = [(0, tenTokens 0), (10, tenTokens 1)] ∧ ∀ x ∈ out.1, x.1.Free x.2) = true := by
    decide +kernel
  obtain ⟨⟨trace, s⟩, run, met⟩ := (Option.any_eq_true _ _).mp late
  obtain ⟨departed, free⟩ := of_decide_eq_true met
  exact ⟨s, departed, (spaced_iff (Lib.Run.of_exec (move_step slow) run)).2.mpr free⟩

/-- The second message is added a second behind the first one, and leaves at once. -/
theorem added_early : ∃ (trace : List (LeakyBucket × Event)) (s : LeakyBucket), Lib.Run (Step slow) {} trace s ∧
    s.departed = [(0, tenTokens 0), (1, tenTokens 1)] ∧ slow.seconds 10 = 10 ∧ ¬ s.Spaced slow := by
  have early : (Lib.Run.exec (move slow) {} [.add 0 (tenTokens 0), .add 1 (tenTokens 1)]).any
      (fun out => out.2.departed = [(0, tenTokens 0), (1, tenTokens 1)]) = true := by
    decide +kernel
  obtain ⟨⟨trace, s⟩, run, departed⟩ := (Option.any_eq_true _ _).mp early
  have left : s.departed = [(0, tenTokens 0), (1, tenTokens 1)] := of_decide_eq_true departed
  refine ⟨trace, s, Lib.Run.of_exec (move_step slow) run, left, by decide +kernel, fun spaced => ?_⟩
  rw [Spaced, left] at spaced
  exact absurd (List.isChain_cons_cons.mp spaced).1 (by decide +kernel)

end LeakyBucket

end PhantomPass.Baseline
