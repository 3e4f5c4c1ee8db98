import Mathlib
import PhantomPass.Lib.Runs
import PhantomPass.Lib.TokenBucket
import PhantomPass.Truncation
import PhantomPass.Xpass.Headers

/-! XPassDropTail, the queue that throttles credits by a token bucket. Contrary to
the comment on its deque, a credit for which there are tokens goes before data. -/

set_option autoImplicit false

namespace PhantomPass.Xpass

open Lib (TokenBucket)

structure XPassDropTail where
  creditQLimit : ℤ
  dataQLimit : ℤ
  maxTokens : ℤ
  tokenRefreshRate : ℚ

namespace XPassDropTail

/-- The two queues, the bucket, when the credit timer is due, and whether the link
is busy. What entered, was dropped and left is kept beside the state. -/
structure State where
  dataQ : List Packet := []
  creditQ : List Packet := []
  tokens : ℤ := 0
  tokenBucketClock : Time := 0
  creditTimer : Option Time := none
  blocked : Bool := false
  now : Time := 0
  entered : List Packet := []
  dropped : List Packet := []
  left : List (Time × Packet) := []
  deriving DecidableEq

/-- byteLength of a PacketQueue. -/
def byteLength (q : List Packet) : ℤ := (q.map fun p => (p.size : ℤ)).sum

def isCredit (p : Packet) : Bool := p.ptype == .credit

variable (c : XPassDropTail) (s : State)

def newTokens : ℤ := truncInt (min (s.now - s.tokenBucketClock) 0.1 * c.tokenRefreshRate)

def updateTokenBucket : State :=
  if s.now - s.tokenBucketClock ≤ 0 then s
  else
    { s with
      tokens := min (s.tokens + c.newTokens s) c.maxTokens
      -- the clock moves by what whole tokens stand for
      tokenBucketClock := s.tokenBucketClock + c.newTokens s / c.tokenRefreshRate }

def enque (p : Packet) : Checked State :=
  if p.ptype = .credit then
    -- credits may be dropped, data may not
    if c.creditQLimit < byteLength (s.creditQ ++ [p]) then return { s with dropped := s.dropped ++ [p] }
    else return { s with creditQ := s.creditQ ++ [p], entered := s.entered ++ [p] }
  else do
    assert "XPassDropTail::enque" "0" (byteLength (s.dataQ ++ [p]) ≤ c.dataQLimit)
    return { s with dataQ := s.dataQ ++ [p], entered := s.entered ++ [p] }

/-- Behind the check of the credit queue: the next data packet, or the timer for
the credit that waits. -/
def dequeData : Checked (Option Packet × State) :=
  match s.dataQ with
  | p :: rest => return (some p, { s with dataQ := rest })
  | [] =>
    match s.creditQ with
    | p :: _ => return (none, { s with creditTimer := some (s.now + (p.size - s.tokens : ℤ) / c.tokenRefreshRate) })
    | [] =>
      if 0 < byteLength s.creditQ ∧ 0 < byteLength s.dataQ then
        throw (.exited "XPassDropTail::deque" "Switch has non-zero queue, but timer was not set.")
      else return (none, s)

def deque : Checked (Option Packet × State) :=
  let s := c.updateTokenBucket { s with creditTimer := none }
  match s.creditQ with
  | p :: rest =>
    -- an affordable credit goes before data
    if p.size ≤ s.tokens then return (some p, { s with creditQ := rest, tokens := s.tokens - p.size })
      else c.dequeData s
  | [] => c.dequeData s

/-- The part of Queue::recv and of expire: what leaves blocks the queue. -/
def sendNext : Checked State := do
  let (packet, s) ← c.deque s
  match packet with
  | some p => return { s with blocked := true, left := s.left ++ [(s.now, p)] }
  | none => return s

/-- Queue::recv. -/
def recv (p : Packet) : Checked State := do
  let s ← c.enque s p
  if s.blocked then return s else c.sendNext s

/-- Queue::resume, with unblock_on_resume_ set as it is by default. -/
def resume : Checked State := do
  let (packet, s) ← c.deque s
  match packet with
  | some p => return { s with left := s.left ++ [(s.now, p)] }
  | none => return { s with blocked := false }

def expire : Checked State := if s.blocked then return s else c.sendNext s

/-- A packet comes, the link has sent what it took, or the credit timer expires. -/
inductive Event
  | recv (now : Time) (p : Packet)
  | resume (now : Time)
  | expire

def Event.time : Event → Option Time
  | .recv now _ => some now
  | .resume now => if s.blocked then some now else none
  | .expire => s.creditTimer

def fire (now : Time) : Event → Checked State
  | .recv _ p => c.recv { s with now } p
  | .resume _ => c.resume { s with now }
  | .expire => c.expire { s with now, creditTimer := none }

def State.Due (s : State) (now : Time) : Prop := s.now ≤ now ∧ ∀ due ∈ s.creditTimer, now ≤ due

instance (now : Time) : Decidable (s.Due now) := inferInstanceAs (Decidable (_ ∧ _))

def Step (s : State) (e : Event) (t : State) : Prop := ∃ now, e.time s = some now ∧ s.Due now ∧ c.fire s now e = .ok t

def move (s : State) (e : Event) : Option State :=
  (e.time s).bind fun now => if s.Due now then (c.fire s now e).toOption else none

theorem move_step (s : State) (e : Event) (t : State) (moves : move c s e = some t) : Step c s e t := by
  obtain ⟨now, time, moves⟩ := Option.bind_eq_some_iff.mp moves
  split at moves
  · next due => exact ⟨now, time, due, Lib.toOption_eq_some.mp moves⟩
  · cases moves

def Event.Deques : Event → Prop
  | .recv _ _ => s.blocked = false
  | .resume _ => True
  | .expire => s.blocked = false

/-- The bucket is looked at before its clock is a tenth of a second behind. -/
def Prompt (e : Event) : Prop := e.Deques s → ∀ now ∈ e.time s, now - s.tokenBucketClock ≤ 0.1

def State.creditsSince (s : State) (start : Time) : ℤ :=
  ((s.left.filter fun x => isCredit x.2 ∧ start ≤ x.1).map fun x => (x.2.size : ℤ)).sum

def rules : TokenBucket.Rules ℚ := ⟨c.tokenRefreshRate, c.maxTokens⟩

/-- The queue as a bucket, which has spent the credits since a time. -/
def State.bucket (s : State) (start : Time) : TokenBucket ℚ :=
    ⟨s.tokens, s.tokenBucketClock, s.now, s.creditsSince start⟩

/-- What holds at any time: the clock is not ahead, the bucket is neither in debt
nor over full, and each queue holds what is left of its own packets, in their order. -/
structure Ok : Prop where
  clock : s.tokenBucketClock ≤ s.now
  tokens_nonneg : 0 ≤ s.tokens
  tokens_le : s.tokens ≤ c.maxTokens
  credits : s.entered.filter isCredit = (s.left.map Prod.snd).filter isCredit ++ s.creditQ
  data : s.entered.filter (!isCredit ·) = (s.left.map Prod.snd).filter (!isCredit ·) ++ s.dataQ
  limit : s.creditQ = [] ∨ byteLength s.creditQ ≤ c.creditQLimit
  times : ∀ x ∈ s.left, x.1 ≤ s.now

def Affords (p : Packet) (due : Time) : Prop := s.tokenBucketClock + (p.size - s.tokens : ℤ) / c.tokenRefreshRate ≤ due

/-- Between events the credit timer runs exactly if the link is free and a credit
waits for tokens; a free link leaves no data waiting. -/
inductive Settled : Prop
  | busy : s.blocked = true → s.creditTimer = none → Settled
  | empty : s.blocked = false → s.dataQ = [] → s.creditQ = [] → s.creditTimer = none → Settled
  | waits (p : Packet) (rest : List Packet) (due : Time) : s.blocked = false → s.dataQ = [] → s.creditQ = p :: rest →
      s.creditTimer = some due → s.now ≤ due → due ≤ s.now + p.size / c.tokenRefreshRate → Affords c s p due → Settled

end XPassDropTail

end PhantomPass.Xpass
