import PhantomPass.Lib.Runs
import PhantomPass.Xpass.Flow

/-! Two XPassAgents and what is on its way between them, in both directions. The data
queues of the switches lose nothing and keep the order; the credit queues may drop. -/

set_option autoImplicit false

namespace PhantomPass.Xpass

abbrev Side := Bool

/-- The two agents, what is on its way to each, and the time. What each was handed, got
of data and gave to its application is kept beside the state. -/
structure Net where
  agent : Side → XPassAgent := fun _ => {}
  toward : Side → List Packet := fun _ => []
  credits : Side → List Packet := fun _ => []
  now : Time := 0
  handed : Side → List Message := fun _ => []
  delivered : Side → List Packet := fun _ => []
  taken : Side → List (ℤ × RequestIdTuple) := fun _ => []

/-- What an application hands down, a packet or a credit that arrives, a credit that is
dropped, or a timer that expires. -/
inductive Event
  | advanceBytes (side : Side) (nb : ℤ)
  | advanceMsg (side : Side) (nb : ℤ) (reqId : RequestIdTuple)
  | deliver (side : Side) (draw : Draw)
  | deliverCredit (side : Side)
  | lose (side : Side) (i : ℕ)
  | sendCredit (side : Side) (draw : Draw)
  | creditStop (side : Side)
  | senderRetransmit (side : Side)
  | receiverRetransmit (side : Side)
  | fct (side : Side)
  | wait (now : Time)

namespace XPassAgent

def timers (a : XPassAgent) : List Time :=
  a.sendCreditTimer.toList ++ a.creditStopTimer.toList ++ a.senderRetransmitTimer.toList ++
    a.receiverRetransmitTimer.toList ++ a.fctTimer.toList

end XPassAgent

namespace Net

variable (x : Params) (net : Net)

/-- An application hands down only while the connection is closed. A timer without
delay expires before the next credit arrives, and no timer is passed over. -/
def Enabled : Event → Prop
  | .advanceBytes side nb => (net.agent side).creditRecvState = .closed ∧ 0 < nb
  | .advanceMsg side nb reqId => (net.agent side).creditRecvState = .closed ∧ 0 < nb ∧ 0 < reqId.ts
  | .deliver side _ => net.toward side ≠ []
  | .deliverCredit side => net.credits side ≠ [] ∧ (net.agent side).creditStopTimer = none
  | .lose side i => i < (net.credits side).length
  | .sendCredit side _ => ∃ due ∈ (net.agent side).sendCreditTimer, due ≤ net.now
  | .creditStop side => ∃ due ∈ (net.agent side).creditStopTimer, due ≤ net.now
  | .senderRetransmit side => ∃ due ∈ (net.agent side).senderRetransmitTimer, due ≤ net.now
  | .receiverRetransmit side => ∃ due ∈ (net.agent side).receiverRetransmitTimer, due ≤ net.now
  | .fct side => ∃ due ∈ (net.agent side).fctTimer, due ≤ net.now
  | .wait now => net.now ≤ now ∧ ∀ side, ∀ due ∈ (net.agent side).timers, now ≤ due

/-- What a call leaves goes to the other side, and to the application. -/
def absorb (side : Side) (out : Outcome) : Net :=
  { net with
    agent := Function.update net.agent side out.agent
    toward := Function.update net.toward (!side)
      (net.toward (!side) ++ out.sent.toList.filter fun p => p.ptype ≠ .credit)
    credits := Function.update net.credits (!side)
      (net.credits (!side) ++ out.sent.toList.filter fun p => p.ptype = .credit)
    taken := Function.update net.taken side (net.taken side ++ out.taken.toList) }

def handDown (side : Side) (m : Message) : Net :=
  { net with handed := Function.update net.handed side (net.handed side ++ [m]) }

def pop (side : Side) (p : Packet) (rest : List Packet) : Net :=
  { net with
    toward := Function.update net.toward side rest
    delivered :=
      if p.ptype = .data then Function.update net.delivered side (net.delivered side ++ [p]) else net.delivered }

def popCredit (side : Side) (rest : List Packet) : Net := { net with credits := Function.update net.credits side rest }

def fire : Event → Checked Net
  | .advanceBytes side nb => do
    let out ← (net.agent side).advanceBytes x net.now nb
    return (net.handDown side ⟨nb, out.agent.curReqIdTup⟩).absorb side out
  | .advanceMsg side nb reqId => do
    let out ← (net.agent side).advanceMsg x net.now nb reqId
    return (net.handDown side ⟨nb, out.agent.curReqIdTup⟩).absorb side out
  | .deliver side draw =>
    match net.toward side with
    | [] => return net
    | p :: rest => do
      let out ← (net.agent side).recv x net.now draw p
      return (net.pop side p rest).absorb side out
  | .deliverCredit side =>
    match net.credits side with
    | [] => return net
    | credit :: rest => do
      -- a credit draws no random numbers on arrival
      let out ← (net.agent side).recv x net.now {} credit
      return (net.popCredit side rest).absorb side out
  | .lose side i => return net.popCredit side ((net.credits side).eraseIdx i)
  | .sendCredit side draw => do
    let out ← { net.agent side with sendCreditTimer := none }.sendCredit x net.now draw
    return net.absorb side out
  | .creditStop side =>
    return net.absorb side ({ net.agent side with creditStopTimer := none }.sendCreditStop x net.now)
  | .senderRetransmit side => do
    let out ← { net.agent side with senderRetransmitTimer := none }.handleSenderRetransmit x net.now
    return net.absorb side out
  | .receiverRetransmit side => do
    let out ← XPassAgent.handleReceiverRetransmit
    return net.absorb side out
  | .fct side => return net.absorb side { agent := { net.agent side with fctTimer := none }.handleFct }
  | .wait now => return { net with now }

def Step (net : Net) (e : Event) (net' : Net) : Prop := net.Enabled e ∧ net.fire x e = .ok net'

instance (net : Net) : (e : Event) → Decidable (net.Enabled e)
  | .advanceBytes _ _ => inferInstanceAs (Decidable (_ ∧ _))
  | .advanceMsg _ _ _ => inferInstanceAs (Decidable (_ ∧ _ ∧ _))
  | .deliver _ _ => inferInstanceAs (Decidable (_ ≠ _))
  | .deliverCredit _ => inferInstanceAs (Decidable (_ ≠ _ ∧ _ = _))
  | .lose _ _ => inferInstanceAs (Decidable (_ < _))
  | .sendCredit side _ => inferInstanceAs (Decidable (∃ due ∈ (net.agent side).sendCreditTimer, due ≤ net.now))
  | .creditStop side => inferInstanceAs (Decidable (∃ due ∈ (net.agent side).creditStopTimer, due ≤ net.now))
  | .senderRetransmit side => inferInstanceAs (Decidable (∃ due ∈ (net.agent side).senderRetransmitTimer,
    due ≤ net.now))
  | .receiverRetransmit side =>
    inferInstanceAs (Decidable (∃ due ∈ (net.agent side).receiverRetransmitTimer, due ≤ net.now))
  | .fct side => inferInstanceAs (Decidable (∃ due ∈ (net.agent side).fctTimer, due ≤ net.now))
  | .wait now => inferInstanceAs (Decidable (net.now ≤ now ∧ ∀ side, ∀ due ∈ (net.agent side).timers, now ≤ due))

def move (net : Net) (e : Event) : Option Net := if net.Enabled e then (net.fire x e).toOption else none

theorem move_step (net : Net) (e : Event) (net' : Net) (moves : move x net e = some net') : Step x net e net' := by
  unfold move at moves
  split at moves
  · next enabled => exact ⟨enabled, Lib.toOption_eq_some.mp moves⟩
  · cases moves

def flow (side : Side) : Flow :=
  .between (net.agent side) (net.agent (!side)) (net.toward (!side)) (net.credits side) (net.handed side)
    (net.delivered (!side))

end Net

end PhantomPass.Xpass
