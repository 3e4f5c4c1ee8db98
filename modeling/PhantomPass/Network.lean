import Mathlib
import PhantomPass.Hybrid.Host

/-! Hosts and the packets between them. The network neither loses nor duplicates
packets and delivers them in any order; polls and applications act at any time. -/

set_option autoImplicit false

namespace PhantomPass

structure Net where
  clock : Time
  host : Addr → Host
  flight : List Packet

inductive Event
  | tick (seconds : ℚ)
  /-- an application thread sends a request of n bytes -/
  | request (client server : Addr) (clThread srThread appLevelId : ℤ) (n : ℕ)
  /-- a server thread answers its oldest pending request with n bytes -/
  | reply (server : Addr) (thread : ℤ) (n : ℕ)
  | poll (addr : Addr)
  | deliver (p : Packet) (stamp : Stamp)
  | collect (addr : Addr)
  deriving DecidableEq

def Event.place : Event → Option Addr
  | .tick _ => none
  | .request client _ _ _ _ _ => some client
  | .reply server _ _ => some server
  | .poll addr => some addr
  | .deliver p _ => some p.dst
  | .collect addr => some addr

namespace Net

def simStart : Time := 10

def init (cfg : Config) : Net := ⟨simStart, Host.init cfg, []⟩

/-- What can happen next. The poll timer runs once polling has started. -/
def Enabled (env : Env) (net : Net) : Event → Prop
  | .tick seconds => 0 ≤ seconds
  | .request client server clThread srThread _ n =>
    client ≠ server ∧ env.cfg.attached client clThread = true ∧ env.cfg.attached server srThread = true ∧ 1 ≤ n
  | .reply server thread n => (net.host server).rpc.pendingTasks thread ≠ [] ∧ 1 ≤ n
  | .poll addr => (net.host addr).pollStarted = true
  | .deliver p _ => p ∈ net.flight
  | .collect _ => True

instance (env : Env) (net : Net) (e : Event) : Decidable (net.Enabled env e) := by
  cases e <;> unfold Enabled <;> infer_instance

def act (net : Net) (addr : Addr) (flight : List Packet) (h : Host) : Net :=
  { net with
    host := Function.update net.host addr h
    -- what the host has sent in this step
    flight := flight ++ h.sent.drop (net.host addr).sent.length }

theorem host_act (net : Net) (addr other : Addr) (flight : List Packet) (h : Host) :
    (net.act addr flight h).host other = if other = addr then h else net.host other := by
  unfold act
  dsimp only
  rw [Function.update_apply]

def fire (env : Env) (net : Net) : Event → Checked Net
  | .tick seconds => return { net with clock := net.clock + seconds }
  | .request client server clThread srThread appLevelId n => do
    let tuple : RequestIdTuple := {
      reqId := 0, appLevelId, clAddr := client, srAddr := server, clThreadId := clThread, srThreadId := srThread
      ts := net.clock }
    let h ← (net.host client).sendReq env net.clock n tuple
    return net.act client net.flight h
  | .reply server thread n => do
    let h ← (net.host server).appSendResponse env net.clock thread n
    return net.act server net.flight h
  | .poll addr => do
    let h ← (net.host addr).poll env net.clock
    return net.act addr net.flight h
  | .deliver p stamp => do
    let h ← (net.host p.dst).recv env net.clock p stamp
    return net.act p.dst (net.flight.erase p) h
  | .collect addr =>
    let h := net.host addr
    return net.act addr net.flight { h with rpc := h.rpc.garbageCollectState }

/-- The states reached by runs whose steps all satisfy a condition. -/
inductive Reach (env : Env) (cond : Net → Event → Prop) : Net → Prop
  | init : Reach env cond (init env.cfg)
  | step {net net' : Net} {e : Event} : Reach env cond net → net.Enabled env e → cond net e →
      net.fire env e = .ok net' → Reach env cond net'

def Reachable (env : Env) : Net → Prop := Reach env fun _ _ => True

def Step (env : Env) (net net' : Net) : Prop := ∃ e, net.Enabled env e ∧ net.fire env e = .ok net'

def Steps (env : Env) : Net → Net → Prop := Relation.ReflTransGen (Step env)

/-- The state after a schedule, whose events may look at the state they happen
in, when each is enabled and none stops the run. -/
def run (env : Env) : Net → List (Net → Event) → Option Net
  | net, [] => some net
  | net, e :: rest =>
    if net.Enabled env (e net) then
      match net.fire env (e net) with
      | .ok net' => run env net' rest
      | .error _ => none
    else none

theorem Reach.run {env : Env} {cond : Net → Event → Prop} {net net' : Net} {events : List (Net → Event)}
    (reach : Reach env cond net) (allowed : ∀ e ∈ events, ∀ net, cond net (e net))
    (run : net.run env events = some net') : Reach env cond net' := by
  induction events generalizing net with
  | nil => cases run; exact reach
  | cons e rest ih =>
    obtain ⟨first, others⟩ := List.forall_mem_cons.mp allowed
    unfold Net.run at run
    split at run
    · next enabled =>
      split at run
      · next fired => exact ih (reach.step enabled (first net) fired) others run
      · cases run
    · cases run

theorem Steps.run {env : Env} {net net' : Net} {events : List (Net → Event)} (run : net.run env events = some net') :
    Steps env net net' := by
  induction events generalizing net with
  | nil => cases run; exact .refl
  | cons e rest ih =>
    unfold Net.run at run
    split at run
    · next enabled =>
      split at run
      · next fired => exact .head ⟨e net, enabled, fired⟩ (ih run)
      · cases run
    · cases run

theorem host_of_fire {env : Env} {net net' : Net} {e : Event} {a : Addr} (run : net.fire env e = .ok net')
    (apart : e.place ≠ some a) : net'.host a = net.host a := by
  cases e with
  | tick seconds =>
    cases run
    rfl
  | collect addr =>
    cases run
    rw [host_act, if_neg fun same => apart (congrArg some same.symm)]
  | request | reply | poll | deliver =>
    unfold Net.fire at run
    simp only [Lib.bind_eq_ok, Lib.pure_eq_ok] at run
    obtain ⟨h, -, rfl⟩ := run
    rw [host_act, if_neg fun same => apart (congrArg some same.symm)]

theorem host_of_run {env : Env} {net net' : Net} {events : List (Net → Event)} {a : Addr}
    (run : net.run env events = some net') (apart : ∀ e ∈ events, ∀ net, (e net).place ≠ some a) :
    net'.host a = net.host a := by
  induction events generalizing net with
  | nil => cases run; rfl
  | cons e rest ih =>
    obtain ⟨first, others⟩ := List.forall_mem_cons.mp apart
    unfold Net.run at run
    split at run
    · split at run
      · next fired => exact (ih run others).trans (host_of_fire fired (first net))
      · cases run
    · cases run

end Net

end PhantomPass
