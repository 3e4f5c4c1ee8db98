import PhantomPass.Congestion.Windows
import PhantomPass.Network.Links

/-! The sender states that hosts keep are those that sequences of packets lead
to: what holds of these holds at every host of every run. -/

set_option autoImplicit false

namespace PhantomPass

open Lib (Store)

namespace SenderState

variable {cfg : Config} {cond : SenderState → Packet → Stamp → Prop} {st st' : SenderState}

theorem Reach.congr (reach : Reach cfg cond st) (windows : { st' with srpbBytes := 0 } = { st with srpbBytes := 0 }) :
    Reach cfg cond st' := by
  have same : st' = { st with srpbBytes := st'.srpbBytes } := by
    cases st
    cases st'
    simp_all
  rw [same]
  exact reach.credit _

end SenderState

namespace Receiver

variable (r : Receiver) (p : Packet)

def Recredits (r r' : Receiver) : Prop :=
  r'.senderState.keys = r.senderState.keys ∧
    ∀ addr, { r'.sender addr with srpbBytes := 0 } = { r.sender addr with srpbBytes := 0 }

variable {r} {r' r'' : Receiver}

theorem Recredits.trans (first : Recredits r r') (second : Recredits r' r'') : Recredits r r'' :=
  ⟨second.1.trans first.1, fun addr => (second.2 addr).trans (first.2 addr)⟩

theorem Recredits.of_eq (same : r'.senderState = r.senderState) : Recredits r r' := by
  unfold Recredits sender
  rw [same]
  exact ⟨rfl, fun _ => rfl⟩

theorem recredits_modifySender (addr : Addr) {change : SenderState → SenderState}
    (same : ∀ st, { change st with srpbBytes := 0 } = { st with srpbBytes := 0 }) : Recredits r
    (r.modifySender addr change) := by
  refine ⟨rfl, fun other => ?_⟩
  rw [sender_modifySender]
  split
  · next here => rw [here, same]
  · rfl

theorem recredits_takeIn : Recredits r (r.takeIn p) := by
  have added : Recredits r (r.findOrAdd p) := .of_eq (by unfold findOrAdd; split <;> rfl)
  have noted : Recredits (r.findOrAdd p) ((r.findOrAdd p).noteFirst p) := by
    unfold noteFirst note
    split
    · dsimp only
      split
      · exact .trans (.of_eq rfl) (recredits_modifySender _ fun st => rfl)
      · exact .of_eq rfl
    · exact .of_eq rfl
  unfold takeIn
  split
  · exact (added.trans noted).trans (recredits_modifySender _ fun st => rfl)
  · exact added.trans noted

def Senders (cfg : Config) (r : Receiver) : Prop :=
  ∀ addr ∈ r.senderState.keys, SenderState.Reach cfg SenderState.anyPacket (r.sender addr)

theorem Senders.recredits {cfg : Config} (senders : Senders cfg r) (recredits : Recredits r r') : Senders cfg r' := by
  intro addr inside
  rw [recredits.1] at inside
  exact (senders addr inside).congr (recredits.2 addr)

end Receiver

namespace Host

variable {env : Env} {h h' : Host} {p : Packet} {now : Time} {stamp : Stamp}

theorem Polls.senderStates {cfg : Config} (polls : Polls cfg h h') (senders : h.rcv.Senders cfg) : h'.rcv.Senders cfg :=
  senders.recredits ⟨polls.senders, fun addr => congrFun polls.windows addr⟩

theorem senders_of (senders : h.rcv.Senders env.cfg) (addr : Addr) :
    SenderState.Reach env.cfg SenderState.anyPacket (h.senderOf env addr) := by
  unfold senderOf
  cases found : h.rcv.senderState.find addr with
  | none => exact .new addr
  | some st =>
    obtain ⟨inside, rfl⟩ := Store.find_eq_some.mp found
    exact senders addr inside

theorem senders_meets {st : SenderState} (senders : h.rcv.Senders env.cfg)
    (updated : (h.senderOf env p.src).update env.cfg p stamp = .ok st) : (h.meets p st).rcv.Senders env.cfg := by
  intro addr inside
  change SenderState.Reach _ _ ((h.rcv.senderState.insert p.src st).get addr)
  rw [Store.get_insert]
  split
  · exact (senders_of senders p.src).update trivial updated
  · next other =>
    rcases (Store.mem_keys_insert ..).mp inside with old | new
    · exact senders addr old
    · exact absurd new other

theorem senders_recv (ok : HostOk env.cfg h) (senders : h.rcv.Senders env.cfg) (run : h.recv env now p stamp = .ok h') :
    h'.rcv.Senders env.cfg := by
  obtain ⟨h1, st, started, updated, dispatched⟩ := recv_cases run
  have polls := startPolling_ok ok.halves started
  have met := senders_meets (polls.senderStates senders) updated
  cases dispatched with
  | reply rpc => exact met.recredits (.of_eq rfl)
  | credit snd => exact met.recredits (.of_eq rfl)
  | part rpc rcv _ _ _ _ retired =>
    refine met.recredits (Receiver.Recredits.trans (Receiver.recredits_takeIn p) ?_)
    rcases retired with rfl | ⟨-, removed⟩
    · exact .of_eq rfl
    · unfold Receiver.removeInbound at removed
      split at removed
      · cases removed
      · cases removed
        exact .of_eq rfl

end Host

namespace Net

variable {env : Env} {net net' : Net} {e : Event} {cond : Net → Event → Prop}

theorem senders_act {cfg : Config} {addr : Addr} {flight : List Packet} {h : Host}
    (senders : ∀ a, (net.host a).rcv.Senders cfg) (here : h.rcv.Senders cfg) :
    ∀ a, ((net.act addr flight h).host a).rcv.Senders cfg := by
  intro a
  rw [host_act]
  split
  · exact here
  · exact senders a

theorem senders_fire (ok : NetOk env.cfg net) (enabled : net.Enabled env e) (run : net.fire env e = .ok net')
    (senders : ∀ a, (net.host a).rcv.Senders env.cfg) : ∀ a, (net'.host a).rcv.Senders env.cfg := by
  cases fire_cases ok enabled run with
  | tick seconds => exact senders
  | request client server clThread srThread appLevelId n tuple h1 polls =>
    exact senders_act senders (polls.senderStates (senders client))
  | reply server thread n tuple rest st h1 polls => exact senders_act senders (polls.senderStates (senders server))
  | poll addr h polls => exact senders_act senders (polls.senderStates (senders addr))
  | deliver p stamp h1 h received =>
    exact senders_act senders (Host.senders_recv (ok.host p.dst) (senders p.dst) received)
  | collect addr => exact senders_act senders (senders addr)

theorem Reach.senders (reach : Reach env cond net) : ∀ a, (net.host a).rcv.Senders env.cfg := by
  -- a sender is known from the first packet that came from it
  induction reach with
  | init => exact fun a addr inside => absurd inside List.not_mem_nil
  | step before enabled _ run ih => exact senders_fire before.ok enabled run ih

end Net

end PhantomPass
