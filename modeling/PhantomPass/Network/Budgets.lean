import PhantomPass.Network.Links

/-! The budget of a receiver never grows beyond what it started with: GRANTs take
from it, and data that brings back too much stops the run. -/

set_option autoImplicit false

namespace PhantomPass

open Lib (RoundRobin Store)

namespace RecvSide

variable {r r' : RecvSide}

theorem Steps.lent_le (steps : Steps r r') : r.lent ≤ r'.lent := by
  induction steps with
  | refl => exact le_refl _
  | tail _ last ih =>
    refine ih.trans ?_
    cases last with
    | grant id now p => exact le_add_of_nonneg_right (Int.natCast_nonneg _)
    | retire id => exact le_refl _

end RecvSide

namespace Host

variable {env : Env} {h h' : Host} {p : Packet} {id : UniqReqId} {now : Time} {stamp : Stamp}

def Budgeted (cfg : Config) (h : Host) : Prop := h.rcv.budgetBytes ≤ cfg.budgetBytes

theorem Budgeted.steps {cfg : Config} (budgeted : h.Budgeted cfg)
    (steps : RecvSide.Steps (h.recvSide cfg) (h'.recvSide cfg)) :
    h'.Budgeted cfg := by
  have lent : cfg.budgetBytes - h.rcv.budgetBytes ≤ cfg.budgetBytes - h'.rcv.budgetBytes := steps.lent_le
  unfold Budgeted at *
  omega

theorem removeInbound_budget {rcv rcv' : Receiver} (run : rcv.removeInbound id = .ok rcv') :
    rcv'.budgetBytes = rcv.budgetBytes := by
  unfold Receiver.removeInbound at run
  split at run
  · cases run
  · cases run
    rfl

theorem receivedData_budget (run : h.receivedData env p id = .ok h') : h'.Budgeted env.cfg := by
  unfold receivedData assert at run
  simp only [Lib.bind_eq_ok, Lib.require_eq_ok, exists_and_left, exists_const] at run
  obtain ⟨-, run⟩ := run
  split at run
  · cases run
  · simp only [Lib.bind_eq_ok, Lib.require_eq_ok, exists_and_left, exists_const] at run
    obtain ⟨-, -, within, -, run⟩ := run
    split at run
    · simp only [Lib.bind_eq_ok, Lib.pure_eq_ok] at run
      obtain ⟨-, -, rcv, removed, rfl⟩ := run
      exact (removeInbound_budget removed).trans_le within
    · rw [Lib.pure_eq_ok] at run
      subst run
      exact within

theorem r2p2Recv_budget (budgeted : h.Budgeted env.cfg) (run : h.r2p2Recv env p = .ok h') : h'.Budgeted env.cfg := by
  obtain ⟨rpc, -, rfl⟩ := r2p2Recv_eq run
  exact budgeted

theorem budget_note (r : Receiver) (p : Packet) : (r.note p).budgetBytes ≤ r.budgetBytes := by
  unfold Receiver.note
  dsimp only
  split
  · next unsol =>
    change r.budgetBytes - p.hdr.unsolCredit ≤ r.budgetBytes
    omega
  · exact le_refl _

theorem dispatch_budget (budgeted : h.Budgeted env.cfg) (run : h.dispatch env p = .ok h') : h'.Budgeted env.cfg := by
  rw [dispatch_eq] at run
  unfold assert at run
  split at run
  · simp only [Lib.bind_eq_ok] at run
    obtain ⟨-, -, handled⟩ := run
    exact r2p2Recv_budget budgeted handled
  · split at run
    · simp only [Lib.bind_eq_ok, Lib.pure_eq_ok] at run
      obtain ⟨-, -, -, -, snd, -, rfl⟩ := run
      exact budgeted
    · simp only [Lib.bind_eq_ok] at run
      obtain ⟨h1, found, run⟩ := run
      have added := findOrAddInbound_eq found
      split at run
      · simp only [Lib.bind_eq_ok] at run
        obtain ⟨h2, informed, run⟩ := run
        split at run
        · -- a credit request only takes from the budget
          simp only [Lib.bind_eq_ok, Lib.pure_eq_ok] at run
          obtain ⟨-, -, rfl⟩ := run
          have before : h1.rcv.budgetBytes = h.rcv.budgetBytes := by
            rw [added]
            unfold Receiver.findOrAdd
            split <;> rfl
          obtain ⟨rfl, -⟩ := noteMsgInfo_eq informed
          exact (budget_note h1.rcv p).trans (before.trans_le budgeted)
        · simp only [Lib.bind_eq_ok] at run
          obtain ⟨-, -, h3, taken, handled⟩ := run
          exact r2p2Recv_budget (receivedData_budget taken) handled
      · simp only [Lib.bind_eq_ok] at run
        obtain ⟨-, -, -, -, h2, taken, handled⟩ := run
        exact r2p2Recv_budget (receivedData_budget taken) handled

theorem recv_budget (ok : HostOk env.cfg h) (budgeted : h.Budgeted env.cfg) (run : h.recv env now p stamp = .ok h') :
    h'.Budgeted env.cfg := by
  unfold recv at run
  simp only [Lib.bind_eq_ok] at run
  obtain ⟨-, -, h1, started, -, -, -, -, h2, updated, dispatched⟩ := run
  have polled : h1.Budgeted env.cfg := budgeted.steps (startPolling_ok ok.halves started).recv
  unfold updateSenderState at updated
  simp only [Lib.bind_eq_ok, Lib.pure_eq_ok] at updated
  obtain ⟨st, -, met⟩ := updated
  have meets : (h2.updateReceiverState p).Budgeted env.cfg := by
    rw [← met]
    exact polled
  exact dispatch_budget meets dispatched

end Host

namespace Net

variable {env : Env} {net net' : Net} {e : Event} {cond : Net → Event → Prop}

theorem budgets_act {cfg : Config} {addr : Addr} {flight : List Packet} {h : Host}
    (budgets : ∀ a, (net.host a).Budgeted cfg) (here : h.Budgeted cfg) :
    ∀ a, ((net.act addr flight h).host a).Budgeted cfg := by
  intro a
  rw [host_act]
  split
  · exact here
  · exact budgets a

theorem budgets_fire (ok : NetOk env.cfg net) (enabled : net.Enabled env e) (run : net.fire env e = .ok net')
    (budgets : ∀ a, (net.host a).Budgeted env.cfg) : ∀ a, (net'.host a).Budgeted env.cfg := by
  cases fire_cases ok enabled run with
  | tick seconds => exact budgets
  | request client server clThread srThread appLevelId n tuple h1 polls =>
    exact budgets_act budgets (Host.Budgeted.steps (budgets client) polls.recv)
  | reply server thread n tuple rest st h1 polls =>
    exact budgets_act budgets (Host.Budgeted.steps (budgets server) polls.recv)
  | poll addr h polls => exact budgets_act budgets ((budgets addr).steps polls.recv)
  | deliver p stamp h1 h received =>
    exact budgets_act budgets (Host.recv_budget (ok.host p.dst) (budgets p.dst) received)
  | collect addr => exact budgets_act budgets (budgets addr)

theorem Reach.budgets (reach : Reach env cond net) : ∀ a, (net.host a).Budgeted env.cfg := by
  induction reach with
  | init => exact fun a => le_refl _
  | step before enabled _ run ih => exact budgets_fire before.ok enabled run ih

end Net

end PhantomPass
