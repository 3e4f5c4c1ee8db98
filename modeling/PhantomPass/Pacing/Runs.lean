import PhantomPass.Deployment
import PhantomPass.Pacing.Host
import PhantomPass.Refinement.Arrival
import PhantomPass.Refinement.Submission

/-! How much credit and data a host sends in any window of a run: what its
pacers drain in that time, and what a backlog may still hold. -/

set_option autoImplicit false

namespace PhantomPass

open Lib (Pacer)

namespace Host

variable {env : Env} {h h' : Host} {now : Time} {p : Packet} {stamp : Stamp}

theorem Dispatched.quiet (dispatched : Dispatched env p h h') : Quiet h h' := by
  cases dispatched with
  | reply rpc => exact ⟨rfl, rfl, rfl, rfl, rfl, rfl, rfl⟩
  | credit snd => exact snd_quiet h snd
  | part rpc rcv => exact ⟨rfl, rfl, rfl, rfl, rfl, rfl, rfl⟩

theorem meets_quiet (h : Host) (p : Packet) (st : SenderState) : Quiet h (h.meets p st) :=
  ⟨rfl, rfl, rfl, rfl, rfl, rfl, rfl⟩

section Calls

variable (rate : 0 ≤ env.cfg.pacerRate) (grantOrder : h.lastGrantPacerUpdate ≤ now)
    (dataOrder : h.lastDataPacerUpdate ≤ now)

include rate grantOrder dataOrder

theorem recv_paces (run : h.recv env now p stamp = .ok h') : Paces env.cfg now h h' := by
  obtain ⟨h1, st, started, -, dispatched⟩ := recv_cases run
  have polls := startPolling_paces rate grantOrder dataOrder started
  exact polls.trans ((meets_quiet h1 p st).trans dispatched.quiet).paces

theorem sendReq_paces {payload : ℕ} {tuple : RequestIdTuple} (run : h.sendReq env now payload tuple = .ok h') :
    Paces env.cfg now h h' := by
  obtain ⟨-, h1, snd, started, rfl, -⟩ := sendReq_cases run
  have asks : Quiet h { h with rpc := h.rpc.asked payload tuple } := ⟨rfl, rfl, rfl, rfl, rfl, rfl, rfl⟩
  have polls := startPolling_paces (h := { h with rpc := h.rpc.asked payload tuple }) rate grantOrder dataOrder started
  exact asks.paces.trans (polls.trans (snd_quiet h1 snd).paces)

theorem appSendResponse_paces {payload : ℕ} {thread : ℤ} (run : h.appSendResponse env now thread payload = .ok h') :
    Paces env.cfg now h h' := by
  obtain ⟨tuple, rest, st, h1, -, -, started, -, rfl⟩ := appSendResponse_cases run
  have answers : Quiet h { h with rpc := h.rpc.answered payload tuple now st } := ⟨rfl, rfl, rfl, rfl, rfl, rfl, rfl⟩
  have polls := startPolling_paces (h := { h with rpc := h.rpc.answered payload tuple now st }) rate grantOrder
    dataOrder started
  exact answers.paces.trans (polls.trans (Quiet.paces ⟨rfl, rfl, rfl, rfl, rfl, rfl, rfl⟩))

end Calls

end Host

namespace Net

variable {env : Env} {net net' : Net} {e : Event}

/-- The pacers of all hosts were drained in the past, and owe nothing. -/
structure Paced (net : Net) : Prop where
  grantUpdate : ∀ addr, (net.host addr).lastGrantPacerUpdate ≤ net.clock
  dataUpdate : ∀ addr, (net.host addr).lastDataPacerUpdate ≤ net.clock
  grantBacklog : ∀ addr, 0 ≤ (net.host addr).grantPacerBacklog
  dataBacklog : ∀ addr, 0 ≤ (net.host addr).dataPacerBacklog

theorem Paced.init (cfg : Config) : Paced (init cfg) where
  grantUpdate _ := by change (0 : Time) ≤ 10; norm_num
  dataUpdate _ := by change (0 : Time) ≤ 10; norm_num
  grantBacklog _ := le_refl _
  dataBacklog _ := le_refl _

/-- What happens to the pacers from one state to a later one. -/
structure PacesAll (cfg : Config) (net net' : Net) : Prop where
  clock : net.clock ≤ net'.clock
  host : ∀ addr, Host.Paces cfg net.clock (net.host addr) (net'.host addr)

theorem PacesAll.act {cfg : Config} {addr : Addr} {flight : List Packet} {h : Host}
    (paces : Host.Paces cfg net.clock (net.host addr) h) : PacesAll cfg net (net.act addr flight h) where
  clock := le_refl _
  host other := by
    rw [host_act]
    split
    · next same => rw [same]; exact paces
    · exact .refl _

theorem fire_paces (rate : 0 ≤ env.cfg.pacerRate) (paced : Paced net) (enabled : net.Enabled env e)
    (run : net.fire env e = .ok net') : PacesAll env.cfg net net' := by
  cases e with
  | tick seconds =>
    have later : 0 ≤ seconds := enabled
    simp only [fire, Lib.pure_eq_ok] at run
    subst run
    exact ⟨le_add_of_nonneg_right later, fun addr => .refl _⟩
  | request client server clThread srThread appLevelId n =>
    simp only [fire, Lib.bind_eq_ok, Lib.pure_eq_ok] at run
    obtain ⟨h, sends, rfl⟩ := run
    exact .act (Host.sendReq_paces rate (paced.grantUpdate _) (paced.dataUpdate _) sends)
  | reply server thread n =>
    simp only [fire, Lib.bind_eq_ok, Lib.pure_eq_ok] at run
    obtain ⟨h, sends, rfl⟩ := run
    exact .act (Host.appSendResponse_paces rate (paced.grantUpdate _) (paced.dataUpdate _) sends)
  | poll addr =>
    simp only [fire, Lib.bind_eq_ok, Lib.pure_eq_ok] at run
    obtain ⟨h, polls, rfl⟩ := run
    exact .act (Host.poll_paces rate (paced.grantUpdate _) (paced.dataUpdate _) polls)
  | deliver p stamp =>
    simp only [fire, Lib.bind_eq_ok, Lib.pure_eq_ok] at run
    obtain ⟨h, recvs, rfl⟩ := run
    exact .act (Host.recv_paces rate (paced.grantUpdate _) (paced.dataUpdate _) recvs)
  | collect addr =>
    simp only [fire, Lib.pure_eq_ok] at run
    subst run
    exact .act (Host.Quiet.paces ⟨rfl, rfl, rfl, rfl, rfl, rfl, rfl⟩)

structure Window (cfg : Config) (net net' : Net) : Prop where
  clock : net.clock ≤ net'.clock
  grant : ∀ addr, Pacer.Steps cfg.pacerRules net.clock (net.host addr).grantPacer (net'.host addr).grantPacer
  data : ∀ addr, Pacer.Steps cfg.pacerRules net.clock (net.host addr).dataPacer (net'.host addr).dataPacer

theorem PacesAll.window {cfg : Config} (paces : PacesAll cfg net net') : Window cfg net net' :=
  ⟨paces.clock, fun addr => (paces.host addr).grant, fun addr => (paces.host addr).data⟩

theorem Window.refl (cfg : Config) (net : Net) : Window cfg net net := ⟨le_refl _, fun _ => .refl, fun _ => .refl⟩

theorem Window.trans {cfg : Config} {net1 : Net} (first : Window cfg net net1) (second : Window cfg net1 net') :
    Window cfg net net' where
  clock := first.clock.trans second.clock
  grant addr := (first.grant addr).trans ((second.grant addr).earlier first.clock)
  data addr := (first.data addr).trans ((second.data addr).earlier first.clock)

section Bounds

variable {cfg : Config} (speed : 0 ≤ cfg.linkSpeedGbps)

include speed

theorem bytesDrainedPerLoop_nonneg : 0 ≤ cfg.bytesDrainedPerLoop := by
  have interval : 0 ≤ cfg.pollInterval := by unfold Config.pollInterval; positivity
  have drained : 0 ≤ cfg.drained cfg.pollInterval := by unfold Config.drained Config.secondsToBytes; positivity
  exact truncInt_nonneg drained

theorem pacerRate_nonneg : 0 ≤ cfg.pacerRate := by
  unfold Config.pacerRate
  positivity

theorem room_nonneg : 0 ≤ cfg.pacerRules.limit + cfg.pacerRules.largest := by
  have drained : (0 : ℚ) ≤ cfg.bytesDrainedPerLoop := by exact_mod_cast bytesDrainedPerLoop_nonneg speed
  unfold Config.pacerRules
  positivity

theorem backlog_nonneg {start : Time} {p q : Pacer ℚ} (steps : Pacer.Steps cfg.pacerRules start p q)
    (nonneg : 0 ≤ p.backlog) : 0 ≤ q.backlog := by
  have first : Pacer.Within cfg.pacerRules start p.sent p := .first (pacerRate_nonneg speed) (room_nonneg speed) nonneg
  exact (first.steps (pacerRate_nonneg speed) (room_nonneg speed) steps).nonneg

theorem Paced.later (paced : Paced net) (paces : PacesAll cfg net net') : Paced net' where
  grantUpdate addr := ((paces.host addr).grantUpdate (paced.grantUpdate addr)).trans paces.clock
  dataUpdate addr := ((paces.host addr).dataUpdate (paced.dataUpdate addr)).trans paces.clock
  grantBacklog addr := by
    have nonneg : (0 : ℚ) ≤ (net.host addr).grantPacer.backlog := by
      change (0 : ℚ) ≤ ((net.host addr).grantPacerBacklog : ℤ)
      exact_mod_cast paced.grantBacklog addr
    have kept := backlog_nonneg speed (paces.host addr).grant nonneg
    change (0 : ℚ) ≤ ((net'.host addr).grantPacerBacklog : ℤ) at kept
    exact_mod_cast kept
  dataBacklog addr := by
    have nonneg : (0 : ℚ) ≤ (net.host addr).dataPacer.backlog := by
      change (0 : ℚ) ≤ ((net.host addr).dataPacerBacklog : ℤ)
      exact_mod_cast paced.dataBacklog addr
    have kept := backlog_nonneg speed (paces.host addr).data nonneg
    change (0 : ℚ) ≤ ((net'.host addr).dataPacerBacklog : ℤ) at kept
    exact_mod_cast kept

end Bounds

section Runs

variable (speed : 0 ≤ env.cfg.linkSpeedGbps)

include speed

theorem Reach.paced (reach : Reachable env net) : Paced net := by
  induction reach with
  | init => exact .init env.cfg
  | step _ enabled _ fired ih => exact ih.later speed (fire_paces (pacerRate_nonneg speed) ih enabled fired)

theorem Steps.window (paced : Paced net) (steps : Steps env net net') : Window env.cfg net net' ∧ Paced net' := by
  -- the window of each step goes on where the one before it ends
  induction steps with
  | refl => exact ⟨.refl _ _, paced⟩
  | tail _ last ih =>
    obtain ⟨window, still⟩ := ih
    obtain ⟨e, enabled, fired⟩ := last
    have paces := fire_paces (pacerRate_nonneg speed) still enabled fired
    exact ⟨window.trans paces.window, still.later speed paces⟩

omit speed in
theorem elapsed_le {start finish last : Time} {p : Pacer ℚ} (order : start ≤ finish) (drained : p.last = last)
    (early : last ≤ finish) : p.elapsed start ≤ finish - start := by
  unfold Pacer.elapsed
  rw [drained]
  exact sub_le_sub_right (max_le early order) start

/-- In every window of a run, from the state behind one pass to the state behind
a later one, the GRANTs of a host carry no more credit, and its data packets no
more wire bytes, than the link takes in that time, than one and a half loops,
and one frame. -/
theorem window_le (reach : Reachable env net) (steps : Steps env net net') (addr : Addr) :
    ((creditSent (net'.host addr).sent : ℚ) - creditSent (net.host addr).sent ≤
      env.cfg.pacerRate * (net'.clock - net.clock) + (3 / 2 * env.cfg.bytesDrainedPerLoop + 1538)) ∧
    ((dataSent (net'.host addr).sent : ℚ) - dataSent (net.host addr).sent ≤
      env.cfg.pacerRate * (net'.clock - net.clock) + (3 / 2 * env.cfg.bytesDrainedPerLoop + 1538)) := by
  have rate : 0 ≤ env.cfg.pacerRules.rate := pacerRate_nonneg speed
  have room := room_nonneg speed
  have paced := Reach.paced speed reach
  obtain ⟨window, later⟩ := Steps.window speed paced steps
  constructor
  · have nonneg : (0 : ℚ) ≤ (net.host addr).grantPacer.backlog := by
      change (0 : ℚ) ≤ ((net.host addr).grantPacerBacklog : ℤ)
      exact_mod_cast paced.grantBacklog addr
    have within := (Pacer.Within.first rate room nonneg).steps rate room (window.grant addr)
    have time := elapsed_le (p := (net'.host addr).grantPacer) window.clock rfl (later.grantUpdate addr)
    exact within.bounded.trans (add_le_add_left (mul_le_mul_of_nonneg_left time rate) _)
  · have nonneg : (0 : ℚ) ≤ (net.host addr).dataPacer.backlog := by
      change (0 : ℚ) ≤ ((net.host addr).dataPacerBacklog : ℤ)
      exact_mod_cast paced.dataBacklog addr
    have within := (Pacer.Within.first rate room nonneg).steps rate room (window.data addr)
    have time := elapsed_le (p := (net'.host addr).dataPacer) window.clock rfl (later.dataUpdate addr)
    exact within.bounded.trans (add_le_add_left (mul_le_mul_of_nonneg_left time rate) _)

end Runs

def tenFrames : Env := ⟨Config.small 15380 0 0 3 0 tenFrames_set noUnsolicited_set, .plain⟩

def deliverFirst (net : Net) : Event :=
  match net.flight with
  | [] => .tick 0
  | p :: _ => .deliver p {}

/-- A request of three packets is announced, and two of them are granted. -/
def threePackets : List (Net → Event) :=
  [fun _ => .request 0 1 0 0 0 3000, fun _ => .tick (1 / 1000000), fun _ => .poll 0, deliverFirst,
    fun _ => .tick (1 / 1000000), fun _ => .poll 1, fun _ => .tick (1 / 1000000), fun _ => .poll 1, deliverFirst,
    fun _ => .poll 0]

theorem window_le_threePackets : ∃ net, Steps tenFrames (init tenFrames.cfg) net ∧
    creditSent (net.host 1).sent = 3076 ∧ (3076 : ℚ) ≤ 12500000000 * (net.clock - 10) + (3 / 2 * 375 + 1538) ∧
    (dataSent (net.host 0).sent : ℚ) ≤ 12500000000 * (net.clock - 10) + (3 / 2 * 375 + 1538) := by
  have speed : 0 ≤ tenFrames.cfg.linkSpeedGbps := by decide +kernel
  have ran : ((init tenFrames.cfg).run tenFrames threePackets).map
      (fun net => (creditSent (net.host 1).sent, dataSent (net.host 0).sent)) = some (3076, 1538) := by decide +kernel
  obtain ⟨net, run, sums⟩ := Option.map_eq_some_iff.mp ran
  have credit : creditSent (net.host 1).sent = 3076 := congrArg Prod.fst sums
  have start : Reachable tenFrames (init tenFrames.cfg) := .init
  have grants := (window_le speed start (Steps.run run) 1).1
  have data := (window_le speed start (Steps.run run) 0).2
  have rate : tenFrames.cfg.pacerRate = 12500000000 := by decide +kernel
  have loop : tenFrames.cfg.bytesDrainedPerLoop = 375 := by decide +kernel
  rw [rate, loop] at grants data
  rw [credit] at grants
  have clock : (init tenFrames.cfg).clock = 10 := rfl
  have none : creditSent ((init tenFrames.cfg).host 1).sent = 0 ∧ dataSent ((init tenFrames.cfg).host 0).sent = 0 :=
    ⟨rfl, rfl⟩
  rw [none.1, clock] at grants
  rw [none.2, clock] at data
  refine ⟨net, Steps.run run, credit, ?_, ?_⟩
  · simpa using grants
  · simpa using data

end Net

end PhantomPass
