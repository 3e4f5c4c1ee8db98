import Mathlib
import PhantomPass.Congestion.Windows

/-! The multi-bit window: what a packet's report makes of it, its bounds over
every sequence of packets, and that more load leaves it no larger. -/

set_option autoImplicit false

namespace PhantomPass

namespace SenderState

variable (cfg : Config) (p : Packet) (stamp : Stamp) (st : SenderState)

def bandwidth : ℚ := p.hdr.B / 8 * 1000 * 1000 * 1000

/-- Bytes in flight and bytes on the link, relative to what both can hold. -/
def load : ℚ := ((min st.prevQlen p.hdr.qlen : ℕ) : ℚ) / (bandwidth p * cfg.rttS) + stamp.txRateBps / bandwidth p

/-- The weight of a report in the average: the part of a round trip it covers. -/
def weight : ℚ := min stamp.dt cfg.rttS / cfg.rttS

def utilisation : ℚ := (1 - weight cfg stamp) * st.prevU + weight cfg stamp * st.load cfg p stamp

/-- The window is set from the utilisation: it is too high, or the additive stages are over. -/
def full : Bool := decide (cfg.eta ≤ st.utilisation cfg p stamp) || decide (cfg.maxStage ≤ st.incStage)

def target : ℚ :=
  min (if st.full cfg p stamp then st.Wc / (st.utilisation cfg p stamp / cfg.eta) + cfg.wai
    else st.Wc + cfg.wai) cfg.maxSrpb

def reported : SenderState :=
  { st with
    prevQlen := p.hdr.qlen
    prevU := st.utilisation cfg p stamp
    Wc := if st.updateRatios then (st.host.maxSrpbBytes : ℚ) else st.Wc
    incStage := if st.updateRatios then (if st.full cfg p stamp then 0 else st.incStage + 1) else st.incStage
    host := { st.host with
      maxSrpbBytes := min (max cfg.hostMinSrpb (truncInt (st.target cfg p stamp))) cfg.maxSrpb } }

structure Report : Prop where
  rate : 0 < stamp.txRateBps
  speed : stamp.txRateBps * 8 / 1000000000 ≤ 11 / 10 * cfg.linkSpeedGbps
  dt : 0 < stamp.dt

variable {cfg p stamp st} {st' : SenderState}

theorem updateMultiBit_ok (run : st.updateMultiBit cfg p stamp = .ok st') :
    Report cfg stamp ∧ st' = st.reported cfg p stamp := by
  unfold updateMultiBit assert at run
  simp only [Lib.bind_eq_ok, Lib.require_eq_ok, Lib.pure_eq_ok, exists_and_left, exists_const] at run
  obtain ⟨rate, speed, dt, rfl⟩ := run
  exact ⟨⟨rate, speed, dt⟩, rfl⟩

def MultiBit (cfg : Config) : Prop := cfg.senderAlgo = 100 ∨ cfg.senderAlgo = 101

instance (cfg : Config) : Decidable (MultiBit cfg) := by unfold MultiBit; infer_instance

theorem updateSnState_multiBit (multiBit : MultiBit cfg) : st.updateSnState cfg p stamp =
    st.updateMultiBit cfg p stamp := by
  have ecn : ¬ (cfg.senderAlgo = 0 ∨ cfg.senderAlgo = 1 ∨ cfg.senderAlgo = 2 ∨ cfg.senderAlgo = 3) := by
    unfold MultiBit at multiBit
    omega
  unfold updateSnState
  rw [if_neg ecn, if_pos (show cfg.senderAlgo = 100 ∨ cfg.senderAlgo = 101 from multiBit)]

theorem update_multiBit (multiBit : MultiBit cfg) (run : st.update cfg p stamp = .ok st') :
    Report cfg stamp ∧ st' = ((st.noticed cfg p stamp).reported cfg p stamp).settled cfg p st.due := by
  obtain ⟨-, st2, moved, rfl⟩ := update_ok run
  rw [updateSnState_multiBit multiBit] at moved
  obtain ⟨report, rfl⟩ := updateMultiBit_ok moved
  exact ⟨report, rfl⟩

theorem algo_of_update (run : st.update cfg p stamp = .ok st') : Dctcp cfg ∨ MultiBit cfg := by
  obtain ⟨-, st2, moved, -⟩ := update_ok run
  unfold updateSnState at moved
  split at moved
  · next dctcp => exact Or.inl dctcp
  · split at moved
    · next multiBit => exact Or.inr multiBit
    · cases moved

section Positive

variable (report : Report cfg stamp) (room : 0 < cfg.maxSrpb)

include report

theorem Report.linkSpeed_pos : 0 < cfg.linkSpeedGbps := by
  have := report.rate
  have := report.speed
  linarith

include room

theorem Report.rttS_pos : 0 < cfg.rttS := by
  have := report.linkSpeed_pos
  have : (0 : ℚ) < cfg.maxSrpb := by exact_mod_cast room
  unfold Config.rttS
  positivity

theorem Report.weight_bounds : 0 < weight cfg stamp ∧ weight cfg stamp ≤ 1 := by
  have rtt := report.rttS_pos room
  exact ⟨div_pos (lt_min report.dt rtt) rtt, div_le_one_of_le₀ (min_le_right _ _) rtt.le⟩

variable (link : 0 < p.hdr.B)

include link

omit report room in
theorem bandwidth_pos : 0 < bandwidth p := by
  unfold bandwidth
  positivity

theorem Report.load_pos : 0 < st.load cfg p stamp := by
  have rtt := report.rttS_pos room
  have bandwidth := bandwidth_pos link
  have rate := report.rate
  unfold load
  positivity

theorem Report.utilisation_pos (nonneg : 0 ≤ st.prevU) : 0 < st.utilisation cfg p stamp := by
  obtain ⟨pos, le⟩ := report.weight_bounds room
  have old := mul_nonneg (sub_nonneg.mpr le) nonneg
  have load : 0 < st.load cfg p stamp := report.load_pos room link
  have new := mul_pos pos load
  exact add_pos_of_nonneg_of_pos old new

end Positive

structure Held (cfg : Config) (st : SenderState) : Prop where
  prevU : 0 ≤ st.prevU
  Wc : (cfg.hostMinSrpb : ℚ) ≤ st.Wc ∧ st.Wc ≤ cfg.maxSrpb
  host : cfg.hostMinSrpb ≤ st.host.maxSrpbBytes ∧ st.host.maxSrpbBytes ≤ cfg.maxSrpb

def fromLink : SenderState → Packet → Stamp → Prop := fun _ p _ => 0 < p.hdr.B

theorem Held.new (room : cfg.hostMinSrpb ≤ cfg.maxSrpb) (senderAddr : Addr) : Held cfg (.new senderAddr cfg.maxSrpb) :=
  ⟨le_rfl, ⟨Int.cast_le.mpr room, le_rfl⟩, room, le_rfl⟩

theorem Held.update (hostPos : 0 < cfg.hostMinSrpb) (room : cfg.hostMinSrpb ≤ cfg.maxSrpb) (multiBit : MultiBit cfg)
    (held : Held cfg st) (link : 0 < p.hdr.B) (run : st.update cfg p stamp = .ok st') : Held cfg st' := by
  obtain ⟨report, rfl⟩ := update_multiBit multiBit run
  refine ⟨(report.utilisation_pos (hostPos.trans_le room) link held.prevU).le, ?_, le_min (le_max_left _ _) room,
    min_le_right _ _⟩
  change (cfg.hostMinSrpb : ℚ) ≤ (if (st.noticed cfg p stamp).updateRatios then (st.host.maxSrpbBytes : ℚ) else st.Wc) ∧
    (if (st.noticed cfg p stamp).updateRatios then (st.host.maxSrpbBytes : ℚ) else st.Wc) ≤ cfg.maxSrpb
  split
  · exact ⟨by exact_mod_cast held.host.1, by exact_mod_cast held.host.2⟩
  · exact held.Wc

theorem Reach.held (hostPos : 0 < cfg.hostMinSrpb) (room : cfg.hostMinSrpb ≤ cfg.maxSrpb) (multiBit : MultiBit cfg)
    (reach : Reach cfg fromLink st) : Held cfg st := by
  -- credit touches none of the fields that the bounds are about
  induction reach with
  | new senderAddr => exact .new room senderAddr
  | update _ link run ih => exact ih.update hostPos room multiBit link run
  | credit srpbBytes _ ih => exact ⟨ih.prevU, ih.Wc, ih.host⟩

section MoreLoad

variable {q : Packet} {other : Stamp} (link : 0 < p.hdr.B) (sameLink : q.hdr.B = p.hdr.B) (sameDt : other.dt = stamp.dt)
  (qlen : p.hdr.qlen ≤ q.hdr.qlen) (rate : stamp.txRateBps ≤ other.txRateBps)

include link sameLink qlen rate

theorem Report.load_mono (report : Report cfg stamp) (room : 0 < cfg.maxSrpb) :
    st.load cfg p stamp ≤ st.load cfg q other := by
  have rtt := report.rttS_pos room
  have bandwidth_pos := bandwidth_pos link
  have same : bandwidth q = bandwidth p := by unfold bandwidth; rw [sameLink]
  unfold load
  rw [same]
  gcongr

include sameDt

theorem Report.utilisation_mono (report : Report cfg stamp) (room : 0 < cfg.maxSrpb) :
    st.utilisation cfg p stamp ≤ st.utilisation cfg q other := by
  have same : weight cfg other = weight cfg stamp := by unfold weight; rw [sameDt]
  have weighs := (report.weight_bounds room).1.le
  have more : st.load cfg p stamp ≤ st.load cfg q other := report.load_mono link sameLink qlen rate room
  unfold utilisation
  rw [same]
  gcongr

/-- A report of more load asks for no larger window: the window shrinks with the
utilisation, and past eta it is at most the one that additive increase allows. -/
theorem Report.target_anti (report : Report cfg stamp) (room : 0 < cfg.maxSrpb) (eta : 0 < cfg.eta)
    (prevU : 0 ≤ st.prevU) (Wc : 0 ≤ st.Wc) : st.target cfg q other ≤ st.target cfg p stamp := by
  have more : st.utilisation cfg p stamp ≤ st.utilisation cfg q other :=
    report.utilisation_mono link sameLink sameDt qlen rate room
  have pos : 0 < st.utilisation cfg p stamp := report.utilisation_pos room link prevU
  unfold target
  refine min_le_min ?_ le_rfl
  by_cases stages : cfg.maxStage ≤ st.incStage
  · have fullP : st.full cfg p stamp = true := by simp [full, stages]
    have fullQ : st.full cfg q other = true := by simp [full, stages]
    rw [if_pos fullP, if_pos fullQ]
    gcongr
  · by_cases high : cfg.eta ≤ st.utilisation cfg p stamp
    · have fullP : st.full cfg p stamp = true := by simp [full, high]
      have fullQ : st.full cfg q other = true := by simp [full, high.trans more]
      rw [if_pos fullP, if_pos fullQ]
      gcongr
    · have fullP : ¬ st.full cfg p stamp = true := by simp [full, stages, not_le.mp high]
      rw [if_neg fullP]
      split
      · next fullQ =>
        have above : cfg.eta ≤ st.utilisation cfg q other := by simpa [full, stages] using fullQ
        have part : 1 ≤ st.utilisation cfg q other / cfg.eta := (one_le_div eta).mpr above
        gcongr
        exact div_le_self Wc part
      · exact le_rfl

theorem host_update_anti (multiBit : MultiBit cfg) (room : 0 < cfg.maxSrpb) (eta : 0 < cfg.eta) (prevU : 0 ≤ st.prevU)
    (Wc : 0 ≤ st.Wc) {less more : SenderState} (run : st.update cfg p stamp = .ok less)
    (run' : st.update cfg q other = .ok more) : more.host.maxSrpbBytes ≤ less.host.maxSrpbBytes := by
  obtain ⟨report, rfl⟩ := update_multiBit multiBit run
  obtain ⟨-, rfl⟩ := update_multiBit multiBit run'
  have asks : st.target cfg q other ≤ st.target cfg p stamp :=
    report.target_anti link sameLink sameDt qlen rate room eta prevU Wc
  exact min_le_min (max_le_max le_rfl (truncInt_mono asks)) le_rfl

end MoreLoad

theorem updateMultiBit_defined (site : Site) (text : String) : st.updateMultiBit cfg p stamp ≠ .error
    (.undefined site text) := by
  unfold updateMultiBit assert
  simp only [ne_eq, Lib.bind_eq_error, Lib.require_eq_error, Lib.pure_ne_error, reduceCtorEq, and_false, exists_false,
    or_self, not_false_eq_true]

theorem update_undefined_iff (multiBit : MultiBit cfg) :
    (∃ site text, st.update cfg p stamp = .error (.undefined site text)) ↔
    cfg.ecnCapable ≠ 0 ∧ st.maxSrpbBytes = 0 := by
  rw [update_eq]
  split
  · next divides => exact iff_of_true ⟨_, _, rfl⟩ divides
  · next divides =>
    refine iff_of_false ?_ divides
    rintro ⟨site, text, stops⟩
    rw [updateSnState_multiBit multiBit] at stops
    simp only [Lib.bind_eq_error, Lib.pure_ne_error, and_false, exists_false, or_false] at stops
    exact updateMultiBit_defined site text stops

/-- What an update asks for: an algorithm that is implemented, a report where one is read, and with ECN a budget to
divide by. -/
structure Takes (cfg : Config) (stamp : Stamp) (st : SenderState) : Prop where
  algo : cfg.senderAlgo = 0 ∨ cfg.senderAlgo = 1 ∨ MultiBit cfg ∧ Report cfg stamp
  budget : cfg.ecnCapable ≠ 0 → st.maxSrpbBytes ≠ 0

theorem updateSnState_algo (run : st.updateSnState cfg p stamp = .ok st') :
    cfg.senderAlgo = 0 ∨ cfg.senderAlgo = 1 ∨ MultiBit cfg ∧ Report cfg stamp := by
  by_cases dctcp : Dctcp cfg
  · rw [updateSnState_dctcp cfg p stamp st dctcp] at run
    unfold Dctcp at dctcp
    split at run
    · cases run
    · split at run
      · cases run
      · omega
  · by_cases multiBit : MultiBit cfg
    · rw [updateSnState_multiBit multiBit] at run
      exact Or.inr (Or.inr ⟨multiBit, (updateMultiBit_ok run).1⟩)
    · unfold updateSnState at run
      rw [if_neg (show ¬ (cfg.senderAlgo = 0 ∨ _) from dctcp), if_neg (show ¬ (cfg.senderAlgo = 100 ∨ _) from multiBit)]
        at run
      cases run

theorem update_succeeds_iff : (∃ st', st.update cfg p stamp = .ok st') ↔ st.Takes cfg stamp := by
  constructor
  · rintro ⟨st', run⟩
    obtain ⟨divides, st2, moved, -⟩ := update_ok run
    exact ⟨updateSnState_algo moved, fun capable empty => divides ⟨capable, empty⟩⟩
  · rintro ⟨algo, budget⟩
    have divides : ¬ (cfg.ecnCapable ≠ 0 ∧ st.maxSrpbBytes = 0) := fun h => budget h.1 h.2
    have moves : ∃ st2, (st.noticed cfg p stamp).updateSnState cfg p stamp = .ok st2 := by
      by_cases multiBit : MultiBit cfg
      · obtain ⟨rate, speed, dt⟩ : Report cfg stamp := by
          unfold MultiBit at multiBit
          rcases algo with first | second | ⟨-, report⟩
          · omega
          · omega
          · exact report
        rw [updateSnState_multiBit multiBit]
        unfold updateMultiBit assert
        simp only [Lib.require_true _ rate, Lib.require_true _ speed, Lib.require_true _ dt, Lib.ok_bind]
        exact ⟨_, rfl⟩
      · have ecn : cfg.senderAlgo = 0 ∨ cfg.senderAlgo = 1 := by
          rcases algo with first | second | ⟨other, -⟩
          · exact Or.inl first
          · exact Or.inr second
          · exact absurd other multiBit
        have dctcp : Dctcp cfg := by
          unfold Dctcp
          omega
        have same : (st.noticed cfg p stamp).maxSrpbBytes = st.maxSrpbBytes := rfl
        rw [updateSnState_dctcp cfg p stamp _ dctcp, same, if_neg divides, if_neg (by omega)]
        exact ⟨_, rfl⟩
    obtain ⟨st2, moved⟩ := moves
    rw [update_eq, if_neg divides, moved]
    exact ⟨_, rfl⟩

/-- What keeps a budget: a window that never closes, below the ceiling. -/
structure Funded (cfg : Config) (st : SenderState) : Prop where
  nw : 0 < st.nw.maxSrpbBytes
  budget : 0 < st.maxSrpbBytes
  ceiling : st.srpbCeiling = cfg.maxSrpb

theorem Funded.update (nwPos : 0 < cfg.nwMinSrpb) (hostPos : 0 < cfg.hostMinSrpb) (room : 0 < cfg.maxSrpb)
    (multiBit : MultiBit cfg) (funded : Funded cfg st) (run : st.update cfg p stamp = .ok st') : Funded cfg st' := by
  obtain ⟨-, rfl⟩ := update_multiBit multiBit run
  have nw : 0 < ((st.noticed cfg p stamp).reported cfg p stamp).nw.maxSrpbBytes :=
    lt_min (nwPos.trans_le (le_max_left _ _)) room
  have host : 0 < ((st.noticed cfg p stamp).reported cfg p stamp).host.maxSrpbBytes :=
    lt_min (hostPos.trans_le (le_max_left _ _)) room
  refine ⟨nw, ?_, funded.ceiling⟩
  change 0 < ((st.noticed cfg p stamp).reported cfg p stamp).budget cfg p
  unfold SenderState.budget
  split
  · exact room.trans_eq funded.ceiling.symm
  · exact lt_min nw host

theorem Reach.funded (nwPos : 0 < cfg.nwMinSrpb) (hostPos : 0 < cfg.hostMinSrpb) (room : 0 < cfg.maxSrpb)
    (multiBit : MultiBit cfg) {cond : SenderState → Packet → Stamp → Prop} (reach : Reach cfg cond st) :
    Funded cfg st := by
  induction reach with
  | new senderAddr => exact ⟨room, room, rfl⟩
  | update _ _ run ih => exact ih.update nwPos hostPos room multiBit run
  | credit srpbBytes _ ih => exact ⟨ih.nw, ih.budget, ih.ceiling⟩

/-- The multi-bit window keeps its bounds and none of its divisors is zero; more
load leaves it no larger; and the update of the other window divides by zero
only where ECN may close that window. -/
theorem multiBit_window (hostPos : 0 < cfg.hostMinSrpb) (room : cfg.hostMinSrpb ≤ cfg.maxSrpb) (eta : 0 < cfg.eta)
    (multiBit : MultiBit cfg) (reach : Reach cfg fromLink st) :
    0 ≤ st.prevU ∧ ((cfg.hostMinSrpb : ℚ) ≤ st.Wc ∧ st.Wc ≤ cfg.maxSrpb) ∧
      (cfg.hostMinSrpb ≤ st.host.maxSrpbBytes ∧ st.host.maxSrpbBytes ≤ cfg.maxSrpb) ∧
      (∀ p stamp st', 0 < p.hdr.B → st.update cfg p stamp = .ok st' → bandwidth p ≠ 0 ∧ cfg.rttS ≠ 0 ∧
        bandwidth p * cfg.rttS ≠ 0 ∧ cfg.eta ≠ 0 ∧ st.utilisation cfg p stamp / cfg.eta ≠ 0) ∧
      (∀ p stamp qlen txRateBps less more, 0 < p.hdr.B → p.hdr.qlen ≤ qlen → stamp.txRateBps ≤ txRateBps →
        st.update cfg p stamp = .ok less →
        st.update cfg { p with hdr := { p.hdr with qlen } } { stamp with txRateBps } = .ok more →
        more.host.maxSrpbBytes ≤ less.host.maxSrpbBytes) ∧
      (∀ p stamp, (∃ site text, st.update cfg p stamp = .error (.undefined site text)) ↔
        cfg.ecnCapable ≠ 0 ∧ st.maxSrpbBytes = 0) ∧
      (0 < cfg.nwMinSrpb ∨ cfg.ecnCapable = 0 → ∀ p stamp site text,
        st.update cfg p stamp ≠ .error (.undefined site text)) := by
  have held := reach.held hostPos room multiBit
  have wide : 0 < cfg.maxSrpb := hostPos.trans_le room
  have whole : (0 : ℚ) ≤ cfg.hostMinSrpb := by exact_mod_cast hostPos.le
  refine ⟨held.prevU, held.Wc, held.host, ?_, ?_, fun p stamp => update_undefined_iff multiBit, ?_⟩
  · intro p stamp st' link run
    obtain ⟨report, -⟩ := update_multiBit multiBit run
    have bandwidth := bandwidth_pos link
    have rtt := report.rttS_pos wide
    have utilisation : 0 < st.utilisation cfg p stamp := report.utilisation_pos wide link held.prevU
    exact ⟨bandwidth.ne', rtt.ne', (mul_pos bandwidth rtt).ne', eta.ne', (div_pos utilisation eta).ne'⟩
  · intro p stamp qlen txRateBps less more link queue rate run run'
    have prior : 0 ≤ st.Wc := whole.trans held.Wc.1
    refine host_update_anti link ?_ ?_ ?_ ?_ multiBit wide eta held.prevU prior run run'
    · rfl
    · rfl
    · exact queue
    · exact rate
  · intro open_ p stamp site text stops
    obtain ⟨capable, closed⟩ := (update_undefined_iff multiBit).mp ⟨site, text, stops⟩
    rcases open_ with nwPos | off
    · exact absurd closed (reach.funded nwPos hostPos wide multiBit).budget.ne'
    · exact capable off

/-- Multi-bit signals, and a network window whose minimum is truncated to zero. -/
def closing : Config :=
  { Config.small 15380 (-1) 0 3 100 tenFrames_set allUnsolicited_set with
    ecnMinMul := 1 / 10
    ecnMinMulNw := 1 / 100000
    ecnMinMulNw_pos := by norm_num
    additiveIncrMul := 0
    additiveIncrMul_set := noIncrease_set
    ceNewWeight := 1 }

/-- A full frame that the network marks, at the rate of a link of 100 Gbps. -/
def busyFrame : Packet × Stamp :=
  ({ frame false with hdr := { (frame false).hdr with B := 100 } },
    { ce := true, txRateBps := 12500000000, dt := 1 / 10000000 })

/-- After a first frame: no divisor is zero, and a longer queue leaves no larger window. -/
theorem multiBit_window_closing : ∃ st, Reach closing fromLink st ∧ 0 ≤ st.prevU ∧
    ∀ qlen less more, st.update closing busyFrame.1 busyFrame.2 = .ok less →
      st.update closing { busyFrame.1 with hdr := { busyFrame.1.hdr with qlen } } busyFrame.2 = .ok more →
      more.host.maxSrpbBytes ≤ less.host.maxSrpbBytes := by
  have ran : (do
      let st ← (SenderState.new 1 15380).updates closing [busyFrame]
      return st.host.maxSrpbBytes) = (.ok 15380 : Checked ℤ) := by decide +kernel
  simp only [Lib.bind_eq_ok, Lib.pure_eq_ok] at ran
  obtain ⟨st, run, -⟩ := ran
  have link : (0 : ℚ) < busyFrame.1.hdr.B := by decide +kernel
  have allowed : ∀ packet ∈ [busyFrame], ∀ st, fromLink st packet.1 packet.2 := by
    intro packet inside st
    rw [List.mem_singleton.mp inside]
    exact link
  have reach : Reach closing fromLink st := (Reach.new 1).updates allowed run
  obtain ⟨prevU, -, -, -, anti, -, -⟩ := multiBit_window (by decide +kernel) (by decide +kernel) (by decide +kernel)
    (by decide) reach
  exact ⟨st, reach, prevU, fun qlen less more first second =>
    anti busyFrame.1 busyFrame.2 qlen _ less more link (Nat.zero_le _) le_rfl first second⟩

/-- Forty-five marked frames close the network's window; the next one divides by it. -/
theorem multiBit_divides_by_zero : ¬ ∀ (cfg : Config) (st : SenderState) (p : Packet) (stamp : Stamp),
    0 < cfg.hostMinSrpb → cfg.hostMinSrpb ≤ cfg.maxSrpb → 0 < cfg.eta → MultiBit cfg →
      Reach cfg (fun _ p stamp => 0 < p.hdr.B ∧ 0 < stamp.txRateBps ∧ 0 < stamp.dt) st →
      0 < p.hdr.B → 0 < stamp.txRateBps → 0 < stamp.dt →
        ∀ site text, st.update cfg p stamp ≠ .error (.undefined site text) := by
  intro holds
  have ran : (do
      let st ← (SenderState.new 1 15380).updates closing (List.replicate 45 busyFrame)
      return st.maxSrpbBytes) = (.ok 0 : Checked ℤ) := by decide +kernel
  simp only [Lib.bind_eq_ok, Lib.pure_eq_ok] at ran
  obtain ⟨st, run, closed⟩ := ran
  have positive : 0 < busyFrame.1.hdr.B ∧ 0 < busyFrame.2.txRateBps ∧ 0 < busyFrame.2.dt := by decide +kernel
  have reach : Reach closing (fun _ p stamp => 0 < p.hdr.B ∧ 0 < stamp.txRateBps ∧ 0 < stamp.dt) st :=
    (Reach.new 1).updates (fun packet inside st => by rw [(List.mem_replicate.mp inside).2]; exact positive) run
  have divides : ∃ site text, st.update closing busyFrame.1 busyFrame.2 = .error (.undefined site text) :=
    (update_undefined_iff (by decide)).mpr ⟨by decide, closed⟩
  obtain ⟨site, text, stops⟩ := divides
  exact holds closing st busyFrame.1 busyFrame.2 (by decide +kernel) (by decide +kernel) (by decide +kernel) (by decide)
    reach positive.1 positive.2.1 positive.2.2 site text stops

end SenderState

end PhantomPass
