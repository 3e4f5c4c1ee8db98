import Mathlib
import PhantomPass.Deployment
import PhantomPass.Truncation

/-! The windows of a receiver for one sender, over every sequence of packets:
what a packet adds to a window and takes from it, and what it never leaves. -/

set_option autoImplicit false

namespace PhantomPass

namespace Window

variable (cfg : Config) (minSrpb srpb : ℤ) (marked due : Bool) (since : ℕ) (w : Window)

def gain : ℚ :=
  if cfg.ecnCapable = 0 then 0
  else (cfg.additiveIncrMul : ℚ) * ((maxEthernetFrameOnWire * maxEthernetFrameOnWire : ℕ) : ℤ).tdiv srpb

/-- The ratio of marked packets behind a packet, averaged when its interval ends. -/
def ratio : ℚ :=
  if due then
    (1 - cfg.ceNewWeight) * w.markedRatio +
      cfg.ceNewWeight * (((w.pktsMarkedSinceLastRatioUpdate + if marked then 1 else 0 : ℕ) : ℚ) / since)
  else w.markedRatio

/-- A mark decreases a window once a window of packets has passed. -/
def cuts : Bool := marked && decide (w.pktsAtNextWndUpdate ≤ w.pktsSinceLastWndUpdate + 1)

def cut : ℚ := if w.cuts marked then w.maxSrpbBytes * w.ratio cfg marked due since / 2 else 0

def next : Window where
  maxSrpbBytes :=
    min (max minSrpb (truncInt (w.maxSrpbBytes + (gain cfg srpb - w.cut cfg marked due since)))) cfg.maxSrpb
  markedRatio := w.ratio cfg marked due since
  pktsMarkedSinceLastRatioUpdate := if due then 0 else w.pktsMarkedSinceLastRatioUpdate + if marked then 1 else 0
  pktsSinceLastWndUpdate := if w.cuts marked then 0 else w.pktsSinceLastWndUpdate + 1
  pktsAtNextWndUpdate :=
    if w.cuts marked then toUInt32 (truncInt (3 / 2 * (srpb : ℚ) / maxEthernetFrameOnWire)) else w.pktsAtNextWndUpdate
  ecnBurst := if cfg.ecnCapable = 0 then w.ecnBurst else marked

variable {cfg minSrpb srpb marked due since w}

/-- The gate of additive increase reads the burst flag that the same packet has
just set, so that it is open for every packet. -/
theorem count_capable (capable : cfg.ecnCapable ≠ 0) : count cfg marked w =
    ({ w with
      pktsSinceLastWndUpdate := w.pktsSinceLastWndUpdate + 1
      pktsMarkedSinceLastRatioUpdate := w.pktsMarkedSinceLastRatioUpdate + if marked then 1 else 0
      ecnBurst := marked }, true) := by
  unfold count
  cases marked <;> cases w.ecnBurst <;> simp [capable]

theorem adjust_average_count :
    adjust cfg minSrpb srpb marked (count cfg marked w).2 (average cfg due since (count cfg marked w).1) =
      w.next cfg minSrpb srpb marked due since := by
  by_cases capable : cfg.ecnCapable = 0
  · cases due <;> by_cases late : w.pktsAtNextWndUpdate ≤ w.pktsSinceLastWndUpdate + 1 <;> cases marked <;>
      simp [count, average, adjust, next, gain, cut, cuts, ratio, capable, late, sub_eq_add_neg]
  · rw [count_capable capable]
    cases due <;> by_cases late : w.pktsAtNextWndUpdate ≤ w.pktsSinceLastWndUpdate + 1 <;> cases marked <;>
      simp [average, adjust, next, gain, cut, cuts, ratio, capable, late, sub_eq_add_neg]

/-- A window's update succeeds unless it divides by an empty budget, and is the window behind the packet. -/
theorem update_eq (site : Site) : w.update site cfg minSrpb srpb marked due since =
    if cfg.ecnCapable ≠ 0 ∧ srpb = 0 then .error (.undefined site "division by max_srpb_bytes_")
    else .ok (w.next cfg minSrpb srpb marked due since) := by
  have opens : (count cfg marked w).2 = decide (cfg.ecnCapable ≠ 0) := by
    by_cases capable : cfg.ecnCapable = 0
    · simp [count, capable]
    · simp [count_capable capable, capable]
  unfold update
  dsimp only
  rw [adjust_average_count, opens]
  split
  · next stops =>
    rw [if_pos (by simpa using stops)]
    rfl
  · next goes =>
    rw [if_neg (by simpa using goes)]
    rfl

/-- What holds of a window whose interval has had so many packets. -/
structure Ok (cfg : Config) (minSrpb : ℤ) (since : ℕ) (w : Window) : Prop where
  low : minSrpb ≤ w.maxSrpbBytes
  high : w.maxSrpbBytes ≤ cfg.maxSrpb
  ratio_nonneg : 0 ≤ w.markedRatio
  ratio_le : w.markedRatio ≤ 1
  marked : w.pktsMarkedSinceLastRatioUpdate ≤ since

structure Rated (since : ℕ) (w : Window) : Prop where
  ratio_nonneg : 0 ≤ w.markedRatio
  ratio_le : w.markedRatio ≤ 1
  marked : w.pktsMarkedSinceLastRatioUpdate ≤ since

theorem Ok.rated (ok : Ok cfg minSrpb since w) : Rated since w := ⟨ok.ratio_nonneg, ok.ratio_le, ok.marked⟩

theorem marked_le (rated : Rated since w) :
    w.pktsMarkedSinceLastRatioUpdate + (if marked then 1 else 0) ≤ since + 1 := by
  have := rated.marked
  split <;> omega

theorem ratio_bounds (weight : 0 ≤ cfg.ceNewWeight ∧ cfg.ceNewWeight ≤ 1) (rated : Rated since w) :
    0 ≤ w.ratio cfg marked due (since + 1) ∧ w.ratio cfg marked due (since + 1) ≤ 1 := by
  obtain ⟨light, heavy⟩ := weight
  have nonneg := rated.ratio_nonneg
  have le := rated.ratio_le
  unfold ratio
  split
  · have count : ((w.pktsMarkedSinceLastRatioUpdate + if marked then 1 else 0 : ℕ) : ℚ) ≤ (since + 1 : ℕ) := by
      exact_mod_cast marked_le rated
    have part_nonneg : (0 : ℚ) ≤ ((w.pktsMarkedSinceLastRatioUpdate + if marked then 1 else 0 : ℕ) :
      ℚ) / (since + 1 : ℕ) := by
      positivity
    have part_le : ((w.pktsMarkedSinceLastRatioUpdate + if marked then 1 else 0 : ℕ) : ℚ) / (since + 1 : ℕ) ≤ 1 :=
      div_le_one_of_le₀ count (by positivity)
    generalize ((w.pktsMarkedSinceLastRatioUpdate + if marked then 1 else 0 : ℕ) : ℚ) / (since + 1 : ℕ) = part at *
    have old := mul_le_mul_of_nonneg_left le (sub_nonneg.mpr heavy)
    have new := mul_le_mul_of_nonneg_left part_le light
    have old_nonneg := mul_nonneg (sub_nonneg.mpr heavy) nonneg
    have new_nonneg := mul_nonneg light part_nonneg
    constructor <;> linarith
  · exact ⟨nonneg, le⟩

theorem Rated.next (rated : Rated since w) (weight : 0 ≤ cfg.ceNewWeight ∧ cfg.ceNewWeight ≤ 1) :
    Rated (if due then 0 else since + 1) (w.next cfg minSrpb srpb marked due (since + 1)) where
  ratio_nonneg := (ratio_bounds weight rated).1
  ratio_le := (ratio_bounds weight rated).2
  marked := by
    unfold Window.next
    dsimp only
    split
    · exact le_refl _
    · exact marked_le rated

theorem Ok.next (ok : Ok cfg minSrpb since w) (weight : 0 ≤ cfg.ceNewWeight ∧ cfg.ceNewWeight ≤ 1)
    (room : minSrpb ≤ cfg.maxSrpb) :
    Ok cfg minSrpb (if due then 0 else since + 1) (w.next cfg minSrpb srpb marked due (since + 1)) where
  low := le_min (le_max_left _ _) room
  high := min_le_right _ _
  ratio_nonneg := (ok.rated.next weight).ratio_nonneg
  ratio_le := (ok.rated.next weight).ratio_le
  marked := (ok.rated.next weight).marked

/-- The packet adds less than a byte more than it takes, or the window is full. -/
def Held (cfg : Config) (minSrpb srpb : ℤ) (marked due : Bool) (since : ℕ) (w : Window) : Prop :=
  cfg.maxSrpb ≤ w.maxSrpbBytes ∨ minSrpb ≤ w.maxSrpbBytes ∧
    if 0 ≤ w.maxSrpbBytes then gain cfg srpb < w.cut cfg marked due since + 1
    else gain cfg srpb ≤ w.cut cfg marked due since

theorem next_le_iff : (w.next cfg minSrpb srpb marked due since).maxSrpbBytes ≤ w.maxSrpbBytes ↔
    w.Held cfg minSrpb srpb marked due since := by
  unfold next Held
  dsimp only
  rw [min_le_iff, max_le_iff, truncInt_add_le_iff, or_comm]
  split
  · rw [sub_lt_iff_lt_add']
  · rw [sub_nonpos]

end Window

namespace SenderState

variable (cfg : Config) (p : Packet) (stamp : Stamp) (st : SenderState)

def due : Bool := st.pktsSinceLastRatioUpdate + 1 == st.pktsAtNextRatioUpdate

def nwMarked : Bool := decide (cfg.ecnCapable ≠ 0) && p.ect && stamp.ce

def hostMarked : Bool := decide (cfg.ecnCapable ≠ 0) && p.ect && p.hdr.senderMarked

def noticed : SenderState :=
  { st with
    pktsSinceLastRatioUpdate := st.pktsSinceLastRatioUpdate + 1
    nw := st.nw.next cfg cfg.nwMinSrpb st.maxSrpbBytes (nwMarked cfg p stamp) st.due (st.pktsSinceLastRatioUpdate + 1) }

def lifts : Bool := cfg.priorityFlow && p.hdr.priorityFlow && p.hdr.msgType == .request

def budget : ℤ := if lifts cfg p then st.srpbCeiling else min st.nw.maxSrpbBytes st.host.maxSrpbBytes

/-- A state whose windows have moved: its budget, and the next interval when one has ended. -/
def settled (due : Bool) : SenderState :=
  { st with
    maxSrpbBytes := st.budget cfg p
    pktsSinceLastRatioUpdate := if due then 0 else st.pktsSinceLastRatioUpdate
    pktsAtNextRatioUpdate :=
      if due then toUInt32 (truncInt ((st.budget cfg p : ℚ) / maxEthernetFrameOnWire)) else st.pktsAtNextRatioUpdate }

theorem update_eq : st.update cfg p stamp =
    if cfg.ecnCapable ≠ 0 ∧ st.maxSrpbBytes = 0 then .error (.undefined .updateNwState "division by max_srpb_bytes_")
    else do
      let st2 ← (st.noticed cfg p stamp).updateSnState cfg p stamp
      return st2.settled cfg p st.due := by
  unfold update updateNwState
  simp only [Window.update_eq]
  split
  · rfl
  · simp only [Lib.ok_bind, pure_bind]
    refine congrArg _ ?_
    funext st2
    unfold settled budget lifts due updateRatios
    split <;> simp_all

def Dctcp (cfg : Config) : Prop :=
  cfg.senderAlgo = 0 ∨ cfg.senderAlgo = 1 ∨ cfg.senderAlgo = 2 ∨ cfg.senderAlgo = 3

instance (cfg : Config) : Decidable (Dctcp cfg) := by unfold Dctcp; infer_instance

theorem updateSnState_dctcp (dctcp : Dctcp cfg) : st.updateSnState cfg p stamp =
    if cfg.ecnCapable ≠ 0 ∧ st.maxSrpbBytes = 0 then .error (.undefined .updateSnState "division by max_srpb_bytes_")
    else if cfg.senderAlgo = 2 ∨ cfg.senderAlgo = 3 then .error (.thrown .updateSnState "Correcntess not checked")
    else .ok { st with
      host := st.host.next cfg cfg.hostMinSrpb st.maxSrpbBytes (hostMarked cfg p) st.updateRatios
        st.pktsSinceLastRatioUpdate } := by
  unfold updateSnState
  simp only [if_pos (show cfg.senderAlgo = 0 ∨ _ from dctcp), Window.update_eq]
  by_cases divides : cfg.ecnCapable ≠ 0 ∧ st.maxSrpbBytes = 0
  · rw [if_pos divides, if_pos divides]
    rfl
  · rw [if_neg divides, if_neg divides, Lib.ok_bind]
    split <;> rfl

variable {cfg p stamp st} {st' : SenderState}

theorem updateSnState_rest (run : st.updateSnState cfg p stamp = .ok st') :
    st'.nw = st.nw ∧ st'.srpbCeiling = st.srpbCeiling ∧ st'.pktsSinceLastRatioUpdate = st.pktsSinceLastRatioUpdate ∧
      st'.pktsAtNextRatioUpdate = st.pktsAtNextRatioUpdate := by
  unfold updateSnState at run
  split at run
  · simp only [Lib.bind_eq_ok] at run
    obtain ⟨host, -, run⟩ := run
    split at run
    · cases run
    · cases run
      exact ⟨rfl, rfl, rfl, rfl⟩
  · split at run
    · unfold updateMultiBit assert at run
      simp only [Lib.bind_eq_ok, Lib.require_eq_ok, Lib.pure_eq_ok, exists_and_left, exists_const] at run
      obtain ⟨-, -, -, rfl⟩ := run
      exact ⟨rfl, rfl, rfl, rfl⟩
    · cases run

theorem update_ok (run : st.update cfg p stamp = .ok st') :
    ¬ (cfg.ecnCapable ≠ 0 ∧ st.maxSrpbBytes = 0) ∧
      ∃ st2, (st.noticed cfg p stamp).updateSnState cfg p stamp = .ok st2 ∧ st' = st2.settled cfg p st.due := by
  rw [update_eq] at run
  split at run
  · cases run
  · next divides =>
    simp only [Lib.bind_eq_ok, Lib.pure_eq_ok] at run
    obtain ⟨st2, moved, rfl⟩ := run
    exact ⟨divides, st2, moved, rfl⟩

theorem nw_update (run : st.update cfg p stamp = .ok st') : st'.nw =
    st.nw.next cfg cfg.nwMinSrpb st.maxSrpbBytes (nwMarked cfg p stamp) st.due (st.pktsSinceLastRatioUpdate + 1) := by
  obtain ⟨-, st2, moved, rfl⟩ := update_ok run
  exact (updateSnState_rest moved).1

def marked (cfg : Config) (p : Packet) (stamp : Stamp) (st : SenderState) : SenderState :=
  { st.noticed cfg p stamp with
    host := st.host.next cfg cfg.hostMinSrpb st.maxSrpbBytes (hostMarked cfg p) st.due
      (st.pktsSinceLastRatioUpdate + 1) }

theorem update_dctcp (dctcp : Dctcp cfg) (run : st.update cfg p stamp = .ok st') :
    st' = (st.marked cfg p stamp).settled cfg p st.due := by
  obtain ⟨divides, st2, moved, rfl⟩ := update_ok run
  have moves := (updateSnState_dctcp cfg p stamp (st.noticed cfg p stamp) dctcp).trans (if_neg divides)
  rw [moves] at moved
  split at moved
  · cases moved
  · rw [← Except.ok.inj moved]
    rfl

/-- The states that packets lead to from a sender's first one, when each meets a
condition; what data and GRANTs do to the budget comes in between. -/
inductive Reach (cfg : Config) (cond : SenderState → Packet → Stamp → Prop) : SenderState → Prop
  | new (senderAddr : Addr) : Reach cfg cond (.new senderAddr cfg.maxSrpb)
  | update {st st' : SenderState} {p : Packet} {stamp : Stamp} : Reach cfg cond st → cond st p stamp →
      st.update cfg p stamp = .ok st' → Reach cfg cond st'
  | credit {st : SenderState} (srpbBytes : ℤ) : Reach cfg cond st → Reach cfg cond { st with srpbBytes }

def anyPacket : SenderState → Packet → Stamp → Prop := fun _ _ _ => True

def updates (cfg : Config) (st : SenderState) (packets : List (Packet × Stamp)) : Checked SenderState :=
  packets.foldlM (fun st packet => st.update cfg packet.1 packet.2) st

theorem Reach.updates {cond : SenderState → Packet → Stamp → Prop} {packets : List (Packet × Stamp)}
    (reach : Reach cfg cond st) (allowed : ∀ packet ∈ packets, ∀ st, cond st packet.1 packet.2)
    (run : st.updates cfg packets = .ok st') : Reach cfg cond st' := by
  induction packets generalizing st with
  | nil =>
    cases run
    exact reach
  | cons packet rest ih =>
    obtain ⟨first, others⟩ := List.forall_mem_cons.mp allowed
    unfold SenderState.updates at run
    rw [List.foldlM_cons, Lib.bind_eq_ok] at run
    obtain ⟨st1, updated, run⟩ := run
    exact ih (reach.update (first st) updated) others run

/-- A marked packet leaves a window no larger exactly when what it adds, which
marks do not prevent, is held by what it takes. -/
theorem marked_window_le_iff (capable : cfg.ecnCapable ≠ 0) (dctcp : Dctcp cfg)
    (run : st.update cfg p stamp = .ok st') :
    (p.ect = true ∧ stamp.ce = true → (st'.nw.maxSrpbBytes ≤ st.nw.maxSrpbBytes ↔
      st.nw.Held cfg cfg.nwMinSrpb st.maxSrpbBytes true st.due (st.pktsSinceLastRatioUpdate + 1))) ∧
    (p.ect = true ∧ p.hdr.senderMarked = true → (st'.host.maxSrpbBytes ≤ st.host.maxSrpbBytes ↔
      st.host.Held cfg cfg.hostMinSrpb st.maxSrpbBytes true st.due (st.pktsSinceLastRatioUpdate + 1))) := by
  rw [update_dctcp dctcp run]
  constructor
  · rintro ⟨ect, ce⟩
    have mark : nwMarked cfg p stamp = true := by simp [nwMarked, capable, ect, ce]
    rw [← Window.next_le_iff, ← mark]
    rfl
  · rintro ⟨ect, senderMarked⟩
    have mark : hostMarked cfg p = true := by simp [hostMarked, capable, ect, senderMarked]
    rw [← Window.next_le_iff, ← mark]
    rfl

def shrinking : Config :=
  { Config.small 15380 (-1) 0 3 0 tenFrames_set allUnsolicited_set with
    ecnMinMul := 1 / 10
    ecnMinMulNw := 1 / 10
    ecnMinMulNw_pos := by norm_num }

/-- A full frame of a request, with or without the mark of its sender. -/
def frame (senderMarked : Bool) : Packet :=
  { hdr := { msgType := .request, senderMarked }, src := 1, dst := 0, size := 1538, padding := 0, flowid := 0, prio := 0
    ect := true, seqno := 0 }

theorem marked_window_le_first : ∃ st', (SenderState.new 1 15380).update shrinking (frame true)
    { ce := true } = .ok st' ∧
    st'.nw.maxSrpbBytes ≤ 15380 ∧ st'.host.maxSrpbBytes ≤ 15380 := by
  have run : (SenderState.new 1 15380).update shrinking (frame true) { ce := true } =
      .ok (((SenderState.new 1 15380).marked shrinking (frame true) { ce := true }).settled shrinking
        (frame true) true) := by
    decide +kernel
  obtain ⟨nw, host⟩ := marked_window_le_iff (by decide) (by decide) run
  exact ⟨_, run, (nw ⟨rfl, rfl⟩).mpr (Or.inl (by decide)), (host ⟨rfl, rfl⟩).mpr (Or.inl (by decide))⟩

/-- Ten marked packets shrink the windows; after one without a mark, the packet
that opens the next burst, marked by both, enlarges both. -/
theorem marked_window_grows : ¬ ∀ (cfg : Config) (st st' : SenderState) (p : Packet) (stamp : Stamp),
    cfg.ecnCapable ≠ 0 → Dctcp cfg → Reach cfg anyPacket st → st.update cfg p stamp = .ok st' →
      (p.ect = true ∧ stamp.ce = true → st'.nw.maxSrpbBytes ≤ st.nw.maxSrpbBytes) ∧
      (p.ect = true ∧ p.hdr.senderMarked = true → st'.host.maxSrpbBytes ≤ st.host.maxSrpbBytes) := by
  intro holds
  have ran : (do
      let st ← (SenderState.new 1 15380).updates shrinking
        (List.replicate 10 (frame true, { ce := true }) ++ [(frame false, { ce := false })])
      let st' ← st.update shrinking (frame true) { ce := true }
      return (st.nw.maxSrpbBytes, st'.nw.maxSrpbBytes)) = (.ok (14924, 15082) : Checked (ℤ × ℤ)) := by decide +kernel
  simp only [Lib.bind_eq_ok, Lib.pure_eq_ok, Prod.mk.injEq] at ran
  obtain ⟨st, before, st', run, old, new⟩ := ran
  have reach : Reach shrinking anyPacket st := (Reach.new 1).updates (fun _ _ _ => trivial) before
  have le := (holds shrinking st st' (frame true) { ce := true } (by decide) (by decide) reach run).1 ⟨rfl, rfl⟩
  rw [old, new] at le
  exact absurd le (by decide)

structure Bounded (cfg : Config) (st : SenderState) : Prop where
  nw : st.nw.Ok cfg cfg.nwMinSrpb st.pktsSinceLastRatioUpdate
  host : st.host.Ok cfg cfg.hostMinSrpb st.pktsSinceLastRatioUpdate
  pos : 0 < st.maxSrpbBytes
  ceiling : st.maxSrpbBytes ≤ st.srpbCeiling
  fixed : st.srpbCeiling = cfg.maxSrpb

/-- Minimums that are positive and leave room, and an average that weighs. -/
structure Sound (cfg : Config) : Prop where
  nw_pos : 0 < cfg.nwMinSrpb
  nw_room : cfg.nwMinSrpb ≤ cfg.maxSrpb
  host_pos : 0 < cfg.hostMinSrpb
  host_room : cfg.hostMinSrpb ≤ cfg.maxSrpb
  weight : 0 ≤ cfg.ceNewWeight ∧ cfg.ceNewWeight ≤ 1

theorem Bounded.new (sound : Sound cfg) (senderAddr : Addr) : Bounded cfg (.new senderAddr cfg.maxSrpb) where
  nw := ⟨sound.nw_room, le_rfl, le_rfl, zero_le_one, le_rfl⟩
  host := ⟨sound.host_room, le_rfl, le_rfl, zero_le_one, le_rfl⟩
  pos := sound.nw_pos.trans_le sound.nw_room
  ceiling := le_rfl
  fixed := rfl

theorem budget_bounds (sound : Sound cfg) (nw : cfg.nwMinSrpb ≤ st.nw.maxSrpbBytes ∧ st.nw.maxSrpbBytes ≤ cfg.maxSrpb)
    (host : cfg.hostMinSrpb ≤ st.host.maxSrpbBytes) (fixed : st.srpbCeiling = cfg.maxSrpb) :
    0 < st.budget cfg p ∧ st.budget cfg p ≤ cfg.maxSrpb := by
  have := sound.nw_pos
  have := sound.nw_room
  have := sound.host_pos
  unfold budget
  split <;> omega

theorem Bounded.update (sound : Sound cfg) (dctcp : Dctcp cfg) (bounded : Bounded cfg st)
    (run : st.update cfg p stamp = .ok st') : Bounded cfg st' := by
  rw [update_dctcp dctcp run]
  have nw : ((st.marked cfg p stamp).settled cfg p st.due).nw.Ok cfg cfg.nwMinSrpb
      ((st.marked cfg p stamp).settled cfg p st.due).pktsSinceLastRatioUpdate :=
        bounded.nw.next sound.weight sound.nw_room
  have host : ((st.marked cfg p stamp).settled cfg p st.due).host.Ok cfg cfg.hostMinSrpb
      ((st.marked cfg p stamp).settled cfg p st.due).pktsSinceLastRatioUpdate :=
    bounded.host.next sound.weight sound.host_room
  have within : 0 < (st.marked cfg p stamp).budget cfg p ∧ (st.marked cfg p stamp).budget cfg p ≤ cfg.maxSrpb :=
    budget_bounds sound ⟨nw.low, nw.high⟩ host.low bounded.fixed
  obtain ⟨pos, ceiling⟩ := within
  exact ⟨nw, host, pos, ceiling.trans_eq bounded.fixed.symm, bounded.fixed⟩

theorem Reach.bounded {cond : SenderState → Packet → Stamp → Prop} (sound : Sound cfg) (dctcp : Dctcp cfg)
    (reach : Reach cfg cond st) : Bounded cfg st := by
  -- each kind of step keeps the bounds; their work is in `Bounded.update`
  induction reach with
  | new senderAddr => exact .new sound senderAddr
  | update _ _ run ih => exact ih.update sound dctcp run
  | credit srpbBytes _ ih => exact ⟨ih.nw, ih.host, ih.pos, ih.ceiling, ih.fixed⟩

/-- The marked ratios of both windows, whatever the sender algorithm: the
multi-bit one leaves the sender's as it was first. -/
structure Rated (cfg : Config) (st : SenderState) : Prop where
  nw : st.nw.Rated st.pktsSinceLastRatioUpdate
  host : if Dctcp cfg then st.host.Rated st.pktsSinceLastRatioUpdate else st.host.markedRatio = 0

theorem updateSnState_unmarked (other : ¬ Dctcp cfg) (run : st.updateSnState cfg p stamp = .ok st') :
    st'.host.markedRatio = st.host.markedRatio := by
  unfold updateSnState at run
  rw [if_neg (show ¬ (cfg.senderAlgo = 0 ∨ _) from other)] at run
  split at run
  · unfold updateMultiBit assert at run
    simp only [Lib.bind_eq_ok, Lib.require_eq_ok, Lib.pure_eq_ok, exists_and_left, exists_const] at run
    obtain ⟨-, -, -, rfl⟩ := run
    rfl
  · cases run

theorem Rated.update (weight : 0 ≤ cfg.ceNewWeight ∧ cfg.ceNewWeight ≤ 1) (rated : Rated cfg st)
    (run : st.update cfg p stamp = .ok st') : Rated cfg st' := by
  obtain ⟨-, st2, moved, settles⟩ := update_ok run
  have since : st'.pktsSinceLastRatioUpdate = if st.due then 0 else st.pktsSinceLastRatioUpdate + 1 := by
    rw [settles]
    unfold settled
    dsimp only
    rw [(updateSnState_rest moved).2.2.1]
    rfl
  constructor
  · rw [nw_update run, since]
    exact rated.nw.next weight
  · have host := rated.host
    by_cases dctcp : Dctcp cfg
    · rw [if_pos dctcp] at host ⊢
      rw [since, update_dctcp dctcp run]
      exact host.next weight
    · rw [if_neg dctcp] at host ⊢
      have kept := updateSnState_unmarked dctcp moved
      rw [settles]
      exact kept.trans host

theorem Reach.rated {cond : SenderState → Packet → Stamp → Prop} (weight : 0 ≤ cfg.ceNewWeight ∧ cfg.ceNewWeight ≤ 1)
    (reach : Reach cfg cond st) : Rated cfg st := by
  induction reach with
  | new senderAddr =>
    refine ⟨⟨le_rfl, zero_le_one, le_rfl⟩, ?_⟩
    split
    · exact ⟨le_rfl, zero_le_one, le_rfl⟩
    · rfl
  | update _ _ run ih => exact ih.update weight run
  | credit srpbBytes _ ih => exact ⟨ih.nw, ih.host⟩

theorem Rated.host_bounds (rated : Rated cfg st) : 0 ≤ st.host.markedRatio ∧ st.host.markedRatio ≤ 1 := by
  have host := rated.host
  split at host
  · exact ⟨host.ratio_nonneg, host.ratio_le⟩
  · rw [host]
    exact ⟨le_rfl, zero_le_one⟩

theorem update_defined (dctcp : Dctcp cfg) (pos : 0 < st.maxSrpbBytes) (site : Site) (text : String) :
    st.update cfg p stamp ≠ .error (.undefined site text) := by
  have divides : ¬ (cfg.ecnCapable ≠ 0 ∧ st.maxSrpbBytes = 0) := by omega
  have moves := (updateSnState_dctcp cfg p stamp (st.noticed cfg p stamp) dctcp).trans (if_neg divides)
  rw [update_eq, if_neg divides, moves]
  intro stops
  split at stops
  · cases stops
  · cases stops

/-- Windows, budget, ratios and counters stay in their bounds, and nothing is divided by zero. -/
theorem windows_bounded (nwPos : 0 < cfg.nwMinSrpb) (nwRoom : cfg.nwMinSrpb ≤ cfg.maxSrpb)
    (hostPos : 0 < cfg.hostMinSrpb)
    (hostRoom : cfg.hostMinSrpb ≤ cfg.maxSrpb) (weight : 0 ≤ cfg.ceNewWeight ∧ cfg.ceNewWeight ≤ 1) (dctcp : Dctcp cfg)
    (reach : Reach cfg anyPacket st) :
    (cfg.nwMinSrpb ≤ st.nw.maxSrpbBytes ∧ st.nw.maxSrpbBytes ≤ cfg.maxSrpb) ∧
      (cfg.hostMinSrpb ≤ st.host.maxSrpbBytes ∧ st.host.maxSrpbBytes ≤ cfg.maxSrpb) ∧
      (0 < st.maxSrpbBytes ∧ st.maxSrpbBytes ≤ st.srpbCeiling) ∧
      (0 ≤ st.nw.markedRatio ∧ st.nw.markedRatio ≤ 1) ∧ (0 ≤ st.host.markedRatio ∧ st.host.markedRatio ≤ 1) ∧
      st.nw.pktsMarkedSinceLastRatioUpdate ≤ st.pktsSinceLastRatioUpdate ∧
      st.host.pktsMarkedSinceLastRatioUpdate ≤ st.pktsSinceLastRatioUpdate ∧
      ∀ p stamp site text, st.update cfg p stamp ≠ .error (.undefined site text) := by
  have bounded := reach.bounded ⟨nwPos, nwRoom, hostPos, hostRoom, weight⟩ dctcp
  exact ⟨⟨bounded.nw.low, bounded.nw.high⟩, ⟨bounded.host.low, bounded.host.high⟩, ⟨bounded.pos, bounded.ceiling⟩,
    ⟨bounded.nw.ratio_nonneg, bounded.nw.ratio_le⟩, ⟨bounded.host.ratio_nonneg, bounded.host.ratio_le⟩,
    bounded.nw.marked, bounded.host.marked, fun _ _ => update_defined dctcp bounded.pos⟩

/-- The windows of ten marked packets, and of the packet behind them. -/
theorem windows_bounded_shrinking : ∃ st, Reach shrinking anyPacket st ∧ st.nw.maxSrpbBytes = 14764 ∧
    0 < st.maxSrpbBytes ∧ st.nw.markedRatio ≤ 1 ∧
    ∀ p stamp site text, st.update shrinking p stamp ≠ .error (.undefined site text) := by
  have ran : (do
      let st ← (SenderState.new 1 15380).updates shrinking (List.replicate 10 (frame true, { ce := true }))
      return st.nw.maxSrpbBytes) = (.ok 14764 : Checked ℤ) := by decide +kernel
  simp only [Lib.bind_eq_ok, Lib.pure_eq_ok] at ran
  obtain ⟨st, run, window⟩ := ran
  have reach : Reach shrinking anyPacket st := (Reach.new 1).updates (fun _ _ _ => trivial) run
  obtain ⟨-, -, ⟨pos, -⟩, ⟨-, ratio⟩, -, -, -, defined⟩ := windows_bounded (by decide +kernel) (by decide +kernel)
    (by decide +kernel) (by decide +kernel) (by decide +kernel) (by decide) reach
  exact ⟨st, reach, window, pos, ratio, defined⟩

end SenderState

end PhantomPass
