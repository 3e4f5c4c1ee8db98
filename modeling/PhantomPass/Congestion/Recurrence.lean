import PhantomPass.Congestion.MultiBit

/-! The intervals of the marked ratios: each ends with the packet that meets a
target, and sets the next one from the budget. A target of zero is never met. -/

set_option autoImplicit false

namespace PhantomPass

namespace SenderState

variable (cfg : Config) (p : Packet) (stamp : Stamp) (st : SenderState)

structure Recurs : Prop where
  target : 1 ≤ st.pktsAtNextRatioUpdate
  ahead : st.pktsSinceLastRatioUpdate < st.pktsAtNextRatioUpdate

/-- What the network's window moves to, before it is rounded and bounded. -/
def nwAsks : ℚ :=
  st.nw.maxSrpbBytes + (Window.gain cfg st.maxSrpbBytes -
    st.nw.cut cfg (nwMarked cfg p stamp) st.due (st.pktsSinceLastRatioUpdate + 1))

/-- What the sender's window moves to, before it is rounded and bounded. -/
def hostAsks : ℚ :=
  if Dctcp cfg then
    st.host.maxSrpbBytes + (Window.gain cfg st.maxSrpbBytes -
      st.host.cut cfg (hostMarked cfg p) st.due (st.pktsSinceLastRatioUpdate + 1))
  else st.target cfg p stamp

/-- A packet that ends an interval leaves windows of a full frame. -/
def LeavesFrame : Prop :=
  st.due = true → (maxEthernetFrameOnWire : ℤ) ≤ cfg.maxSrpb ∧ (lifts cfg p = false →
    ((maxEthernetFrameOnWire : ℤ) ≤ cfg.nwMinSrpb ∨ (maxEthernetFrameOnWire : ℚ) ≤ st.nwAsks cfg p stamp) ∧
    ((maxEthernetFrameOnWire : ℤ) ≤ cfg.hostMinSrpb ∨ (maxEthernetFrameOnWire : ℚ) ≤ st.hostAsks cfg p stamp))

variable {cfg p stamp st} {st' : SenderState}

theorem frame_le_clamp_iff {minSrpb maxSrpb : ℤ} (q : ℚ) :
    (maxEthernetFrameOnWire : ℤ) ≤ min (max minSrpb (truncInt q)) maxSrpb ↔
      (maxEthernetFrameOnWire : ℤ) ≤ maxSrpb ∧
        ((maxEthernetFrameOnWire : ℤ) ≤ minSrpb ∨ (maxEthernetFrameOnWire : ℚ) ≤ q) := by
  have frame : (0 : ℤ) < maxEthernetFrameOnWire := by decide
  rw [le_min_iff, le_max_iff, le_truncInt_iff frame, and_comm]
  norm_cast

/-- A state whose windows have both moved, under any algorithm. -/
structure Moved (cfg : Config) (p : Packet) (stamp : Stamp) (st st2 : SenderState) : Prop where
  nw : st2.nw.maxSrpbBytes = min (max cfg.nwMinSrpb (truncInt (st.nwAsks cfg p stamp))) cfg.maxSrpb
  host : st2.host.maxSrpbBytes = min (max cfg.hostMinSrpb (truncInt (st.hostAsks cfg p stamp))) cfg.maxSrpb
  ceiling : st2.srpbCeiling = st.srpbCeiling
  since : st2.pktsSinceLastRatioUpdate = st.pktsSinceLastRatioUpdate + 1
  target : st2.pktsAtNextRatioUpdate = st.pktsAtNextRatioUpdate

theorem update_moved (run : st.update cfg p stamp = .ok st') : ∃ st2, Moved cfg p stamp st st2 ∧
    st' = st2.settled cfg p st.due := by
  by_cases dctcp : Dctcp cfg
  · refine ⟨st.marked cfg p stamp, ⟨rfl, ?_, rfl, rfl, rfl⟩, update_dctcp dctcp run⟩
    unfold hostAsks
    rw [if_pos dctcp]
    rfl
  · have multiBit := (algo_of_update run).resolve_left dctcp
    refine ⟨(st.noticed cfg p stamp).reported cfg p stamp, ⟨rfl, ?_, rfl, rfl, rfl⟩, (update_multiBit multiBit run).2⟩
    unfold hostAsks
    rw [if_neg dctcp]
    rfl

section Budget

variable {st2 : SenderState} (nwPos : 0 < cfg.nwMinSrpb) (hostPos : 0 < cfg.hostMinSrpb)
  (ceiling : st.srpbCeiling = cfg.maxSrpb) (moved : Moved cfg p stamp st st2)

include nwPos

theorem maxSrpb_pos : 0 < cfg.maxSrpb := by
  by_contra nonpos
  have wide : (cfg.maxSrpb : ℚ) ≤ 0 := by exact_mod_cast not_lt.mp nonpos
  have product : cfg.ecnMinMulNw * cfg.maxSrpb ≤ 0 := mul_nonpos_of_nonneg_of_nonpos cfg.ecnMinMulNw_pos.le wide
  exact absurd nwPos (not_lt.mpr (truncInt_nonpos product))

include hostPos ceiling moved

theorem Moved.budget_pos : 0 < st2.budget cfg p := by
  have room := maxSrpb_pos nwPos
  have nw : 0 < st2.nw.maxSrpbBytes := by rw [moved.nw]; exact lt_min (nwPos.trans_le (le_max_left _ _)) room
  have host : 0 < st2.host.maxSrpbBytes := by rw [moved.host]; exact lt_min (hostPos.trans_le (le_max_left _ _)) room
  unfold budget
  split
  · rw [moved.ceiling, ceiling]
    exact room
  · exact lt_min nw host

omit nwPos hostPos in
theorem Moved.frame_le_budget_iff : (maxEthernetFrameOnWire : ℤ) ≤ st2.budget cfg p ↔
    (maxEthernetFrameOnWire : ℤ) ≤ cfg.maxSrpb ∧ (lifts cfg p = false →
      ((maxEthernetFrameOnWire : ℤ) ≤ cfg.nwMinSrpb ∨ (maxEthernetFrameOnWire : ℚ) ≤ st.nwAsks cfg p stamp) ∧
      ((maxEthernetFrameOnWire : ℤ) ≤ cfg.hostMinSrpb ∨ (maxEthernetFrameOnWire : ℚ) ≤ st.hostAsks cfg p stamp)) := by
  unfold budget
  cases lifted : lifts cfg p with
  | true =>
    rw [if_pos rfl, moved.ceiling, ceiling]
    simp
  | false =>
    rw [if_neg Bool.false_ne_true, le_min_iff, moved.nw, moved.host, frame_le_clamp_iff, frame_le_clamp_iff]
    tauto

end Budget

theorem toUInt32_frames {budget : ℤ} (pos : 0 < budget) :
    toUInt32 (truncInt ((budget : ℚ) / maxEthernetFrameOnWire)) = (budget / maxEthernetFrameOnWire).toNat := by
  have wide : (0 : ℚ) ≤ (budget : ℚ) / maxEthernetFrameOnWire :=
    div_nonneg (by exact_mod_cast pos.le) (Nat.cast_nonneg _)
  have floor : ⌊(budget : ℚ) / maxEthernetFrameOnWire⌋ = budget / maxEthernetFrameOnWire :=
    Rat.floor_intCast_div_natCast budget maxEthernetFrameOnWire
  unfold toUInt32
  rw [if_pos (truncInt_nonneg wide), truncInt_of_nonneg wide, floor]

section Step

variable (nwPos : 0 < cfg.nwMinSrpb) (hostPos : 0 < cfg.hostMinSrpb) (ceiling : st.srpbCeiling = cfg.maxSrpb)

include ceiling in
theorem ceiling_update (run : st.update cfg p stamp = .ok st') : st'.srpbCeiling = cfg.maxSrpb := by
  obtain ⟨st2, moved, rfl⟩ := update_moved run
  exact moved.ceiling.trans ceiling

include nwPos hostPos ceiling

theorem recurs_update_iff (recurs : Recurs st) (run : st.update cfg p stamp = .ok st') :
    Recurs st' ↔ LeavesFrame cfg p stamp st := by
  obtain ⟨st2, moved, rfl⟩ := update_moved run
  have pos := moved.budget_pos nwPos hostPos ceiling
  unfold LeavesFrame
  rw [← moved.frame_le_budget_iff ceiling]
  cases due : st.due with
  | true =>
    have target : (st2.settled cfg p true).pktsAtNextRatioUpdate = (st2.budget cfg p / maxEthernetFrameOnWire).toNat :=
      toUInt32_frames pos
    have since : (st2.settled cfg p true).pktsSinceLastRatioUpdate = 0 := rfl
    have frames : 1 ≤ (st2.settled cfg p true).pktsAtNextRatioUpdate ↔ (maxEthernetFrameOnWire : ℤ) ≤
      st2.budget cfg p := by
      rw [target]
      unfold maxEthernetFrameOnWire
      omega
    constructor
    · exact fun next _ => frames.mp next.target
    · intro leaves
      have one := frames.mpr (leaves rfl)
      exact ⟨one, since.trans_lt one⟩
  | false =>
    refine iff_of_true ⟨?_, ?_⟩ (fun never => absurd never Bool.false_ne_true)
    · exact recurs.target.trans_eq moved.target.symm
    · change st2.pktsSinceLastRatioUpdate < st2.pktsAtNextRatioUpdate
      have ahead := recurs.ahead
      have open_ : st.pktsSinceLastRatioUpdate + 1 ≠ st.pktsAtNextRatioUpdate := by
        intro meets
        have ends : st.due = true := beq_iff_eq.mpr meets
        rw [ends] at due
        cases due
      rw [moved.since, moved.target]
      omega

theorem frames_update (short : (st.pktsAtNextRatioUpdate * maxEthernetFrameOnWire : ℤ) ≤
    max (maxEthernetFrameOnWire : ℤ) cfg.maxSrpb) (run : st.update cfg p stamp = .ok st') :
    (st'.pktsAtNextRatioUpdate * maxEthernetFrameOnWire : ℤ) ≤ max (maxEthernetFrameOnWire : ℤ) cfg.maxSrpb := by
  obtain ⟨st2, moved, rfl⟩ := update_moved run
  cases due : st.due with
  | true =>
    have pos := moved.budget_pos nwPos hostPos ceiling
    have top : st2.budget cfg p ≤ cfg.maxSrpb := by
      unfold budget
      split
      · exact (moved.ceiling.trans ceiling).le
      · exact (min_le_left _ _).trans (moved.nw.trans_le (min_le_right _ _))
    have target : (st2.settled cfg p true).pktsAtNextRatioUpdate = (st2.budget cfg p / maxEthernetFrameOnWire).toNat :=
      toUInt32_frames pos
    rw [target]
    unfold maxEthernetFrameOnWire at *
    omega
  | false => exact (congrArg (fun n : ℕ => (n * maxEthernetFrameOnWire : ℤ)) moved.target).trans_le short

end Step

theorem Reach.any {cond : SenderState → Packet → Stamp → Prop} (reach : Reach cfg cond st) :
    Reach cfg anyPacket st := by
  induction reach with
  | new senderAddr => exact .new senderAddr
  | update _ _ run ih => exact ih.update trivial run
  | credit srpbBytes _ ih => exact ih.credit srpbBytes

theorem Reach.ceiling {cond : SenderState → Packet → Stamp → Prop} (reach : Reach cfg cond st) :
    st.srpbCeiling = cfg.maxSrpb := by
  induction reach with
  | new senderAddr => rfl
  | update _ _ run ih => exact ceiling_update ih run
  | credit srpbBytes _ ih => exact ih

theorem Reach.frame_le_budget {cond : SenderState → Packet → Stamp → Prop}
    (room : (maxEthernetFrameOnWire : ℤ) ≤ cfg.maxSrpb)
    (nw : (maxEthernetFrameOnWire : ℤ) ≤ cfg.nwMinSrpb) (host : (maxEthernetFrameOnWire : ℤ) ≤ cfg.hostMinSrpb)
    (reach : Reach cfg cond st) : (maxEthernetFrameOnWire : ℤ) ≤ st.maxSrpbBytes := by
  induction reach with
  | new senderAddr => exact room
  | update before _ run _ =>
    obtain ⟨st2, moved, rfl⟩ := update_moved run
    exact (moved.frame_le_budget_iff before.ceiling).mpr ⟨room, fun _ => ⟨Or.inl nw, Or.inl host⟩⟩
  | credit srpbBytes _ ih => exact ih

theorem due_updates {packets : List (Packet × Stamp)}
    (lacks : st.pktsSinceLastRatioUpdate + packets.length + 1 = st.pktsAtNextRatioUpdate)
    (run : st.updates cfg packets = .ok st') : st'.due = true := by
  -- each packet counts one, and only the last one reaches the number to wait for
  induction packets generalizing st with
  | nil =>
    cases run
    exact beq_iff_eq.mpr lacks
  | cons packet rest ih =>
    rw [List.length_cons] at lacks
    unfold updates at run
    rw [List.foldlM_cons, Lib.bind_eq_ok] at run
    obtain ⟨st1, updated, run⟩ := run
    obtain ⟨st2, moved, rfl⟩ := update_moved updated
    have open_ : st.due = false := by
      unfold due
      rw [beq_eq_false_iff_ne]
      omega
    rw [open_] at run
    refine ih ?_ run
    change st2.pktsSinceLastRatioUpdate + rest.length + 1 = st2.pktsAtNextRatioUpdate
    rw [moved.since, moved.target]
    omega

/-- Intervals go on for ever behind packets that leave a frame, each no longer
than a window of packets; a packet that does not leave one ends the last. -/
theorem ratio_updates_recur (nwPos : 0 < cfg.nwMinSrpb) (hostPos : 0 < cfg.hostMinSrpb) :
    (∀ st, Reach cfg (fun st p stamp => LeavesFrame cfg p stamp st) st → Recurs st ∧
      (st.pktsAtNextRatioUpdate * maxEthernetFrameOnWire : ℤ) ≤ max (maxEthernetFrameOnWire : ℤ) cfg.maxSrpb ∧
      ∀ packets st', st.pktsSinceLastRatioUpdate + packets.length + 1 = st.pktsAtNextRatioUpdate →
        st.updates cfg packets = .ok st' → st'.due = true) ∧
    ∀ st p stamp st', Reach cfg anyPacket st → Recurs st → st.update cfg p stamp = .ok st' →
      (Recurs st' ↔ LeavesFrame cfg p stamp st) := by
  constructor
  · intro st reach
    have intervals : Recurs st ∧
        (st.pktsAtNextRatioUpdate * maxEthernetFrameOnWire : ℤ) ≤ max (maxEthernetFrameOnWire : ℤ) cfg.maxSrpb := by
      induction reach with
      | new senderAddr => 
        have one : (SenderState.new senderAddr cfg.maxSrpb).pktsAtNextRatioUpdate = 1 := rfl
        exact ⟨⟨le_rfl, Nat.zero_lt_one⟩, by rw [one]; simp⟩
      | update reach leaves run ih =>
        exact ⟨(recurs_update_iff nwPos hostPos reach.ceiling ih.1 run).mpr leaves,
          frames_update nwPos hostPos reach.ceiling ih.2 run⟩
      | credit srpbBytes _ ih => exact ⟨⟨ih.1.target, ih.1.ahead⟩, ih.2⟩
    exact ⟨intervals.1, intervals.2, fun packets st' => due_updates⟩
  · intro st p stamp st' reach recurs run
    exact recurs_update_iff nwPos hostPos reach.ceiling recurs run

def fading : Config :=
  { shrinking with
    ecnMinMulNw := 1 / 100
    ecnMinMulNw_pos := by norm_num
    additiveIncrMul := 0
    additiveIncrMul_set := noIncrease_set
    ceNewWeight := 1 }

theorem ratio_updates_recur_first : ∃ st', (SenderState.new 1 15380).update fading (frame false)
    { ce := true } = .ok st' ∧
    Recurs st' := by
  have run : (SenderState.new 1 15380).update fading (frame false) { ce := true } =
      .ok (((SenderState.new 1 15380).marked fading (frame false) { ce := true }).settled fading
        (frame false) true) := by
    decide +kernel
  have leaves : LeavesFrame fading (frame false) { ce := true } (.new 1 15380) :=
    fun _ => ⟨by decide, fun _ => ⟨Or.inr (by decide +kernel), Or.inl (by decide +kernel)⟩⟩
  have reach : Reach fading anyPacket (.new 1 fading.maxSrpb) := .new 1
  exact ⟨_, run, ((ratio_updates_recur (by decide +kernel) (by decide +kernel)).2 _ _ _ _ reach ⟨le_rfl,
    Nat.zero_lt_one⟩
    run).mpr leaves⟩

/-- Thirty-five marked frames leave a window of 961 bytes, and a target of zero. -/
theorem ratio_updates_stop : ¬ ∀ (cfg : Config) (st : SenderState), 0 < cfg.nwMinSrpb → 0 < cfg.hostMinSrpb →
    Reach cfg anyPacket st → Recurs st := by
  intro holds
  have ran : (do
      let st ← (SenderState.new 1 15380).updates fading (List.replicate 35 (frame false, { ce := true }))
      return st.pktsAtNextRatioUpdate) = (.ok 0 : Checked ℕ) := by decide +kernel
  simp only [Lib.bind_eq_ok, Lib.pure_eq_ok] at ran
  obtain ⟨st, run, stopped⟩ := ran
  have reach : Reach fading anyPacket st := (Reach.new 1).updates (fun _ _ _ => trivial) run
  have recurs := holds fading st (by decide +kernel) (by decide +kernel) reach
  exact absurd (recurs.target.trans_eq stopped) (by decide)

end SenderState

end PhantomPass
