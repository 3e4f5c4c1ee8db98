import PhantomPass.Deployment
import PhantomPass.Policy.Runs

/-! A run that takes the deficits as far as they go: many receivers with one
message each, every one of which falls silent once it is served. -/

set_option autoImplicit false

namespace PhantomPass

open Lib

namespace Sender

variable {env : Env} {s s' s1 s2 : Sender}

/-- A sender with so many receivers, and for each a message of one byte and the credit for it. -/
def crowd (number : ℕ) : Sender where
  outbound :=
    ⟨(List.range number).map fun addr => ⟨0, 0, addr⟩,
      List.nodup_range.map fun a b same => by injection same,
      fun id =>
        { reqId := id, remoteAddr := id.reqId, r2p2Hdr := { msgType := .request }, totalBytes := 1, unsentBytes := 1
          active := true }⟩
  remotes :=
    ⟨List.range number, List.nodup_range,
      fun addr => { rcverAddr := addr, availCreditBytes := minEthernetFrameOnWire, availCreditDataBytes := 1
                    outMsgs := RoundRobin.empty.append ⟨0, 0, addr⟩ }⟩

def served (s : Sender) (addr : Addr) : Sender := s.modifyRcvr addr fun rs => { rs with outMsgs := .empty }

theorem served_between (s : Sender) (addr : Addr) : Between s (s.served addr) where
  known _ member := member
  same _ _ := rfl
  fresh _ member outside := absurd member outside

theorem served_queue (s : Sender) (addr other : Addr) : ((s.served addr).rcvr other).outMsgs =
    if other = addr then .empty else (s.rcvr other).outMsgs := by
  unfold served
  rw [rcvr_modifyRcvr]
  split
  · next same => subst same; rfl
  · rfl

theorem served_affords (s : Sender) (addr other : Addr) (id : UniqReqId) :
    (s.served addr).Affords other id ↔ s.Affords other id := by
  unfold Affords served
  rw [rcvr_modifyRcvr]
  split
  · next same => subst same; rfl
  · rfl

theorem served_ready (s : Sender) (addr : Addr) : (s.served addr).ready = s.ready.erase addr := by
  ext other
  rw [Finset.mem_erase, mem_ready, mem_ready]
  simp only [served_queue, served_affords]
  by_cases same : other = addr
  · subst same
    simp [RoundRobin.empty]
  · simp only [same, not_false_eq_true, true_and, ne_eq]
    rfl

/-- Runs of fair rounds, in which each receiver selected is served. -/
inductive Emptying (env : Env) (number : ℕ) : Sender → Prop
  | start : Emptying env number (crowd number)
  | served {s s1 s2 : Sender} {addr : Addr} : Emptying env number s → s.updatePolicyState env = .ok s1 →
      s1.selectMsgToSend env.plat = .ok (some addr, s2) → Emptying env number (s2.served addr)

theorem crowd_between (number : ℕ) : Between {} (crowd number) where
  known := by simp
  same := by simp
  fresh _ _ _ := rfl

theorem Emptying.policyRun {number : ℕ} (run : Emptying env number s) : PolicyRun env s := by
  induction run with
  | start => exact PolicyRun.start.between (crowd_between number)
  | served _ update select ih => exact (ih.round update select).between (served_between _ _)

theorem crowd_ready (number : ℕ) : (crowd number).ready = Finset.range number := by
  ext addr
  rw [mem_ready, Finset.mem_range]
  simp only [crowd, List.mem_range, rcvr, RoundRobin.msgs_append, RoundRobin.msgs_empty, List.nil_append,
    List.mem_singleton,
    exists_eq_left, and_iff_left_iff_imp]
  intro _
  change nextPktBytes 1 ≤ toUInt64 minEthernetFrameOnWire
  decide

theorem share_fair {cfg : Config} (fair : cfg.senderPolicy = 0) (number : ℕ) (high : Option Addr) (addr : Addr) :
    cfg.share number high addr = 1 / number := by
  unfold Config.share Config.fsWeight Config.srptWeight
  rw [fair]
  simp

theorem PolicyRun.fair_update (run : PolicyRun env s) (fair : env.cfg.senderPolicy = 0)
    (some_rcvr : s.remotes.keys ≠ []) :
    ∃ s1, s.updatePolicyState env = .ok s1 := by
  have two : env.cfg.senderPolicy ≠ 2 := by rw [fair]; decide
  have weights : env.cfg.fsWeight = 1 ∧ env.cfg.srptWeight = 0 := by
    unfold Config.fsWeight Config.srptWeight
    rw [fair]
    simp
  apply updatePolicyState_succeeds (Or.inl fair) some_rcvr run.poised.nonneg
  · rw [weights.1, weights.2]; norm_num
  · intro s1 pass find some_able
    rcases findCanSend_preferring two (Preferring.start env.cfg two) find with ⟨nobody, -⟩ | ⟨high, found⟩
    · have number := (firstPass_passed find).2.1.card (env.plat.walk_perm s1.remotes.keys)
      exact absurd (number.symm.trans nobody) (Finset.card_ne_zero.mpr some_able)
    · rw [found]; exact Option.some_ne_none high

structure Level (env : Env) (number : ℕ) (s : Sender) (left : ℕ) (level : ℚ) : Prop where
  run : Emptying env number s
  left : s.ready.card = left
  deficits : ∀ addr ∈ s.ready, s.deficit addr = level

/-- All that are left are filled alike until they are full, and one is emptied. -/
structure Fills (left : ℕ) (level next : ℚ) (fillings : ℕ) : Prop where
  reached : next = level + (fillings + 1 : ℕ) / left
  full : 1 ≤ next
  low : next - 1 ≤ 10
  short : 0 < fillings → level + (fillings : ℕ) / left < 1

theorem Fills.from_empty {left fillings : ℕ} {next : ℚ} (fills : Fills left 0 next fillings) (some_left : 0 < left) :
    next = 1 := by
  have pos : (0 : ℚ) < left := Nat.cast_pos.mpr some_left
  have full := fills.full
  rw [fills.reached, zero_add, le_div_iff₀ pos, one_mul] at full
  have many : left ≤ fillings + 1 := by exact_mod_cast full
  have exact : fillings + 1 = left := by
    rcases fillings.eq_zero_or_pos with zero | more
    · omega
    · have short := fills.short more
      rw [zero_add, div_lt_one pos] at short
      have fewer : fillings < left := by exact_mod_cast short
      omega
  rw [fills.reached, zero_add, exact, div_self pos.ne']

theorem Fills.from_full {left fillings : ℕ} {level next : ℚ} (fills : Fills left level next fillings)
    (full : 1 ≤ level) : next = level + 1 / left := by
  have none_more : fillings = 0 := by
    by_contra more
    have short := fills.short (Nat.pos_of_ne_zero more)
    have part : (0 : ℚ) ≤ (fillings : ℕ) / left := by positivity
    linarith
  rw [fills.reached, none_more, zero_add, Nat.cast_one]

theorem Level.round {number left : ℕ} {level : ℚ} (fair : env.cfg.senderPolicy = 0)
    (even : Level env number s (left + 1) level) (few : left < 1000000) :
    ∃ s1, s.updatePolicyState env = .ok s1 ∧ (s1.selectMsgToSend env.plat = .error deficitFault ∨
      ∃ s3 next fillings, Fills (left + 1) level next fillings ∧ Level env number s3 left next) := by
  have policy := even.run.policyRun
  have some_left : s.ready.Nonempty := Finset.card_ne_zero.mp (by rw [even.left]; exact left.succ_ne_zero)
  obtain ⟨first, first_ready⟩ := some_left
  have some_rcvr : s.remotes.keys ≠ [] := List.ne_nil_of_mem (mem_ready.mp first_ready).1
  obtain ⟨s1, update⟩ := policy.fair_update fair some_rcvr
  obtain ⟨_, pass, _, updated⟩ := updatePolicyState_updated update
  have able : s1.able = s.ready := able_eq_ready update
  have quantum (addr : Addr) : env.cfg.share s1.able.card pass.rcverWithHighestPrio addr = 1 / (left + 1 : ℕ) := by
    rw [share_fair fair, able, even.left]
  have filled (fillings : ℕ) (addr : Addr) (member : addr ∈ s1.able) :
      CupGame.filled s1.able (env.cfg.share s1.able.card pass.rcverWithHighestPrio) s.deficit fillings addr =
        level + (fillings : ℕ) / (left + 1 : ℕ) := by
    rw [CupGame.filled, if_pos member, quantum, even.deficits addr (able ▸ member), mul_one_div]
  refine ⟨s1, update, ?_⟩
  cases select : s1.selectMsgToSend env.plat with
  | error fault =>
    left
    unfold selectMsgToSend at select
    cases updated.outcome policy.poised.nonneg with
    | idle states nobody same done => rw [done] at select; cases select
    | picked states chosen after extra round low same done => rw [done] at select; cases select
    | above chosen after extra round high done => rw [done] at select; cases select; rfl
    | stopped fault other small done =>
      -- the quantum is a millionth at least
      obtain ⟨addr, _, small⟩ := small
      rw [quantum, div_lt_div_iff₀ (by positivity) (by norm_num)] at small
      have many : (1000000 : ℚ) < (left + 1 : ℕ) := by linarith
      have many' : 1000000 < left + 1 := by exact_mod_cast many
      omega
  | ok result =>
    right
    obtain ⟨selected, s2⟩ := result
    have rounded := updated.rounded policy.poised.nonneg select
    cases selected with
    | none => exact absurd (able ▸ (rounded.nobody rfl).1) (Finset.ne_empty_of_mem first_ready)
    | some chosen =>
      obtain ⟨after, extra, low, round, level_eq⟩ := rounded.picked chosen rfl
      have chosen_able := round.chosen_able
      have same : s2.ready = s.ready := by
        have chooses := (updatePolicyState_ok update).1.trans
          (selectMsgToSend_ok select (updatePolicyState_ok update).2).1
        exact chooses.ready
      refine ⟨s2.served chosen, level + (extra + 1 : ℕ) / (left + 1 : ℕ), extra, ?_, ?_⟩
      · refine ⟨rfl, ?_, ?_, fun more => ?_⟩
        · rw [← filled (extra + 1) chosen chosen_able]; exact round.full
        · rw [round.emptied, if_pos rfl, filled (extra + 1) chosen chosen_able] at low; exact low
        · rw [← filled extra chosen chosen_able]; exact round.short more chosen chosen_able
      · constructor
        case run => exact even.run.served update select
        case left =>
          rw [served_ready, same, Finset.card_erase_of_mem (able ▸ chosen_able), even.left, Nat.add_sub_cancel]
        case deficits =>
          intro addr member
          rw [served_ready, same, Finset.mem_erase] at member
          have known : addr ∈ s2.remotes.keys := by
            rw [rounded.remotes]
            exact (mem_ready.mp member.2).1
          change s2.deficit addr = _
          rw [level_eq addr known, round.emptied, if_neg member.1, sub_zero, filled (extra + 1) addr (able ▸ member.2)]

/-- A crowd whose levels add up to more than eleven comes to a round in which the assertion fails. -/
theorem Level.overflow {number left : ℕ} {level : ℚ} (fair : env.cfg.senderPolicy = 0) (few : left < 1000000)
    (even : Level env number s (left + 1) level) (full : 1 ≤ level) (high : 10 < level + harmonic (left + 1) - 1) :
    ∃ s s1, Emptying env number s ∧ s.updatePolicyState env = .ok s1 ∧ s1.selectMsgToSend env.plat =
    .error deficitFault := by
  -- on the receivers left: what the selected one loses is shared out among the others
  induction left generalizing s level with
  | zero =>
    obtain ⟨s1, update, stops | ⟨_, next, fillings, fills, -⟩⟩ := even.round fair few
    · exact ⟨s, s1, even.run, update, stops⟩
    · -- the last one would be left with more than ten
      have low := fills.low
      rw [fills.from_full full] at low
      norm_num [harmonic] at low high
      linarith
  | succ left ih =>
    obtain ⟨s1, update, stops | ⟨s3, next, fillings, fills, even'⟩⟩ := even.round fair few
    · exact ⟨s, s1, even.run, update, stops⟩
    · have step := fills.from_full full
      rw [harmonic_succ, ← one_div] at high
      exact ih (by omega) even' fills.full (by rw [step]; linarith)

theorem harmonic_many : 10 < harmonic 12367 := by
  have pos : 0 < 10 ^ 12 := by decide
  have bounds := (blockParts_bounds pos [13, 12, 6, 3, 2, 1, 0] 0).1
  have parts : 10 * 10 ^ 12 < blockParts (10 ^ 12) [13, 12, 6, 3, 2, 1, 0] 0 := by decide +kernel
  have last : blockEnd [13, 12, 6, 3, 2, 1, 0] 0 = 12367 := by decide
  have scaled : ((10 * 10 ^ 12 : ℕ) : ℚ) < (blockParts (10 ^ 12) [13, 12, 6, 3, 2, 1, 0] 0 : ℕ) := by
    exact_mod_cast parts
  rw [last, harmonic_zero, sub_zero, div_le_iff₀ (by norm_num)] at bounds
  push_cast at *
  linarith

/-- The deployment of the crowd: fair sharing among all receivers. -/
def fairEnv : Env := ⟨Config.small 3076 (-1) 0 3 0 twoFrames_set allUnsolicited_set, Platform.plain⟩

theorem Level.crowd (number : ℕ) : Level env number (crowd number) number 0 where
  run := .start
  left := by rw [crowd_ready, Finset.card_range]
  deficits _ _ := rfl

/-- With 12368 receivers that fall silent one after the other, the last assertion
of select_msg_to_send fails. -/
theorem crowd_overflows : ∃ s s1, Emptying fairEnv 12368 s ∧ PolicyRun fairEnv s ∧
    s.updatePolicyState fairEnv = .ok s1 ∧ s1.selectMsgToSend fairEnv.plat = .error deficitFault := by
  have fair : fairEnv.cfg.senderPolicy = 0 := rfl
  have first := Level.round fair (Level.crowd 12368) (by decide)
  obtain ⟨s1, update, stops | ⟨s3, next, fillings, fills, even⟩⟩ := first
  · exact ⟨_, s1, .start, Emptying.start.policyRun, update, stops⟩
  · have one := fills.from_empty (by decide)
    subst one
    have high := harmonic_many
    obtain ⟨s, s1, run, rest⟩ := even.overflow fair (by decide) le_rfl (by linarith)
    exact ⟨s, s1, run, run.policyRun, rest⟩

/-- Two receivers stay within the bound. -/
theorem crowd_selected_deficit : ∃ s1, (crowd 2).updatePolicyState fairEnv = .ok s1 ∧
    s1.selectMsgToSend fairEnv.plat ≠ .error deficitFault := by
  have run : PolicyRun fairEnv (crowd 2) := PolicyRun.start.between (crowd_between 2)
  obtain ⟨s1, update⟩ := run.fair_update rfl (by decide)
  exact ⟨s1, update, (PolicyRun.selected_deficit run (by decide) update).1⟩

end Sender

end PhantomPass
