import Mathlib
import PhantomPass.Network

/-! A platform that sorts by insertion and walks maps in the order of insertion,
and a configuration for small runs. -/

set_option autoImplicit false

namespace PhantomPass

def Platform.plain : Platform where
  sortBy key := List.insertionSort fun a b => key a ≤ key b
  sortBy_perm key := List.perm_insertionSort fun a b => key a ≤ key b
  sortBy_sorted key ids := by
    have : Std.Total fun a b : UniqReqId => key a ≤ key b := ⟨fun a b => le_total _ _⟩
    have : IsTrans UniqReqId fun a b => key a ≤ key b := ⟨fun _ _ _ => le_trans⟩
    exact List.pairwise_insertionSort (fun a b => key a ≤ key b) ids
  walk addrs := addrs
  walk_perm _ := .refl _
  rand _ _ _ := 0

theorem twoFrames_set : (3076 : ℤ) ≠ 0 := by decide

theorem tenFrames_set : (15380 : ℤ) ≠ 0 := by decide

theorem allUnsolicited_set : (-1 : ℤ) ≠ -2 := by decide

theorem noUnsolicited_set : (0 : ℤ) ≠ -2 := by decide

theorem noIncrease_set : (0 : ℤ) ≠ -1 := by decide

theorem wholeRatio_set : (1 : ℚ) ≠ -1 := by norm_num

/-- A 100 Gbps deployment in which all hosts run one application thread. -/
def Config.small (maxSrpb thresh : ℤ) (senderPolicy receiverPolicy : ℕ) (senderAlgo : ℕ) (nonzero : maxSrpb ≠ 0)
    (threshSet : thresh ≠ -2) : Config where
  budgetBytes := 4 * maxSrpb
  maxSrpb := maxSrpb
  unsolicitedThreshBytes := thresh
  priorityFlow := false
  dataPrio := false
  senderPolicyRatio := 1 / 2
  receiverPolicy := receiverPolicy
  accountUnsched := true
  ecnThreshPkts := 100
  paceGrants := true
  additiveIncrMul := 1
  senderPolicy := senderPolicy
  ecnMinMul := 1
  ecnMinMulNw := 1
  statePollingIvalS := 1
  senderAlgo := senderAlgo
  eta := 1
  wai := 0
  maxStage := 0
  ecnCapable := 1
  linkSpeedGbps := 100
  ceNewWeight := 1 / 10
  singlePathPerMsg := false
  paceUplink := false
  doTrace := false
  attached _ thread := thread == 0
  additiveIncrMul_set := by decide
  senderPolicy_set := by omega
  ecnThreshPkts_set := by decide
  maxSrpb_set := nonzero
  unsolicitedThreshBytes_set := threshSet
  senderPolicyRatio_set := by norm_num
  receiverPolicy_set := by omega
  ecnMinMulNw_pos := by norm_num
  statePollingIvalS_pos := by norm_num
  senderAlgo_set := by omega
  eta_set := wholeRatio_set

end PhantomPass
