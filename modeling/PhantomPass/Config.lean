import Mathlib
import PhantomPass.Lib.Checked
import PhantomPass.Wire

/-! The parameters bound from Tcl, with the assertions of the constructor; what
the C++ library leaves open; and the ways a run can stop. -/

set_option autoImplicit false

namespace PhantomPass

inductive Site
  | actuallyMark | creditExpected | forwardGrant | garbageCollectState | getOutboundVqLen | handleReplyPkt
  | handleReqRdy | handleRequestPkt | inboundMsgOrderSize | inboundNext | inboundPeekNext | inboundRemove
    | isSinglePacketMsg
  | outboundMsgOrderSize | outboundNext | outboundPeekNext | outboundRemove | prepMsgSend | agentRecv | receivedCredit
    | receivedData | recv | reqRecv
  | selectMsgToSend | sendCreditPolicyCommon | sendData | sendGrants | sendGrantsMsg | sendReq | sendResponse
  | sendToApplication | sendToTransport | sendingReply | sendingRequest | sendmsg | shortingReq0
  | updatePolicyState | updateNwState | updateSnState | wantToSend
  | leakyBucketAdd | leakyBucketSend | nextSendTime | deferredSendTimerExpire | routerRecv | forwardQueuedPkts
  | routerForwardRequest | pfabricAttachAgent | pfabricSendRequest | pfabricForwardRequest | pfabricRecvMsg
  deriving DecidableEq

/-- How a run stops: an assertion with its text, an exception with its text, or
an access the language leaves undefined. -/
inductive Fault
  | assertion (site : Site) (text : String)
  | thrown (site : Site) (text : String)
  | undefined (site : Site) (text : String)
  deriving DecidableEq

def Fault.site : Fault → Site
  | .assertion site _ => site
  | .thrown site _ => site
  | .undefined site _ => site

abbrev Checked := Except Fault

def assert (site : Site) (text : String) (cond : Prop) [Decidable cond] : Checked PUnit :=
  Lib.require (.assertion site text) cond

def truncInt (q : ℚ) : ℤ := q.num.tdiv q.den

/-- A conversion of an int to uint32_t; counts are taken to fit their types. -/
def toUInt32 (z : ℤ) : ℕ := if 0 ≤ z then z.toNat else (z + 2 ^ 32).toNat

def toUInt64 (z : ℤ) : ℕ := if 0 ≤ z then z.toNat else (z + 2 ^ 64).toNat

/-- Bound variables. Those that the code only tests for truth are Booleans. -/
structure Config where
  /-- global budget B -/
  budgetBytes : ℤ
  /-- budget of a sender and receiver pair -/
  maxSrpb : ℤ
  /-- -1: every message has an unsolicited part -/
  unsolicitedThreshBytes : ℤ
  priorityFlow : Bool
  dataPrio : Bool
  senderPolicyRatio : ℚ
  /-- 0: round robin, 3: fewest bytes remaining, 4: equal bytes in flight -/
  receiverPolicy : ℤ
  accountUnsched : Bool
  ecnThreshPkts : ℕ
  paceGrants : Bool
  additiveIncrMul : ℤ
  /-- 0: fair, 1: part of the rate to the shortest message, 2: to the receiver with most credit -/
  senderPolicy : ℤ
  ecnMinMul : ℚ
  ecnMinMulNw : ℚ
  statePollingIvalS : ℚ
  /-- 0: ECN, 100: multi-bit; others are not implemented -/
  senderAlgo : ℤ
  eta : ℚ
  wai : ℕ
  maxStage : ℕ
  ecnCapable : ℤ
  linkSpeedGbps : ℚ
  ceNewWeight : ℚ
  singlePathPerMsg : Bool
  paceUplink : Bool
  doTrace : Bool
  /-- the application threads attached at each host -/
  attached : Addr → ℤ → Bool
  additiveIncrMul_set : additiveIncrMul ≠ -1
  senderPolicy_set : senderPolicy ≠ -1
  ecnThreshPkts_set : ecnThreshPkts ≠ 0
  maxSrpb_set : maxSrpb ≠ 0
  unsolicitedThreshBytes_set : unsolicitedThreshBytes ≠ -2
  senderPolicyRatio_set : senderPolicyRatio ≠ -1
  receiverPolicy_set : receiverPolicy ≠ -1
  ecnMinMulNw_pos : 0 < ecnMinMulNw
  statePollingIvalS_pos : 0 < statePollingIvalS
  senderAlgo_set : -1 < senderAlgo
  eta_set : eta ≠ -1

namespace Config

variable (cfg : Config)

def hostMinSrpb : ℤ := truncInt (cfg.ecnMinMul * cfg.maxSrpb)

def nwMinSrpb : ℤ := truncInt (cfg.ecnMinMulNw * cfg.maxSrpb)

def rttS : ℚ := cfg.maxSrpb * 8 / 1000 / 1000 / 1000 / cfg.linkSpeedGbps

/-- POLL_INTERVAL is meant for 1 Tbps. -/
def pollInterval : ℚ := 3 / 1000 / 1000 / 1000 / (cfg.linkSpeedGbps / 1000)

def secondsToBytes (seconds linkSpeedBps : ℚ) : ℚ := seconds * linkSpeedBps / 8

def drained (seconds : ℚ) : ℚ := secondsToBytes seconds (cfg.linkSpeedGbps * 1000 * 1000 * 1000)

def bytesDrainedPerLoop : ℤ := truncInt (cfg.drained cfg.pollInterval)

/-- set_policy_weights: the weight of fair sharing at the sender. -/
def fsWeight : ℚ := if 0 < cfg.senderPolicy then 1 - cfg.senderPolicyRatio else 1

def srptWeight : ℚ := if 0 < cfg.senderPolicy then cfg.senderPolicyRatio else 0

end Config

/-- What the library leaves open: the order that std::sort gives to equal keys,
the order in which an unordered map is walked, and the numbers rand draws. -/
structure Platform where
  sortBy : (UniqReqId → ℤ) → List UniqReqId → List UniqReqId
  sortBy_perm : ∀ key ids, (sortBy key ids).Perm ids
  sortBy_sorted : ∀ key ids, (sortBy key ids).Pairwise fun a b => key a ≤ key b
  walk : List Addr → List Addr
  walk_perm : ∀ addrs, (walk addrs).Perm addrs
  /-- the number drawn for a frame from one host to another -/
  rand : Addr → Addr → ℕ → ℕ

structure Env where
  cfg : Config
  plat : Platform

end PhantomPass
