import PhantomPass.Config
import PhantomPass.Lib.RoundRobin
import PhantomPass.Lib.Store

/-! The data of the hybrid transport. Message objects are named by their
request id: a table holds the objects, the vectors of pointers hold names.
A deleted object keeps its last value in the table, out of every vector. -/

set_option autoImplicit false

namespace PhantomPass

open Lib (RoundRobin Store)

def addHeaderOverhead (payload : ℤ) (skipLastPktCheck : Bool := false) : ℤ :=
  let wHdrs := payload.tdiv maxR2p2Payload * (maxR2p2Payload + r2p2AllHeadersSize + interPktGapSize +
    ethernetPreambleSize)
  if 0 < payload.tmod maxR2p2Payload ∧ skipLastPktCheck = false then
    let rem := payload.tmod maxR2p2Payload + r2p2AllHeadersSize + interPktGapSize + ethernetPreambleSize
    wHdrs + max rem minEthernetFrameOnWire
  else wHdrs

def removeHeaderOverhead (size : ℤ) : ℤ := size.tdiv maxEthernetFrameOnWire * maxR2p2Payload

/-- What the next packet of a message with so many unsent bytes takes on the wire. -/
def nextPktBytes (unsentBytes : ℕ) : ℕ :=
  max (min maxR2p2Payload unsentBytes + r2p2AllHeadersSize + interPktGapSize + ethernetPreambleSize)
    minEthernetFrameOnWire

theorem addHeaderOverhead_eq (n : ℕ) : addHeaderOverhead n = ethernet.wire n := by
  have quot : (n : ℤ).tdiv (maxR2p2Payload : ℤ) = (n / maxR2p2Payload : ℕ) := (Int.ofNat_tdiv ..).symm
  have rem : (n : ℤ).tmod (maxR2p2Payload : ℤ) = (n % maxR2p2Payload : ℕ) := (Int.ofNat_tmod ..).symm
  have full : ethernet.cost ethernet.mss = 1538 := by decide
  rw [Lib.Framing.wire_eq, full, addHeaderOverhead, quot, rem, show ethernet.mss = maxR2p2Payload from rfl]
  rcases (n % maxR2p2Payload).eq_zero_or_pos with zero | pos
  · rw [if_neg (by simp [zero]), if_pos zero]
    simp only [maxR2p2Payload, r2p2AllHeadersSize, interPktGapSize, ethernetPreambleSize]
    push_cast; omega
  · have some_rem : 0 < ((n % maxR2p2Payload : ℕ) : ℤ) := by exact_mod_cast pos
    rw [if_pos ⟨some_rem, rfl⟩, if_neg pos.ne']
    simp only [ethernet, Lib.Framing.cost, wireOverhead, maxR2p2Payload, r2p2AllHeadersSize, interPktGapSize,
      ethernetPreambleSize, minEthernetFrameOnWire]
    push_cast; omega

theorem addHeaderOverhead_full (k : ℕ) : addHeaderOverhead (k * maxR2p2Payload : ℕ) true = k * 1538 := by
  simp [addHeaderOverhead, maxR2p2Payload, r2p2AllHeadersSize, interPktGapSize, ethernetPreambleSize]

theorem nextPktBytes_eq (unsentBytes : ℕ) : nextPktBytes unsentBytes = ethernet.cost (min maxR2p2Payload unsentBytes) :=
    rfl

theorem wire_full (k : ℕ) : ethernet.wire (k * maxR2p2Payload) = k * 1538 := ethernet.wire_mul k

structure OutboundMsgState where
  reqId : UniqReqId
  remoteAddr : Addr
  seq : ℤ := 0
  r2p2Hdr : Hdr
  totalBytes : ℕ := 0
  unsentBytes : ℕ := 0
  isRequest : Bool := true
  sentAnouncement : Bool := false
  sentFirst : Bool := false
  active : Bool := false
  usnsolCheckDone : Bool := false
  isScheduled : Bool := true
  selfAllocCredit : ℤ := 0
  selfAllocCreditData : ℤ := 0
  remainingSelfAllocCreditData : ℤ := 0
  msgCreationTime : Time := -1
  deriving DecidableEq

structure ReceiverState where
  rcverAddr : Addr
  /-- includes headers -/
  availCreditBytes : ℤ := 0
  availCreditDataBytes : ℤ := 0
  outMsgs : RoundRobin UniqReqId := .empty

structure PolicyState where
  deficit : ℚ := 0
  quantum : ℚ := -1
  canSend : Bool := false
  priorityFlow : Bool := false
  numCanSend : ℤ := -1
  wantToSendBytes : ℕ := 0
  msgState : Option UniqReqId := none
  deriving DecidableEq

/-- A congestion window: the source keeps one for network marks (nw) and one for
marks by the sending host (host, ht), with the same fields. -/
structure Window where
  maxSrpbBytes : ℤ
  markedRatio : ℚ := 0
  pktsMarkedSinceLastRatioUpdate : ℕ := 0
  pktsSinceLastWndUpdate : ℕ := 0
  pktsAtNextWndUpdate : ℕ
  ecnBurst : Bool := false
  deriving DecidableEq

structure SenderState where
  senderAddr : Addr
  /-- grows when data arrives, shrinks when credit is sent -/
  srpbBytes : ℤ
  nw : Window
  host : Window
  /-- the most conservative of both windows -/
  maxSrpbBytes : ℤ
  srpbCeiling : ℤ
  pktsSinceLastRatioUpdate : ℕ := 0
  pktsAtNextRatioUpdate : ℕ := 1
  prevQlen : ℕ := 0
  prevU : ℚ := 0
  Wc : ℚ
  incStage : ℕ := 0
  deriving DecidableEq

def SenderState.new (senderAddr : Addr) (srpbBytes : ℤ) : SenderState :=
  let window : Window :=
    { maxSrpbBytes := srpbBytes, pktsAtNextWndUpdate := toUInt32 (srpbBytes.tdiv maxEthernetFrameOnWire) }
  { senderAddr, srpbBytes, nw := window, host := window, maxSrpbBytes := srpbBytes, srpbCeiling := srpbBytes
    Wc := srpbBytes }

structure InboundMsgState where
  reqId : UniqReqId
  remoteAddr : Addr
  seq : ℤ := 0
  firstHeader : Hdr
  dataBytesExpected : ℕ := 0
  dataBytesReceived : ℕ := 0
  dataBytesGranted : ℕ := 0
  receivedMsgInfo : Bool := false
  deriving DecidableEq

instance : Inhabited OutboundMsgState := ⟨{ reqId := ⟨0, 0, 0⟩, remoteAddr := 0, r2p2Hdr := { msgType := .request } }⟩

instance : Inhabited ReceiverState := ⟨{ rcverAddr := 0 }⟩

instance : Inhabited SenderState := ⟨.new 0 0⟩

instance : Inhabited InboundMsgState :=
    ⟨{ reqId := ⟨0, 0, 0⟩, remoteAddr := 0, firstHeader := { msgType := .request } }⟩

/-- The sending half of a host: messages, and what is known of each receiver. -/
structure Sender where
  outbound : Store UniqReqId OutboundMsgState := .empty default
  /-- messages that were not yet considered by send_data -/
  outboundInactive : RoundRobin UniqReqId := .empty
  remotes : Store Addr ReceiverState := .empty default
  /-- has an entry for every remote -/
  rcverPolicyStates : Addr → PolicyState := fun _ => {}
  creditReceived : ℤ := 0
  creditUsed : ℤ := 0
  creditDataRequested : ℤ := 0
  creditDataReceived : ℤ := 0

/-- The receiving half of a host: inbound messages, and what is known of each sender. -/
structure Receiver where
  inboundObjs : Store UniqReqId InboundMsgState := .empty default
  inbound : RoundRobin UniqReqId := .empty
  senderState : Store Addr SenderState := .empty default
  budgetBytes : ℤ
  creditGranted : ℤ := 0
  creditReplenished : ℤ := 0
  creditDataRequestRcvd : ℤ := 0
  creditDataGranted : ℤ := 0

/-- What R2p2Client keeps of a request; a freed entry stays in its map. -/
structure ClientRequestState where
  reqBytesLeft : ℕ := 0
  replyPktsToRec : ℤ := 0
  replyPktsRecvd : ℤ := 0
  replyBytesRecvd : ℕ := 0
  msgCreationTime : Time := -1
  freed : Bool := false
  deriving DecidableEq

structure ServerRequestState where
  reqPktsExpected : ℤ := -1
  reqPktsReceived : ℤ := 0
  reqBytesReceived : ℕ := 0
  replySent : Bool := false
  oldState : Bool := false
  deriving DecidableEq

structure RequestIdTuple where
  reqId : ℕ
  appLevelId : ℤ
  clAddr : Addr
  srAddr : Addr
  clThreadId : ℤ
  srThreadId : ℤ
  ts : Time
  deriving DecidableEq

def RequestIdTuple.uniqReqId (tuple : RequestIdTuple) : UniqReqId := ⟨tuple.clAddr, tuple.clThreadId, tuple.reqId⟩

/-- The RPC layer and the application above it, with the history of what the
application handed down and was handed. -/
structure Rpc where
  /-- the last request number of each client thread -/
  thrdIdToReqId : ℤ → Option ℕ := fun _ => none
  /-- the two maps of the client, keyed by thread and by request, in one -/
  pendingReqs : Store (ℤ × ℕ) ClientRequestState := .empty {}
  /-- the two maps of the server, keyed by client and by request, in one -/
  pendingRequests : Store UniqReqId ServerRequestState := .empty {}
  /-- requests of each server thread that wait for their response -/
  pendingTasks : ℤ → List RequestIdTuple := fun _ => []
  reqSent : List (ℕ × RequestIdTuple) := []
  respSent : List (ℕ × RequestIdTuple) := []
  reqRecvd : List (ℕ × RequestIdTuple) := []
  reqSuccesses : List (ℕ × RequestIdTuple) := []

/-- One host. The histories of packets handed to and taken from the network are
kept beside the state; the code reads neither. -/
structure Host where
  thisAddr : Addr
  pollStarted : Bool := false
  lastPollTrace : Time := 0
  lastGrantTime : Time := 0
  grantPacerBacklog : ℤ := 0
  lastGrantPacerUpdate : Time := 0
  dataPacerBacklog : ℤ := 0
  lastDataPacerUpdate : Time := 0
  totalBytesSent : ℕ := 0
  /-- how many frames the agent for each destination has sent -/
  agentSeqno : Addr → ℕ := fun _ => 0
  snd : Sender := {}
  rcv : Receiver
  rpc : Rpc := {}
  sent : List Packet := []
  rcvd : List Packet := []

def Host.init (cfg : Config) (thisAddr : Addr) : Host :=
  { thisAddr, rcv := { budgetBytes := cfg.budgetBytes } }

end PhantomPass
