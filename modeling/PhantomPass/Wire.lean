import Mathlib
import PhantomPass.Lib.Segments

/-! What travels between hosts: frame sizes, the R2P2 header and packets.
Header fields that no modelled function reads are left out. -/

set_option autoImplicit false

namespace PhantomPass

abbrev Addr := ℕ

abbrev Time := ℚ

def interPktGapSize : ℕ := 12
def ethernetPreambleSize : ℕ := 8
def minEthernetFrame : ℕ := 64
def minEthernetFrameOnWire : ℕ := 84
def maxEthernetFrame : ℕ := 1518
def maxEthernetFrameOnWire : ℕ := 1538
def r2p2AllHeadersSize : ℕ := 60
def maxR2p2Payload : ℕ := 1458
def minR2p2Payload : ℕ := 4
def grantReqMsgSize : ℕ := 4
def grantMsgSize : ℕ := 4
def req0MsgSize : ℕ := 14

def wireOverhead : ℕ := r2p2AllHeadersSize + interPktGapSize + ethernetPreambleSize

def ethernet : Lib.Framing where
  mss := maxR2p2Payload
  header := wireOverhead
  floor := minEthernetFrameOnWire
  mss_pos := by decide

/-- The message types of hdr_r2p2, in its order. -/
inductive MsgType
  | request | reply | reqrdy | r2p2Feedback | drop | sack | freeze | unfreeze | grant | grantReq
  deriving DecidableEq

/-- Client address, client thread and request number: the name of an RPC. -/
structure UniqReqId where
  clAddr : Addr
  clThreadId : ℤ
  reqId : ℕ
  deriving DecidableEq

/-- hdr_r2p2 with the defaults of its constructor. -/
structure Hdr where
  msgType : MsgType
  seq : ℤ := 0
  first : Bool := false
  last : Bool := false
  reqId : ℕ := 0
  pktId : ℤ := 0
  clAddr : Addr := 0
  srAddr : Addr := 0
  clThreadId : ℤ := 0
  srThreadId : ℤ := 0
  appLevelId : ℤ := 0
  credit : ℤ := 0
  creditPad : ℤ := 0
  creditReq : ℕ := 0
  umsgId : ℤ := -1
  msgCreationTime : Time := -1
  senderMarked : Bool := false
  isUnsolPkt : Bool := false
  unsolCredit : ℤ := 0
  unsolCreditData : ℤ := 0
  usedUnsolCredit : Bool := false
  hasScheduledPart : Bool := true
  qlen : ℕ := 0
  /-- link speed in Gbps, for the multi-bit window -/
  B : ℚ := 0
  priorityFlow : Bool := false
  bwRatio : ℚ := -1
  deriving DecidableEq

namespace Hdr

def uniqReqId (hdr : Hdr) : UniqReqId := ⟨hdr.clAddr, hdr.clThreadId, hdr.reqId⟩

/-- is_single_packet_msg: pkt_id counts the packets behind a request's first
one, but all packets of a reply; none for the types the source throws on. -/
def isSinglePacketMsg (hdr : Hdr) : Option Bool :=
  match hdr.msgType with
  | .request => some (hdr.first && hdr.pktId == 0)
  | .reply => some (hdr.first && hdr.pktId == 1)
  | _ => none

def isReq0 (hdr : Hdr) : Bool := hdr.msgType == .request && hdr.first

def isReq0OfMultipkt (hdr : Hdr) : Bool := hdr.isReq0 && decide (1 ≤ hdr.pktId)

def isFromMultipktReqNotReq0 (hdr : Hdr) : Bool := hdr.msgType == .request && !hdr.first

end Hdr

/-- A frame on its way: the size counts everything on the wire; seqno numbers
the frames of one agent, that is of one source and destination. -/
structure Packet where
  hdr : Hdr
  src : Addr
  dst : Addr
  size : ℕ
  padding : ℕ
  flowid : ℤ
  prio : ℤ
  ect : Bool
  seqno : ℕ
  deriving DecidableEq

namespace Packet

/-- What the agent leaves of the size on arrival: the application's bytes. -/
def payload (p : Packet) : ℕ := p.size - interPktGapSize - ethernetPreambleSize - r2p2AllHeadersSize - p.padding

def uniqReqId (p : Packet) : UniqReqId := p.hdr.uniqReqId

def isData (p : Packet) : Bool := p.hdr.msgType == .request || p.hdr.msgType == .reply

def isGrant (p : Packet) : Bool := p.hdr.msgType == .grant

end Packet

/-- What the network leaves on a packet: a congestion mark, and the rate and
spacing that the sender's queue measured. -/
structure Stamp where
  ce : Bool := false
  txRateBps : ℚ := 0
  dt : ℚ := 0
  deriving DecidableEq

end PhantomPass
