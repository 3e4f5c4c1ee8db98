import PhantomPass.Credit.Messages
import PhantomPass.Hybrid.Rpc

/-! The sending half of the credit protocol, without queues, policies and pacing:
messages, the pool of credit for each receiver, and the packets sent. A step is
anything that send_data, the application or a GRANT can do to them. -/

set_option autoImplicit false

namespace PhantomPass

open Lib (Store)

/-- The messages of a host and its pools; out holds what it sent but GRANTs,
grants the GRANTs it received. -/
structure SendSide where
  addr : Addr
  msgs : Store UniqReqId OutboundMsgState
  avail : Addr → ℤ
  out : List Packet
  grants : List Packet

def OutboundMsgState.nextCost (m : OutboundMsgState) : ℤ := ethernet.cost (min maxR2p2Payload m.unsentBytes)

/-- A message as it enters: all of it unsent, nothing credited. -/
structure NewMsg (addr : Addr) (m : OutboundMsgState) : Prop where
  total_pos : 0 < m.totalBytes
  unsent : m.unsentBytes = m.totalBytes
  seq : m.seq = 0
  name : m.r2p2Hdr.uniqReqId = m.reqId
  plain : m.r2p2Hdr.unsolCredit = 0 ∧ m.r2p2Hdr.unsolCreditData = 0
  request : m.isRequest = true → m.reqId.clAddr = addr
  reply : m.isRequest = false → m.reqId.clAddr = m.remoteAddr
  remote : m.remoteAddr ≠ addr
  pktId : m.r2p2Hdr.pktId = (ethernet.lens m.totalBytes).length - if m.isRequest then 1 else 0
  created : 99 / 10 < m.msgCreationTime
  idle : m.sentAnouncement = false ∧ m.sentFirst = false ∧ m.active = false
  scheduled : m.isScheduled = true ∧ m.usnsolCheckDone = false
  uncredited : m.selfAllocCredit = 0 ∧ m.selfAllocCreditData = 0

structure Prefix (totalBytes prefixLen : ℕ) : Prop where
  pos : 0 < prefixLen
  le : prefixLen ≤ totalBytes
  aligned : prefixLen = totalBytes ∨ ethernet.mss ∣ prefixLen

namespace SendSide

variable (s : SendSide)

def toward (rcvr : Addr) (f : OutboundMsgState → ℤ) : ℤ :=
  s.msgs.total fun _ m => if m.remoteAddr = rcvr then f m else 0

def enqueue (m : OutboundMsgState) : SendSide := { s with msgs := s.msgs.insert m.reqId m }

def selfCredit (cfg : Config) (id : UniqReqId) (prefixLen : ℕ) : SendSide :=
  { s with
    msgs := s.msgs.modify id (·.credited cfg (ethernet.wire prefixLen) prefixLen)
    avail := Function.update s.avail (s.msgs.get id).remoteAddr
      (s.avail (s.msgs.get id).remoteAddr + ethernet.wire prefixLen) }

def activate (id : UniqReqId) : SendSide := { s with msgs := s.msgs.modify id fun m => { m with active := true } }

def announce (id : UniqReqId) (p : Packet) : SendSide :=
  { s with
    msgs := s.msgs.modify id fun m => { m with sentAnouncement := true, active := true }
    out := s.out ++ [p] }

def transmit (id : UniqReqId) (p : Packet) : SendSide :=
  { s with
    msgs := s.msgs.modify id OutboundMsgState.afterPacket
    avail := Function.update s.avail (s.msgs.get id).remoteAddr
      (s.avail (s.msgs.get id).remoteAddr - (s.msgs.get id).nextCost)
    out := s.out ++ [p] }

def credit (p : Packet) : SendSide :=
  { s with avail := Function.update s.avail p.src (s.avail p.src + p.hdr.credit), grants := s.grants ++ [p] }

theorem msgs_selfCredit (cfg : Config) (id : UniqReqId) (prefixLen : ℕ) :
    (s.selfCredit cfg id prefixLen).msgs = s.msgs.modify id (·.credited cfg (ethernet.wire prefixLen) prefixLen) := rfl

theorem msgs_activate (id : UniqReqId) :
    (s.activate id).msgs = s.msgs.modify id fun m => { m with active := true } := rfl

theorem msgs_announce (id : UniqReqId) (p : Packet) :
    (s.announce id p).msgs = s.msgs.modify id fun m => { m with sentAnouncement := true, active := true } := rfl

theorem msgs_transmit (id : UniqReqId) (p : Packet) :
    (s.transmit id p).msgs = s.msgs.modify id OutboundMsgState.afterPacket := rfl

/-- An unannounced message to the same receiver, which could be sent, goes first. -/
def Prior (id : UniqReqId) : Prop :=
  (s.msgs.get id).sentAnouncement = true → ∀ other ∈ s.msgs.keys, (s.msgs.get other).remoteAddr =
    (s.msgs.get id).remoteAddr →
    0 < (s.msgs.get other).unsentBytes → (s.msgs.get other).sentAnouncement = false →
    s.avail (s.msgs.get id).remoteAddr < (s.msgs.get other).nextCost

inductive Step (cfg : Config) : SendSide → SendSide → Prop
  | enqueue {s : SendSide} (m : OutboundMsgState) : m.reqId ∉ s.msgs.keys → NewMsg s.addr m →
      Step cfg s (s.enqueue m)
  | selfCredit {s : SendSide} (id : UniqReqId) (prefixLen : ℕ) : id ∈ s.msgs.keys → (s.msgs.get id).active = false →
      (s.msgs.get id).usnsolCheckDone = false → Sender.unsolicited cfg (s.msgs.get id).totalBytes →
      Prefix (s.msgs.get id).totalBytes prefixLen →
      Step cfg s (s.selfCredit cfg id prefixLen)
  | activate {s : SendSide} (id : UniqReqId) : id ∈ s.msgs.keys → (s.msgs.get id).active = false →
      (s.msgs.get id).isScheduled = false → Step cfg s (s.activate id)
  | announce {s : SendSide} (id : UniqReqId) (p : Packet) : id ∈ s.msgs.keys → (s.msgs.get id).active = false →
      (s.msgs.get id).isScheduled = true → ¬ Sender.unsolicited cfg (s.msgs.get id).totalBytes →
      p.Carries (s.msgs.get id).grantReqHdr grantReqMsgSize s.addr (s.msgs.get id).remoteAddr →
      Step cfg s (s.announce id p)
  | transmit {s : SendSide} (id : UniqReqId) (ps : PolicyState) (p : Packet) : id ∈ s.msgs.keys →
      (s.msgs.get id).active = true → 0 < (s.msgs.get id).unsentBytes →
      (s.msgs.get id).nextCost ≤ s.avail (s.msgs.get id).remoteAddr →
      s.Prior id →
      p.Carries ((s.msgs.get id).packetHdr cfg ps) (s.msgs.get id).nextPayload s.addr (s.msgs.get id).remoteAddr →
      Step cfg s (s.transmit id p)
  | credit {s : SendSide} (p : Packet) : p.isGrant = true → 0 ≤ p.hdr.credit → Step cfg s (s.credit p)

def Steps (cfg : Config) : SendSide → SendSide → Prop := Relation.ReflTransGen (Step cfg)

section Totals

variable {s}

theorem toward_insert {m : OutboundMsgState} (rcvr : Addr) (f : OutboundMsgState → ℤ) (fresh : m.reqId ∉ s.msgs.keys) :
    (s.enqueue m).toward rcvr f = s.toward rcvr f + if m.remoteAddr = rcvr then f m else 0 :=
  Store.total_insert _ m fresh _

/-- A change of one message that keeps its receiver changes the sum by what it changed there. -/
theorem toward_modify {s' : SendSide} {id : UniqReqId} {change : OutboundMsgState → OutboundMsgState}
    (msgs : s'.msgs = s.msgs.modify id change) (inside : id ∈ s.msgs.keys)
    (stays : (change (s.msgs.get id)).remoteAddr = (s.msgs.get id).remoteAddr) (rcvr : Addr)
    (f : OutboundMsgState → ℤ) : s'.toward rcvr f = s.toward rcvr f +
      if (s.msgs.get id).remoteAddr = rcvr then f (change (s.msgs.get id)) - f (s.msgs.get id) else 0 := by
  unfold toward
  rw [msgs, Store.total_modify _ _ inside, stays]
  split <;> ring

theorem toward_add (rcvr : Addr) (f g : OutboundMsgState → ℤ) :
    s.toward rcvr f + s.toward rcvr g = s.toward rcvr fun m => f m + g m := by
  unfold toward
  rw [← Store.total_add]
  exact s.msgs.total_congr fun id _ => by split <;> simp

theorem toward_mono {rcvr : Addr} {f g : OutboundMsgState → ℤ}
    (each : ∀ id ∈ s.msgs.keys, (s.msgs.get id).remoteAddr = rcvr → f (s.msgs.get id) ≤ g (s.msgs.get id)) :
    s.toward rcvr f ≤ s.toward rcvr g :=
  s.msgs.total_le_total fun id inside => by
    split
    · next towards => exact each id inside towards
    · exact le_refl _

end Totals

end SendSide

end PhantomPass
