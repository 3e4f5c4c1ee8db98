import PhantomPass.Wire
import Mathlib

/-! The simulator's switch: DestHashClassifier routes by destination and keeps
a phantom queue for every port. GRANTs add the credit they carry where they
enter; what leaves drains the queue first and may get a congestion mark. -/

set_option autoImplicit false

namespace PhantomPass.Switch

/-- How the length of a phantom queue is kept: what adding an int does, and
what becomes of a drained amount computed in doubles. -/
structure Lengths (α : Type*) where
  add : α → ℤ → α
  ofDrain : ℚ → α

/-- As the source keeps it: unsigned integers, the drain cut to whole bytes. -/
def whole : Lengths ℕ := ⟨fun length bytes => (length + bytes).toNat, fun drain => ⌊drain⌋₊⟩

def exact : Lengths ℚ := ⟨fun length bytes => length + bytes, id⟩

/-- PPassPortStatus; a last_time_ of 0 stands for never. -/
structure PPassPortStatus (α : Type*) where
  pqlen : α
  lastTime : Time

/-- port_status_map_, which makes a fresh status for a label it does not hold. -/
abbrev Ports (α : Type*) := ℤ → PPassPortStatus α

def Ports.fresh {α : Type*} [Zero α] : Ports α := fun _ => ⟨0, 0⟩

structure DestHashClassifier where
  enablePpass : Bool
  pthr : ℕ
  lineRateGbps : ℚ
  rho : ℚ
  pEgressQueueThreshByte : ℤ
  /-- the hash table from destinations to slots -/
  lookup : Addr → ℤ
  maxslot : ℤ
  default : ℤ
  /-- intf_label of the NetworkInterface behind the link in a slot, if there is one -/
  slot : ℤ → Option ℤ

namespace DestHashClassifier

variable {α : Type*} [LinearOrder α] [Zero α] [Sub α] [NatCast α]

def limit (c : DestHashClassifier) : ℕ := c.pthr * 10

def delta (c : DestHashClassifier) (interval : Time) : ℚ := c.rho * interval * c.lineRateGbps * 125000000

def counts (hdr : Hdr) : Bool := hdr.msgType == .grant || decide (0 < hdr.unsolCredit) || hdr.msgType == .grantReq

def isDataPkt (hdr : Hdr) : Bool := hdr.msgType == .request || hdr.msgType == .grantReq || hdr.msgType == .reply

def ppassIngress (lengths : Lengths α) (c : DestHashClassifier) (status : PPassPortStatus α) (p : Packet) :
    PPassPortStatus α :=
  let pqlen := if p.hdr.msgType = .grant then lengths.add status.pqlen p.hdr.credit else status.pqlen
  -- the bound is for every packet that enters
  { status with pqlen := min pqlen (c.limit : α) }

def interval (status : PPassPortStatus α) (now : Time) : Time :=
  if status.lastTime = 0 then 0 else now - status.lastTime

/-- pqlen_ as ppass_egress compares it with pthr_: grown and drained, but not
yet bounded. -/
def compared (lengths : Lengths α) (c : DestHashClassifier) (status : PPassPortStatus α) (p : Packet)
    (now : Time) : α :=
  let pqlen := if counts p.hdr then lengths.add status.pqlen p.size else status.pqlen
  let delta := lengths.ofDrain (c.delta (interval status now))
  if pqlen < delta then 0 else pqlen - delta

/-- The status after a packet left, and whether the packet got a mark. -/
def ppassEgress (lengths : Lengths α) (c : DestHashClassifier) (status : PPassPortStatus α) (p : Packet)
    (now : Time) (egressQlen : ℤ) : PPassPortStatus α × Bool :=
  let pqlen := c.compared lengths status p now
  (⟨min pqlen (c.limit : α), now⟩,
    isDataPkt p.hdr && decide ((c.pthr : α) < pqlen) && decide (c.pEgressQueueThreshByte < egressQlen))

def retSlot (c : DestHashClassifier) (p : Packet) : ℤ :=
  let slot := c.lookup p.dst
  if 0 ≤ slot ∧ slot ≤ c.maxslot then slot else if 0 ≤ c.default then c.default else -1

def getIface (c : DestHashClassifier) (slot : ℤ) : Option ℤ :=
  if slot < 0 ∨ c.maxslot < slot then none else c.slot slot

/-- What a phantom queue sees of a packet: it enters by a port, or leaves by
one whose queue has some bytes. -/
inductive Touch
  | enter (label : ℤ) (p : Packet) (now : Time)
  | leave (label : ℤ) (p : Packet) (now : Time) (egressQlen : ℤ)

namespace Touch

def label : Touch → ℤ
  | enter label _ _ => label
  | leave label _ _ _ => label

def packet : Touch → Packet
  | enter _ p _ => p
  | leave _ p _ _ => p

def time : Touch → Time
  | enter _ _ now => now
  | leave _ _ now _ => now

def leaves : Touch → Bool
  | enter .. => false
  | leave .. => true

end Touch

/-- The ports after a touch, and the mark it leaves on the packet. -/
def touch (lengths : Lengths α) (c : DestHashClassifier) (ports : Ports α) : Touch → Ports α × Bool
  | .enter label p _ => (Function.update ports label (c.ppassIngress lengths (ports label) p), false)
  | .leave label p now egressQlen =>
    let (status, ce) := c.ppassEgress lengths (ports label) p now egressQlen
    (Function.update ports label status, ce)

theorem enter_at (lengths : Lengths α) (c : DestHashClassifier) (ports : Ports α) (l label : ℤ) (p : Packet)
    (now : Time) : (c.touch lengths ports (.enter l p now)).1 label =
      if l = label then c.ppassIngress lengths (ports label) p else ports label := by
  by_cases here : l = label
  · subst here
    simp [touch]
  · simp [touch, here, Ne.symm here]

theorem leave_at (lengths : Lengths α) (c : DestHashClassifier) (ports : Ports α) (l label : ℤ)
    (p : Packet) (now : Time) (egressQlen : ℤ) : (c.touch lengths ports (.leave l p now egressQlen)).1 label =
      if l = label then (c.ppassEgress lengths (ports label) p now egressQlen).1 else ports label := by
  by_cases here : l = label
  · subst here
    simp [touch]
  · simp [touch, here, Ne.symm here]

def run (lengths : Lengths α) (c : DestHashClassifier) (ports : Ports α) :
    List Touch → Ports α × List Bool
  | [] => (ports, [])
  | x :: touches =>
    let (next, ce) := c.touch lengths ports x
    let (last, marks) := c.run lengths next touches
    (last, ce :: marks)

/-- classify: the slot for an R2P2 packet, the ports after it and whether it
is marked. -/
def classify (lengths : Lengths α) (c : DestHashClassifier) (ports : Ports α) (p : Packet) (ifaceIn : ℤ)
    (now : Time) (byteLength : ℤ → ℤ) : ℤ × Ports α × Bool :=
  if c.enablePpass then
    -- both ends of the way through the switch, at one time
    let entered := (c.touch lengths ports (.enter ifaceIn p now)).1
    match c.getIface (c.retSlot p) with
    | none => (c.retSlot p, entered, false)
    | some ifaceOut => (c.retSlot p, c.touch lengths entered (.leave ifaceOut p now (byteLength ifaceOut)))
  else (c.retSlot p, ports, false)

theorem run_append (lengths : Lengths α) (c : DestHashClassifier) (ports : Ports α) (before after : List Touch) :
    c.run lengths ports (before ++ after) =
      ((c.run lengths (c.run lengths ports before).1 after).1,
        (c.run lengths ports before).2 ++ (c.run lengths (c.run lengths ports before).1 after).2) := by
  induction before generalizing ports with
  | nil => rfl
  | cons x before ih => simp only [List.cons_append, run, ih]

/-- A switch with one port at 100 Gbps and a threshold of 100 full frames. -/
def onePort : DestHashClassifier where
  enablePpass := true
  pthr := 153800
  lineRateGbps := 100
  rho := 1
  pEgressQueueThreshByte := -1
  lookup _ := 0
  maxslot := 0
  default := -1
  slot _ := some 0

def frame (msgType : MsgType) (credit : ℤ) : Packet where
  hdr := { msgType, credit }
  src := 0
  dst := 1
  size := 1538
  padding := 0
  flowid := 0
  prio := 0
  ect := true
  seqno := 0

end DestHashClassifier

end PhantomPass.Switch
