import Mathlib
import PhantomPass.Switch.DestHash

/-! MultiPathForwarder chooses one of several links. With a DestHashClassifier
attached, GRANTs and REQUEST packets go by a hash of the pair of hosts and seq,
and what leaves is charged to the phantom queue of its port. -/

set_option autoImplicit false

namespace PhantomPass.Switch

/-- An object in a slot: its pointer, and intf_label of the NetworkInterface
behind the link, if there is one. -/
structure NsObject where
  pointer : ℕ
  ifaceLabel : Option ℤ
  deriving DecidableEq

/-- What the C library leaves open: how qsort arranges the slots, whose
comparison is no order, and what rand draws first behind a seed. -/
structure CLibrary where
  qsort : List (Option NsObject) → List (Option NsObject)
  qsort_perm : ∀ slots, (qsort slots).Perm slots
  rand : ℕ → ℕ

theorem CLibrary.qsort_ne_nil (lib : CLibrary) {slots : List (Option NsObject)} (some_slot : slots ≠ []) :
    lib.qsort slots ≠ [] := by
  intro none
  have perm := lib.qsort_perm slots
  rw [none] at perm
  exact some_slot perm.nil_eq.symm

structure MultiPathForwarder where
  nodeid : ℤ
  nodetype : ℕ
  symmetric : Bool
  perflow : Bool
  checkpathid : Bool
  shift : ℕ := 0
  mask : ℕ := 0xffffffff
  ns : ℕ := 0
  sortedMaxslot : ℤ := -1
  /-- slot_ up to maxslot_ -/
  slots : List (Option NsObject)
  some_slot : slots ≠ []
  destHashClassifier : Option DestHashClassifier := none

def intBytes (z : ℤ) : List (BitVec 8) :=
  [BitVec.ofInt 8 z, BitVec.ofInt 8 (z / 2 ^ 8), BitVec.ofInt 8 (z / 2 ^ 16), BitVec.ofInt 8 (z / 2 ^ 24)]

def hashString (bytes : List (BitVec 8)) : BitVec 32 :=
  bytes.foldl (fun result byte => result + ((result <<< 3) + BitVec.ofInt 32 byte.toInt)) 0

def hashStringInts (lib : CLibrary) (ints : List ℤ) : ℕ :=
  lib.rand (ints.foldl (fun result int => result ^^^ lib.rand (BitVec.ofInt 32 int).toNat) 0)

def crcBit (crc : BitVec 32) : BitVec 32 := (crc >>> 1) ^^^ (0xEDB88320 &&& -(crc &&& 1))

def crc32 (crc : BitVec 32) (data : List (BitVec 8)) : BitVec 32 :=
  ~~~(data.foldl (fun crc byte => crcBit^[8] (crc ^^^ byte.setWidth 32)) (~~~crc))

/-- The packed key of a packet: a REQUEST packet goes by the key of the GRANT
that comes the other way. -/
def pathKey (p : Packet) : List (BitVec 8) :=
  if p.hdr.msgType = .request then intBytes p.dst ++ intBytes p.src ++ intBytes p.hdr.seq
  else intBytes p.src ++ intBytes p.dst ++ intBytes p.hdr.seq

namespace MultiPathForwarder

variable (f : MultiPathForwarder)

/-- maxslot_ + 1 -/
def width : ℕ := f.slots.length

def mshift (addr : Addr) : ℕ := (addr >>> f.shift) &&& f.mask

/-- slot_[i] points at an object; behind maxslot_ no slot does. -/
def Filled (slots : List (Option NsObject)) (i : ℕ) : Prop := (slots[i]?).join ≠ none

instance (slots : List (Option NsObject)) (i : ℕ) : Decidable (Filled slots i) :=
  inferInstanceAs (Decidable (_ ≠ none))

/-- The loop over the slots: from one position to the next until a slot is taken
or all were seen; the slot, and the position behind it. -/
def occupied (slots : List (Option NsObject)) (fail : ℕ) : ℕ → ℕ → ℕ × ℕ
  | 0, ms => (ms, (ms + 1) % slots.length)
  | turns + 1, ms =>
    let next := (ms + 1) % slots.length
    if ¬ Filled slots ms ∧ next ≠ fail then occupied slots fail turns next else (ms, next)

def firstOccupied (slots : List (Option NsObject)) (ms : ℕ) : ℕ × ℕ := occupied slots ms slots.length ms

def chooseSlot (lib : CLibrary) (p : Packet) : ℕ × MultiPathForwarder :=
  let src := f.mshift p.src
  let dst := f.mshift p.dst
  if f.symmetric then
    -- sorted once, and again when slots were installed behind
    let unsorted := f.sortedMaxslot = -1 ∨ f.sortedMaxslot < f.width - 1
    let f : MultiPathForwarder := if unsorted then
      { f with
        slots := lib.qsort f.slots
        some_slot := lib.qsort_ne_nil f.some_slot
        sortedMaxslot := f.width - 1 } else f
    let ms := hashStringInts lib [p.flowid, f.nodetype, min src dst, max src dst]
    ((firstOccupied f.slots (ms % f.width)).1, f)
  else if f.perflow ∨ f.checkpathid then
    let ms := hashString (intBytes f.nodeid ++ intBytes src ++ intBytes dst ++ intBytes p.flowid)
    let ms := if f.checkpathid then ms + BitVec.ofInt 32 p.prio else ms
    ((firstOccupied f.slots (ms.toNat % f.width)).1, f)
  else
    -- the links in turn, one packet each
    let (cl, ns) := firstOccupied f.slots f.ns
    (cl, { f with ns })

def getIface (slot : ℕ) : Option ℤ := (f.slots[slot]?).bind fun obj => obj.bind NsObject.ifaceLabel

theorem width_chooseSlot (lib : CLibrary) (p : Packet) : (f.chooseSlot lib p).2.width = f.width ∧
    (f.chooseSlot lib p).2.destHashClassifier = f.destHashClassifier := by
  unfold chooseSlot
  dsimp only
  split
  · split
    · exact ⟨(lib.qsort_perm f.slots).length_eq, rfl⟩
    · exact ⟨rfl, rfl⟩
  · split
    · exact ⟨rfl, rfl⟩
    · exact ⟨rfl, rfl⟩

section Classify

variable {α : Type*} [LinearOrder α] [Zero α] [Sub α] [NatCast α]

/-- classify: the slot of an R2P2 packet, the forwarder after it, the ports of
the attached classifier and whether the packet gets a mark. -/
def classify (lengths : Lengths α) (lib : CLibrary) (ports : Ports α) (p : Packet) (now : Time) (byteLength : ℤ → ℤ) :
    ℕ × MultiPathForwarder × Ports α × Bool :=
  let (cl, f) := f.chooseSlot lib p
  match f.destHashClassifier with
  | none => (cl, f, ports, false)
  | some c =>
    -- the hash replaces the choice, and may hit an empty slot
    let cl := if p.hdr.msgType = .grant ∨ p.hdr.msgType = .request then (crc32 0 (pathKey p)).toNat % f.width else cl
    match f.getIface cl with
    | none => (cl, f, ports, false)
    | some ifaceOut => (cl, f, c.touch lengths ports (.leave ifaceOut p now (byteLength ifaceOut)))

/-- With a classifier attached, a GRANT or REQUEST packet goes by its key, whatever
the forwarder would choose by itself. -/
theorem classify_slot (lengths : Lengths α) (lib : CLibrary) (ports : Ports α) {p : Packet} (now : Time)
    (byteLength : ℤ → ℤ) (attached : f.destHashClassifier ≠ none)
    (kind : p.hdr.msgType = .grant ∨ p.hdr.msgType = .request) :
    (f.classify lengths lib ports p now byteLength).1 = (crc32 0 (pathKey p)).toNat % f.width := by
  obtain ⟨width, same⟩ := f.width_chooseSlot lib p
  unfold classify
  dsimp only
  split
  · next nothing => exact absurd (same.symm.trans nothing) attached
  · rw [if_pos kind, width]
    split
    · rfl
    · rfl

end Classify

theorem pathKey_eq {g p : Packet} (grant : g.hdr.msgType = .grant) (request : p.hdr.msgType = .request)
    (src : g.src = p.dst) (dst : g.dst = p.src) (seq : g.hdr.seq = p.hdr.seq) : pathKey g = pathKey p := by
  have other : ¬ g.hdr.msgType = .request := by rw [grant]; decide
  unfold pathKey
  rw [if_neg other, if_pos request, src, dst, seq]

end MultiPathForwarder

end PhantomPass.Switch
