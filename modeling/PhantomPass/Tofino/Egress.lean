import PhantomPass.Tofino.Headers
import Mathlib

/-! The egress pipeline of the Tofino program: credit packets fill the phantom
queue of the port they came in by, all others drain that of the port they go
out by and may get a mark. Its text is the same for the words it computes with
and for exact numbers. -/

set_option autoImplicit false

namespace PhantomPass.Tofino

/-- What the program takes from the language: its constants, and the conversions
and the shift between time stamps, registers, the narrow length and depths. -/
structure Arithmetic (τ β γ δ : Type) where
  kPTHR : β
  PTHR : γ
  isEmptyThreshold : δ
  globalTstamp : τ → β
  totalLen : BitVec 16 → β
  credit : BitVec 32 → β
  shift : β → β
  narrow : β → γ

def bits : Arithmetic (BitVec 48) (BitVec 32) (BitVec 24) (BitVec 19) where
  kPTHR := Tofino.kPTHR.setWidth 32
  PTHR := Tofino.PTHR
  isEmptyThreshold := IsEMPTY_THRESHOLD
  globalTstamp stamp := stamp.setWidth 32
  totalLen length := length.setWidth 32
  credit credit := credit
  shift interval := interval <<< RHO_LINE_RATE
  narrow value := value.setWidth 24

/-- What the traffic manager and the egress parser say about a packet, and what
a register gives for it at an index without a cell. -/
structure EgressMetadata (τ β δ : Type) where
  egressPort : BitVec 9
  deqQdepth : δ
  globalTstamp : τ
  noCell : β

/-- Timestamp_Reg and Phantom_Queue_Reg. -/
structure Registers (β : Type) where
  timestampReg : Fin 32 → β
  phantomQueueReg : Fin 32 → β

def Registers.zero {β : Type} [Zero β] : Registers β := ⟨fun _ => 0, fun _ => 0⟩

structure Arrival (τ β δ : Type) where
  hdr : HeadersT
  md : EgressMetadata τ β δ

abbrev WordRegisters := Registers (BitVec 32)

abbrev WordArrival := Arrival (BitVec 48) (BitVec 32) (BitVec 19)

def cellAt (index : BitVec 9) : Option (Fin 32) := if small : index.toNat < 32 then some ⟨index.toNat, small⟩ else none

theorem cellAt_inj {a b : BitVec 9} {port : Fin 32} (first : cellAt a = some port) (second : cellAt b = some port) :
    a = b := by
  unfold cellAt at first second
  split at first
  · split at second
    · rw [← second, Option.some.injEq, Fin.mk.injEq] at first
      exact BitVec.eq_of_toNat_eq first
    · cases second
  · cases first

section Actions

variable {α : Type*} [LT α] [DecidableLT α] [Sub α] [Add α] [Zero α]

/-- The register after ppass_credit_pkt_action. -/
def ppassCreditPktAction (cap pktCredit value : α) : α :=
  if cap < value + pktCredit then cap else value + pktCredit

/-- The register after ppass_other_pkt_action, which is also its result. -/
def ppassOtherPktAction (ppassUnit value : α) : α := if value < ppassUnit then 0 else value - ppassUnit

def getPpassUint (reduceUnit pktLen : α) : α := reduceUnit - pktLen

def minOf (a b : α) : α := if b < a then b else a

end Actions

/-- What a RegisterAction gives for the cell at an index; without one the result is open. -/
def executed {β : Type} (reg : Fin 32 → β) (index : BitVec 9) (action : β → β) (noCell : β) : β :=
  (cellAt index).elim noCell fun port => action (reg port)

def execute {β : Type} (reg : Fin 32 → β) (index : BitVec 9) (action : β → β) : Fin 32 → β :=
  (cellAt index).elim reg fun port => Function.update reg port (action (reg port))

theorem execute_at {β : Type} (reg : Fin 32 → β) {index : BitVec 9} (action : β → β) {port : Fin 32}
    (cell : cellAt index = some port) : execute reg index action port = action (reg port) := by
  simp [execute, cell]

theorem executed_at {β : Type} (reg : Fin 32 → β) {index : BitVec 9} (action : β → β) (noCell : β) {port : Fin 32}
    (cell : cellAt index = some port) : executed reg index action noCell = action (reg port) := by
  simp [executed, cell]

theorem execute_frame {β : Type} (reg : Fin 32 → β) {index : BitVec 9} (action : β → β) {port : Fin 32}
    (elsewhere : cellAt index ≠ some port) : execute reg index action port = reg port := by
  unfold execute
  cases cell : cellAt index with
  | none => rfl
  | some other => exact Function.update_of_ne (fun same => elsewhere (by rw [cell, same])) _ _

namespace Arrival

variable {τ β δ : Type} (x : Arrival τ β δ)

def IsOther : Prop := ∃ ppass, x.hdr.ppass = some ppass ∧ ppass.msgType ≠ 1

def index : Option (BitVec 9) :=
  x.hdr.ppass.map fun ppass => if ppass.msgType = 1 then ppass.ingressPort.setWidth 9 else x.md.egressPort

def cell : Option (Fin 32) := x.index.bind cellAt

end Arrival

namespace Arithmetic

variable {τ β γ δ : Type} (a : Arithmetic τ β γ δ)

/-- get_and_update_timestamp: the result, with the register after it. -/
def getAndUpdateTimestamp [Sub β] (globalTstamp : τ) (value : β) : β × β :=
  (a.globalTstamp globalTstamp - value, a.globalTstamp globalTstamp)

def getReduceUint (interval : β) : β := a.shift interval

def nwMarkedAction [LT γ] [DecidableLT γ] (pqlen : γ) : γ := minOf a.PTHR pqlen

def isEmptyAction [LT δ] [DecidableLT δ] (deqQdepth : δ) : δ := minOf a.isEmptyThreshold deqQdepth

variable [LT β] [DecidableLT β] [Sub β] [Add β] [Zero β]

def egressCredit (regs : Registers β) (ppass : PpassH) : Registers β :=
  { regs with
    phantomQueueReg := execute regs.phantomQueueReg (ppass.ingressPort.setWidth 9)
      (ppassCreditPktAction a.kPTHR (a.credit ppass.credit)) }

/-- How far a packet that is no credit drains the queue of its egress port:
what has drained since the last such packet, less its own length. -/
def ppassUnit (regs : Registers β) (x : Arrival τ β δ) : β :=
  -- no PPass header comes without an IPv4 header
  let pktLen := a.totalLen ((x.hdr.ipv4.map Ipv4H.totalLen).getD 0)
  let interval := executed regs.timestampReg x.md.egressPort
    (fun value => (a.getAndUpdateTimestamp x.md.globalTstamp value).1) x.md.noCell
  getPpassUint (a.getReduceUint interval) pktLen

variable [LT γ] [DecidableLT γ] [DecidableEq γ] [LT δ] [DecidableLT δ] [DecidableEq δ]

/-- Any other packet: the registers, and whether it gets a mark. -/
def egressOther (regs : Registers β) (x : Arrival τ β δ) : Registers β × Bool :=
  let action := ppassOtherPktAction (a.ppassUnit regs x)
  let pqlen := a.narrow (executed regs.phantomQueueReg x.md.egressPort action x.md.noCell)
  ({ timestampReg := execute regs.timestampReg x.md.egressPort
       fun value => (a.getAndUpdateTimestamp x.md.globalTstamp value).2
     phantomQueueReg := execute regs.phantomQueueReg x.md.egressPort action },
    a.nwMarkedAction pqlen == a.PTHR && a.isEmptyAction x.md.deqQdepth == a.isEmptyThreshold)

def egress (regs : Registers β) (x : Arrival τ β δ) : Registers β × HeadersT :=
  match x.hdr.ppass with
  | none => (regs, x.hdr)
  | some ppass =>
    if ppass.msgType = 1 then (a.egressCredit regs ppass, x.hdr)
    else
      let (regs, mark) := a.egressOther regs x
      (regs, if mark then { x.hdr with ppass := some { ppass with nwMarked := 1 } } else x.hdr)

def run (regs : Registers β) (arrivals : List (Arrival τ β δ)) : Registers β :=
  arrivals.foldl (fun regs x => (a.egress regs x).1) regs

section Step

variable (regs : Registers β) (x : Arrival τ β δ)

theorem egress_other (other : x.IsOther) : (a.egress regs x).1 = (a.egressOther regs x).1 := by
  obtain ⟨ppass, valid, notCredit⟩ := other
  simp only [egress, valid, notCredit, if_false]

theorem egress_credit {ppass : PpassH} (valid : x.hdr.ppass = some ppass) (credit : ppass.msgType = 1) :
    a.egress regs x = (a.egressCredit regs ppass, x.hdr) := by
  simp only [egress, valid, credit, if_true]

theorem egress_hdr {ppass : PpassH} (valid : x.hdr.ppass = some ppass) (notCredit : ppass.msgType ≠ 1) :
    (a.egress regs x).2 =
      if (a.egressOther regs x).2 then { x.hdr with ppass := some { ppass with nwMarked := 1 } } else x.hdr := by
  simp only [egress, valid, notCredit, if_false]

theorem egress_queue_other (other : x.IsOther) {port : Fin 32} (cell : cellAt x.md.egressPort = some port) :
    (a.egress regs x).1.phantomQueueReg port =
      ppassOtherPktAction (a.ppassUnit regs x) (regs.phantomQueueReg port) := by
  rw [a.egress_other regs x other]
  exact execute_at _ _ cell

theorem egress_queue_credit {ppass : PpassH} (valid : x.hdr.ppass = some ppass) (credit : ppass.msgType = 1)
    {port : Fin 32} (cell : cellAt (ppass.ingressPort.setWidth 9) = some port) :
    (a.egress regs x).1.phantomQueueReg port =
      ppassCreditPktAction a.kPTHR (a.credit ppass.credit) (regs.phantomQueueReg port) := by
  rw [a.egress_credit regs x valid credit]
  exact execute_at _ _ cell

theorem egress_frame {port : Fin 32} (elsewhere : x.cell ≠ some port) :
    (a.egress regs x).1.phantomQueueReg port = regs.phantomQueueReg port := by
  unfold egress
  unfold Arrival.cell Arrival.index at elsewhere
  cases valid : x.hdr.ppass with
  | none => rfl
  | some ppass =>
    simp only [valid, Option.map_some, Option.bind_some] at elsewhere
    dsimp only
    split
    · next credit =>
      rw [if_pos credit] at elsewhere
      exact execute_frame _ _ elsewhere
    · next other =>
      rw [if_neg other] at elsewhere
      exact execute_frame _ _ elsewhere

theorem timestamp_other (other : x.IsOther) {port : Fin 32} (cell : cellAt x.md.egressPort = some port) :
    (a.egress regs x).1.timestampReg port = a.globalTstamp x.md.globalTstamp := by
  rw [a.egress_other regs x other]
  exact execute_at _ (fun value => (a.getAndUpdateTimestamp x.md.globalTstamp value).2) cell

theorem timestamp_frame {port : Fin 32} (elsewhere : x.IsOther → cellAt x.md.egressPort ≠ some port) :
    (a.egress regs x).1.timestampReg port = regs.timestampReg port := by
  unfold egress
  cases valid : x.hdr.ppass with
  | none => rfl
  | some ppass =>
    dsimp only
    split
    · rfl
    · next other =>
      exact execute_frame _ (fun value => (a.getAndUpdateTimestamp x.md.globalTstamp value).2)
        (elsewhere ⟨ppass, valid, other⟩)

theorem timestamp_run (arrivals : List (Arrival τ β δ)) {port : Fin 32}
    (elsewhere : ∀ y ∈ arrivals, y.IsOther → cellAt y.md.egressPort ≠ some port) :
    (a.run regs arrivals).timestampReg port = regs.timestampReg port := by
  induction arrivals generalizing regs with
  | nil => rfl
  | cons y arrivals ih =>
    have later := ih (a.egress regs y).1 fun z mem => elsewhere z (by simp [mem])
    exact later.trans (a.timestamp_frame regs y (elsewhere y (by simp)))

end Step

end Arithmetic

end PhantomPass.Tofino
