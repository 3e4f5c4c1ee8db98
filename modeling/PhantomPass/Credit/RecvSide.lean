import PhantomPass.Credit.SendInvariant
import PhantomPass.Hybrid.SendGrants

/-! The receiving half of the credit protocol, without queues, policies and
pacing: inbound messages, what each sender owes, and the GRANTs sent. -/

set_option autoImplicit false

namespace PhantomPass

open Lib (Store)

namespace InboundMsgState

def base (o : InboundMsgState) : ℕ := o.firstHeader.unsolCreditData.toNat

def nextData (o : InboundMsgState) : ℕ := min ethernet.mss (o.dataBytesExpected - o.dataBytesGranted)

def afterGrant (o : InboundMsgState) : InboundMsgState :=
  { o with seq := o.seq + o.nextData, dataBytesGranted := o.dataBytesGranted + o.nextData }

def drawn (o : InboundMsgState) : ℤ :=
  ethernet.wire (o.dataBytesExpected - o.base) - ethernet.wire (o.dataBytesExpected - o.dataBytesGranted)

def fresh (p : Packet) : InboundMsgState := { reqId := p.uniqReqId, remoteAddr := p.src, firstHeader := p.hdr }

def learns (o : InboundMsgState) (p : Packet) : Bool := decide (0 < p.hdr.creditReq) && !o.receivedMsgInfo

def noted (p : Packet) (o : InboundMsgState) : InboundMsgState :=
  { o with
    dataBytesExpected := p.hdr.creditReq
    receivedMsgInfo := true
    dataBytesGranted := if 0 < p.hdr.unsolCredit then p.hdr.unsolCreditData.toNat else o.dataBytesGranted }

def received (p : Packet) (o : InboundMsgState) : InboundMsgState :=
  { o with dataBytesReceived := o.dataBytesReceived + p.payload }

def arrive (p : Packet) (o : InboundMsgState) : InboundMsgState :=
  let o := if o.learns p then o.noted p else o
  if p.isData then o.received p else o

/-- All that the message's sender announced has arrived and is granted. -/
def Complete (o : InboundMsgState) : Prop :=
  o.receivedMsgInfo = true ∧ o.dataBytesReceived = o.dataBytesExpected ∧ o.dataBytesGranted = o.dataBytesExpected

def debit (o : InboundMsgState) (p : Packet) : ℤ := if o.learns p ∧ 0 < p.hdr.unsolCredit then p.hdr.unsolCredit else 0

end InboundMsgState

def Packet.refund (p : Packet) : ℤ := if p.isData then p.wireCost else 0

/-- The inbound messages of a host and its accounts. A sender owes what it took
from its budget and did not bring back; arrived leaves out GRANTs and the
replies that pass untouched. -/
structure RecvSide where
  addr : Addr
  objs : Store UniqReqId InboundMsgState
  live : Finset UniqReqId
  senders : List Addr
  owed : Addr → ℤ
  lent : ℤ
  granted : ℤ
  replenished : ℤ
  requested : ℤ
  dataGranted : ℤ
  arrived : List Packet
  grants : List Packet

namespace RecvSide

variable (r : RecvSide)

def ofSender (sender : Addr) (f : InboundMsgState → ℤ) : ℤ :=
  r.objs.total fun _ o => if o.remoteAddr = sender then f o else 0

def current (p : Packet) : InboundMsgState :=
  if p.uniqReqId ∈ r.live then r.objs.get p.uniqReqId else .fresh p

def meet (sender : Addr) : RecvSide :=
  { r with senders := if sender ∈ r.senders then r.senders else r.senders ++ [sender] }

def arrive (p : Packet) : RecvSide :=
  let o := r.current p
  { r with
    objs := r.objs.insert p.uniqReqId (o.arrive p)
    live := insert p.uniqReqId r.live
    owed := fun sender => r.owed sender + (if o.remoteAddr = sender then o.debit p else 0) -
      if p.src = sender then p.refund else 0
    lent := r.lent + o.debit p - p.refund
    granted := r.granted + o.debit p
    replenished := r.replenished + p.refund
    requested := r.requested + if o.learns p then (p.hdr.creditReq : ℤ) else 0
    arrived := r.arrived ++ [p] }

def grant (id : UniqReqId) (p : Packet) : RecvSide :=
  let o := r.objs.get id
  { r with
    objs := r.objs.modify id InboundMsgState.afterGrant
    owed := Function.update r.owed o.remoteAddr (r.owed o.remoteAddr + ethernet.cost o.nextData)
    lent := r.lent + ethernet.cost o.nextData
    granted := r.granted + ethernet.cost o.nextData
    dataGranted := r.dataGranted + o.nextData
    grants := r.grants ++ [p] }

def retire (id : UniqReqId) : RecvSide := { r with live := r.live.erase id }

inductive Step : RecvSide → RecvSide → Prop
  | grant {r : RecvSide} (id : UniqReqId) (now : Time) (p : Packet) : id ∈ r.live →
      (r.objs.get id).receivedMsgInfo = true → (r.objs.get id).dataBytesGranted < (r.objs.get id).dataBytesExpected →
      p.Carries (Host.grantHdr (r.objs.get id).afterGrant (ethernet.cost (r.objs.get id).nextData)
        (ethernet.cost (r.objs.get id).nextData - ((r.objs.get id).nextData + wireOverhead : ℕ)) now)
        grantMsgSize r.addr (r.objs.get id).remoteAddr →
      Step r (r.grant id p)
  | retire {r : RecvSide} (id : UniqReqId) : id ∈ r.live → (r.objs.get id).Complete → Step r (r.retire id)

def Steps : RecvSide → RecvSide → Prop := Relation.ReflTransGen Step

theorem Steps.objs_keys {r r' : RecvSide} (steps : Steps r r') : r'.objs.keys = r.objs.keys := by
  induction steps with
  | refl => rfl
  | tail _ last ih =>
    rw [← ih]
    cases last with
    | grant id now p => rfl
    | retire id => rfl

section Totals

variable {r}

theorem ofSender_modify {r' : RecvSide} {id : UniqReqId} {change : InboundMsgState → InboundMsgState}
    (objs : r'.objs = r.objs.modify id change) (inside : id ∈ r.objs.keys)
    (stays : (change (r.objs.get id)).remoteAddr = (r.objs.get id).remoteAddr) (sender : Addr)
    (f : InboundMsgState → ℤ) : r'.ofSender sender f = r.ofSender sender f +
      if (r.objs.get id).remoteAddr = sender then f (change (r.objs.get id)) - f (r.objs.get id) else 0 := by
  unfold ofSender
  rw [objs, Store.total_modify _ _ inside, stays]
  split <;> ring

end Totals

end RecvSide

end PhantomPass
