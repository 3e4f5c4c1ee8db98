import Mathlib
import PhantomPass.Lib.Checked
import PhantomPass.Wire

/-! What ExpressPass sends: credit requests, credits, data, credit stops and NACKs. -/

set_option autoImplicit false

namespace PhantomPass.Xpass

/-- The packet types PT_XPASS. -/
inductive PType
  | creditRequest | credit | data | creditStop | nack
  deriving DecidableEq

/-- What the application asked for, as the R2P2 header of a data packet carries it. -/
structure RequestIdTuple where
  appLevelId : ℤ
  msgBytes : ℤ
  isRequest : Bool
  clThreadId : ℤ
  clAddr : Addr
  srAddr : Addr
  ts : Time
  deriving DecidableEq

/-- The common, TCP and XPass headers, and the R2P2 header where there is one. -/
structure Packet where
  ptype : PType
  size : ℕ
  seqno : ℤ := 0
  ackno : ℤ := 0
  hlen : ℤ := 0
  creditSeq : ℤ := 0
  creditSentTime : Time := 0
  sendbuffer : ℤ := 0
  reqId : Option RequestIdTuple := none
  deriving DecidableEq

/-- How a run stops: an assertion, exit(1), abort() or an exception, each with its text. -/
inductive Fault
  | assertion (symbol text : String)
  | exited (symbol text : String)
  | aborted (symbol text : String)
  | thrown (symbol text : String)
  deriving DecidableEq

abbrev Checked := Except Fault

def assert (symbol text : String) (cond : Prop) [Decidable cond] : Checked PUnit :=
  Lib.require (.assertion symbol text) cond

end PhantomPass.Xpass
