import BringUp.Paging.Identity

/-!
# Page faults

A page fault comes with an error code, whose low bits say what went wrong, and with the address
whose access failed.
-/

namespace BringUp.Exception

set_option autoImplicit false

inductive Cause where
  | notPresent
  | protectionViolation
  deriving DecidableEq

inductive Access where
  | read
  | write
  deriving DecidableEq

inductive Mode where
  | supervisor
  | user
  deriving DecidableEq

def Cause.text : Cause → String
  | notPresent => "non-present page"
  | protectionViolation => "protection violation"

def Cause.name : Cause → String
  | notPresent => "NotPresent"
  | protectionViolation => "ProtectionViolation"

def Access.text : Access → String
  | read => "read"
  | write => "write"

def Access.name : Access → String
  | read => "Read"
  | write => "Write"

def Mode.text : Mode → String
  | supervisor => "supervisor-mode"
  | user => "user-mode"

def Mode.name : Mode → String
  | supervisor => "Supervisor"
  | user => "User"

structure PageFault where
  address : UInt32
  cause : Cause
  access : Access
  mode : Mode
  /-- A bit that must be zero was set in an entry on the way. -/
  reservedBit : Bool
  /-- The access was the fetch of an instruction. -/
  fetch : Bool
  /-- The address lies in the identity window. -/
  inWindow : Bool
  deriving DecidableEq

namespace PageFault

/-- Whether bit `n` of an error code is set. -/
def bit (errorCode : UInt32) (n : Nat) : Bool := errorCode.toNat.testBit n

/-- What error code and address say. Only the five low bits of the code count. -/
def decode (errorCode address : UInt32) : PageFault where
  address := address
  cause := if bit errorCode 0 then .protectionViolation else .notPresent
  access := if bit errorCode 1 then .write else .read
  mode := if bit errorCode 2 then .user else .supervisor
  reservedBit := bit errorCode 3
  fetch := bit errorCode 4
  inWindow := address.toNat < Paging.identityWindow

def text (fault : PageFault) : String :=
  fault.cause.text ++ " on " ++ fault.access.text ++ " at " ++
    Text.hexFilled 10 fault.address.toNat ++ " in " ++ fault.mode.text ++
    (if fault.reservedBit then ", reserved bit set" else "") ++
    (if fault.fetch then ", instruction fetch" else "") ++
    (if fault.inWindow then "" else ", outside the identity-mapped window")

def outline (fault : PageFault) : Text.Outline :=
  .record "PageFaultInfo" [
    .part "address" (.number fault.address.toNat),
    .part "cause" (.text fault.cause.name),
    .part "access" (.text fault.access.name),
    .part "mode" (.text fault.mode.name),
    .part "reserved_bit_violation" (.flag fault.reservedBit),
    .part "instruction_fetch" (.flag fault.fetch),
    .part "in_identity_window" (.flag fault.inWindow)]

end PageFault

end BringUp.Exception
