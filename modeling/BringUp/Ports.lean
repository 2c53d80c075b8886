import BringUp.Fault
import BringUp.Text.Outline

/-!
# The port space

Devices are driven through byte-wide ports. Any state that answers reads and takes writes can
stand for the port space: the controller pair on a test bench, or a whole processor.
-/

namespace BringUp

set_option autoImplicit false

inductive PortOperation where
  | read (port : UInt16) (value : UInt8)
  | write (port : UInt16) (value : UInt8)
  deriving DecidableEq

/-- States of which a part answers port accesses. -/
class PortSpace (σ : Type) where
  input (port : UInt16) (s : σ) : UInt8 × σ
  output (port : UInt16) (value : UInt8) (s : σ) : σ

/-- A state has the port space of its part. `view` finds the part and `update` puts it back. -/
@[reducible]
def PortSpace.ofPart {σ τ : Type} [PortSpace τ] (view : σ → τ) (update : τ → σ → σ) :
    PortSpace σ where
  input port s := ((input port (view s)).1, update (input port (view s)).2 s)
  output port value s := update (output port value (view s)) s

namespace Port

variable {σ : Type} [PortSpace σ]

def read (port : UInt16) : Action σ UInt8 := fun s =>
  match PortSpace.input port s with
  | (value, s') => .ok value s'

def write (port : UInt16) (value : UInt8) : Action σ Unit := fun s =>
  .ok () (PortSpace.output port value s)

/-- The unused diagnostic port. -/
def settling : UInt16 := 0x80

/-- A write to the diagnostic port gives a slow device time between two words. -/
def settle : Action σ Unit := write settling 0

/-- The port instructions remember nothing, so there is only their name to show. -/
def outline : Text.Outline := .wrapped "RawPorts" [.text "()"]

end Port

end BringUp
