import BringUp.Boot.Board
import BringUp.Kernel.Interrupts
import BringUp.Kernel.Timer

/-!
# Bring-up of the running kernel

From the loader's state to taking interrupts: the tables, the controllers with the timer's line
let through, the timer's handler, and at last the interrupt flag.
-/

namespace BringUp.Boot

set_option autoImplicit false

/-- The controllers are set up and the timer's line let through in one go. -/
def remapWithTimer {σ : Type} [HasPart Context σ] [PortSpace σ] [HasConsole σ]
    (pair : Controller.Pair) : Step σ Unit := do
  remapController pair
  perform (Controller.Pair.enableLine Timer.line)

variable {M H E : Type} [Cpu M] [PortSpace M] [HasPart Context M]

/-- One step on the way, at once. -/
def stepOf (step : Step (Kernel M H E) Unit) : ExceptT OutOfOrder (Code (Kernel M H E)) Unit :=
  Code.atomic step.run

/-- Brings the machine up, with `timer` handling the timer's interrupts. -/
def sequence (entries : Gate.EntryPoints) (pair : Controller.Pair) (timer : H) :
    ExceptT OutOfOrder (Code (Kernel M H E)) Unit := do
  stepOf installSegments
  stepOf installPaging
  stepOf (installGates entries)
  ExceptT.mk (Kernel.withPair (Code.atomic (remapWithTimer pair).run))
  ExceptT.lift (Kernel.register Gate.timerVector timer)
  stepOf enableInterrupts

end BringUp.Boot
