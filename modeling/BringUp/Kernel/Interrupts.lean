import BringUp.Kernel.Dispatch

/-!
# Interrupts of the running kernel

The running kernel touches its dispatcher only with interrupts held off, so that an interrupt
never finds the dispatcher taken by the code it interrupted. Holding interrupts off puts back
what it found, and so it may be nested.
-/

namespace BringUp.Kernel

set_option autoImplicit false

/-- Runs `body` with interrupts held off, then puts the interrupt flag back. -/
def withoutInterrupts {σ α : Type} [Cpu σ] (body : Code σ α) : Code σ α := do
  let wereEnabled ← Code.observe Cpu.interruptsEnabled
  if wereEnabled then Code.change Cpu.disableInterrupts
  let result ← body
  if wereEnabled then Code.change Cpu.enableInterrupts
  return result

variable {M H E α : Type} [Cpu M]

/-- Installs a handler. Handlers may do this too. -/
def register (vector : UInt8) (handler : H) : Code (Kernel M H E) Unit :=
  withoutInterrupts (exclusively (Code.atomic (addHandler vector handler)))

def unregister (vector : UInt8) : Code (Kernel M H E) Unit :=
  withoutInterrupts (exclusively (Code.atomic (removeHandler vector)))

/-- Runs code that drives the controller pair. -/
def withPair (body : Code (Kernel M H E) α) : Code (Kernel M H E) α :=
  withoutInterrupts (exclusively body)

def haltForever : Code (Kernel M H E) α := do
  Code.change Cpu.halt
  Code.stop .halted

/-- How an interrupt ends: back to the interrupted code, or not at all. -/
def conclude : Disposition × Frame → Code (Kernel M H E) Frame
  | (.halt _, _) => haltForever
  | (.resume, frame) => return frame

/-- What the entry code of every vector calls with the frame it built. -/
def deliver [PortSpace M] (service : Service H (Kernel M H E)) (frame : Frame) :
    Code (Kernel M H E) Frame := do
  conclude (← dispatchShared service frame)

end BringUp.Kernel
