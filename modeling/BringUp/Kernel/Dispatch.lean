import BringUp.Code
import BringUp.Exception.Report
import BringUp.Kernel

/-!
# Dispatch

An interrupt takes one of two routes. An exception of the processor is reported and halts the
machine, whatever handlers there are. Any other vector runs its handler, if it has one, and is
then acknowledged if it belongs to a controller line. The line is found before the handler runs,
so a handler that changes the frame does not change what is acknowledged.

There are two ways in. The first belongs to an owner of the dispatcher. The second is for a
dispatcher that others share: it gives up the lock while the handler runs, so that the handler
may register and unregister handlers itself.
-/

namespace BringUp

set_option autoImplicit false

/-- What the interrupt entry must do once dispatch returns. -/
inductive Disposition where
  | resume
  /-- An exception occurred: stop the processor for good. -/
  | halt (report : Exception.Report)
  deriving DecidableEq

inductive Route (H : Type) where
  | halt (report : Exception.Report)
  /-- Run the handler and acknowledge the line, where there is one. -/
  | run (handler : Option H) (line : Option UInt8)

/-- How handlers run: a handler turns the frame it is given into the frame it leaves. -/
abbrev Service (H σ : Type) := H → Frame → Code σ Frame

namespace Kernel

variable {M H E α : Type}

section Registration

/-- Puts a handler into its slot; replacing another is noted. -/
def replaceHandler (vector : UInt8) (handler : H) : Action (Kernel M H E) Unit := do
  let kernel ← get
  let (previous, handlers) := kernel.dispatcher.handlers.register vector handler
  set { kernel with dispatcher := { kernel.dispatcher with handlers } }
  if previous.isSome then
    Console.log .debug ("Replaced handler for vector " ++ toString vector)

/-- Installs a handler; the last one installed on a vector counts. -/
def addHandler (vector : UInt8) (handler : H) : Action (Kernel M H E) Unit := do
  if vector < Controller.exceptionVectors then
    Console.log .warn
      ("Handler registered on exception vector " ++ toString vector ++
        "; exceptions are always fatal")
  replaceHandler vector handler

def removeHandler (vector : UInt8) : Action (Kernel M H E) Unit := do
  let kernel ← get
  let (_, handlers) := kernel.dispatcher.handlers.unregister vector
  set { kernel with dispatcher := { kernel.dispatcher with handlers } }

end Registration

section Locks

def release (kernel : Kernel M H E) : Kernel M H E := { kernel with held := false }

def hold (kernel : Kernel M H E) : Kernel M H E := { kernel with held := true }

/-- Takes the dispatcher once it is free. -/
def take : Code (Kernel M H E) Unit :=
  .step (fun kernel => !kernel.held) hold fun _ => .done ()

/-- Takes the dispatcher if it is free; tells whether it was. -/
def tryTake : Code (Kernel M H E) Bool :=
  .step (fun _ => true) hold fun kernel => .done (!kernel.held)

/-- Runs `body` with the dispatcher to itself. -/
def exclusively (body : Code (Kernel M H E) α) : Code (Kernel M H E) α := do
  take
  body.releasing release

end Locks

section Dispatching

variable [Cpu M]

/-- Finds where an interrupt goes. A fatal exception is reported here, and an interrupt without a
handler is counted here. -/
def route (frame : Frame) : Action (Kernel M H E) (Route H) := do
  match ← Exception.Report.printFatal frame with
  | some report => return .halt report
  | none =>
      let kernel ← get
      let handler := kernel.dispatcher.handlers.get frame.vectorByte
      if handler.isNone then
        set { kernel with
          dispatcher :=
            { kernel.dispatcher with unhandled := kernel.dispatcher.unhandled + 1 } }
        Console.log .debug ("Unhandled interrupt: " ++ toString frame.vectorByte)
      return .run handler (kernel.dispatcher.pair.lineFor frame.vectorByte)

def serve {σ : Type} (service : Service H σ) (handler : Option H) (frame : Frame) :
    Code σ Frame :=
  match handler with
  | none => pure frame
  | some handler => service handler frame

variable [PortSpace M]

def acknowledge (line : Option UInt8) : Action (Kernel M H E) Unit :=
  match line with
  | none => pure ()
  | some line => Controller.Pair.endOfInterrupt line

/-- Dispatch for an owner of the dispatcher. -/
def dispatch (service : Service H (Kernel M H E)) (frame : Frame) :
    Code (Kernel M H E) (Disposition × Frame) := do
  match ← Code.atomic (route frame) with
  | .halt report => return (.halt report, frame)
  | .run handler line =>
      let frame ← serve service handler frame
      Code.atomic (acknowledge line)
      return (.resume, frame)

/-- What is left to do when somebody else holds the dispatcher: exceptions are still fatal, and
anything else is only noted. -/
def dispatchBusy (frame : Frame) : Action (Kernel M H E) Disposition := do
  match ← Exception.Report.printFatal frame with
  | some report => return .halt report
  | none =>
      Console.log .warn
        ("Vector " ++ toString frame.vector ++ " arrived while the dispatcher was busy")
      return .resume

/-- Dispatch once the shared dispatcher has been taken. The lock is held to find the route and
again to acknowledge, but not while the handler runs. -/
def dispatchTaken (service : Service H (Kernel M H E)) (frame : Frame) :
    Code (Kernel M H E) (Disposition × Frame) := do
  match ← (Code.atomic (route frame)).releasing release with
  | .halt report => return (.halt report, frame)
  | .run handler line =>
      let frame ← serve service handler frame
      exclusively (Code.atomic (acknowledge line))
      return (.resume, frame)

/-- Dispatch through a shared dispatcher, if it can be had at once. -/
def dispatchShared (service : Service H (Kernel M H E)) (frame : Frame) :
    Code (Kernel M H E) (Disposition × Frame) := do
  if ← tryTake then
    dispatchTaken service frame
  else
    let disposition ← Code.atomic (dispatchBusy frame)
    return (disposition, frame)

end Dispatching

end Kernel

end BringUp
