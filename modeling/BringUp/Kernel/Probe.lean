import BringUp.Kernel.Interrupts
import BringUp.Kernel.Timer

/-!
# Probe handlers

A stock of handlers with known effects, for watching delivery at work. All but the timer note
that they were called. Some change the frame, some use the dispatcher, and some deliver another
interrupt from within. The latter raise the vector by one each time and end at the exceptions,
which halt, so a chain of them has fewer than 256 members.
-/

namespace BringUp

set_option autoImplicit false

inductive Probe where
  | countA
  | countB
  | incrementEax
  | setEax
  | tick
  | clobber
  | log
  | fail
  | registerNext
  | nested
  | nestedLocked
  | maskSelf
  deriving DecidableEq

namespace Probe

def name : Probe → String
  | countA => "count_a"
  | countB => "count_b"
  | incrementEax => "inc_eax"
  | setEax => "set_eax"
  | tick => "tick"
  | clobber => "clobber"
  | log => "log"
  | fail => "fail"
  | registerNext => "register_next"
  | nested => "nested"
  | nestedLocked => "nested_locked"
  | maskSelf => "mask_self"

def all : List Probe :=
  [countA, countB, incrementEax, setEax, tick, clobber, log, fail, registerNext, nested,
   nestedLocked, maskSelf]

def ofName? (name : String) : Option Probe := all.find? fun probe => probe.name = name

inductive Note where
  /-- A probe was called with a frame of this vector word. -/
  | called (probe : Probe) (vector : UInt32)
  /-- A delivery from within came back with this vector word. -/
  | cameBack (vector : UInt32) (disposition : Disposition)

/-- A kernel whose handlers are probes. -/
abbrev Host (M : Type) := Kernel M Probe (List Note)

variable {M : Type}

def note (entry : Note) : Code (Host M) Unit :=
  Code.change fun kernel => { kernel with own := kernel.own ++ [entry] }

/-- What a probe makes of the frame. -/
def alter (frame : Frame) : Probe → Frame
  | incrementEax => { frame with eax := frame.eax + 1 }
  | setEax => { frame with eax := 0x1234 }
  | clobber =>
      ⟨1, 2, 3, 4, 5, 6, 7, 8, 9, 200, 0xDEADBEEF, frame.eip + 2, 0x1B, 0⟩
  | _ => frame

/-- How probes reach the dispatcher. -/
structure Reach (σ : Type) where
  registerNext (vector : UInt8) : Code σ Unit
  maskSelf (vector : UInt8) : Code σ Unit
  nested (frame : Frame) : Code σ Unit
  nestedLocked (frame : Frame) : Code σ Unit

def service (reach : Reach (Host M)) : Service Probe (Host M) := fun probe frame => do
  let vector := frame.vectorByte
  let inner := (Frame.ofVector (vector + 1)).withErrorCode frame.errorCode
  if probe ≠ tick then note (.called probe frame.vector)
  match probe with
  | tick => Code.atomic Timer.tick
  | log => Code.atomic (Console.log .info ("handler on vector " ++ toString frame.vector))
  | fail => Code.stop (.fault (.handlerFailed frame.vector))
  | registerNext => reach.registerNext vector
  | maskSelf => reach.maskSelf vector
  | nested => reach.nested inner
  | nestedLocked => reach.nestedLocked inner
  | _ => pure ()
  return probe.alter frame

/-- Probes at the end of a chain of deliveries reach nothing. -/
def Reach.none : Reach (Host M) where
  registerNext _ := pure ()
  maskSelf _ := pure ()
  nested _ := pure ()
  nestedLocked _ := pure ()

section Reaching

variable [Cpu M] [PortSpace M]

/-- Holds back the line that delivers on a vector, if there is one. -/
def maskLineOf (vector : UInt8) : Action (Host M) Unit := do
  match (← get).dispatcher.pair.lineFor vector with
  | some line => Controller.Pair.disableLine line
  | none => pure ()

/-- Runs `body` with the dispatcher to itself if it can be had at once. -/
def ifFree {α : Type} (body : Code (Host M) α) (otherwise : Code (Host M) α) :
    Code (Host M) α := do
  if ← Kernel.tryTake then body.releasing Kernel.release else otherwise

/-- Delivers another interrupt through the shared dispatcher and notes how it came back. -/
def nestShared (deeper : Service Probe (Host M)) (frame : Frame) : Code (Host M) Unit := do
  let (disposition, frame) ← Kernel.dispatchShared deeper frame
  note (.cameBack frame.vector disposition)

def Reach.shared (deeper : Service Probe (Host M)) : Reach (Host M) where
  registerNext vector :=
    ifFree
      (Code.atomic do
        Kernel.addHandler (vector + 1) countB
        Kernel.removeHandler vector)
      (Code.stop (.fault .dispatcherHeld))
  maskSelf vector := ifFree (Code.atomic (maskLineOf vector)) (pure ())
  nested := nestShared deeper
  nestedLocked frame := ifFree (nestShared deeper frame) (nestShared deeper frame)

def Reach.running (deeper : Service Probe (Host M)) : Reach (Host M) where
  registerNext vector := do
    Kernel.register (vector + 1) countB
    Kernel.unregister vector
  maskSelf vector := Kernel.withPair (Code.atomic (maskLineOf vector))
  nested frame := do
    let _ ← Kernel.deliver deeper frame
  nestedLocked frame := Kernel.withPair do
    let _ ← Kernel.deliver deeper frame

/-- Probes on a shared dispatcher, with at most `depth` deliveries inside each other. -/
def sharedWithin : Nat → Service Probe (Host M)
  | 0 => service .none
  | depth + 1 => service (.shared (sharedWithin depth))

/-- Probes under the running kernel, with at most `depth` deliveries inside each other. -/
def runningWithin : Nat → Service Probe (Host M)
  | 0 => service .none
  | depth + 1 => service (.running (runningWithin depth))

def shared : Service Probe (Host M) := sharedWithin 256

def running : Service Probe (Host M) := runningWithin 256

end Reaching

end Probe

end BringUp
