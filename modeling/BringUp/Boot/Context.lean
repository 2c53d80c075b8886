import BringUp.Boot.Stage
import BringUp.Controller.Pair
import BringUp.Gate.Table
import BringUp.Paging.Identity

/-!
# The boot context

The context owns the tables that the processor reads from memory, at fixed distances from a page
boundary, and knows how far bring-up has got. It is a part of the state that the steps of bring-up
run on. A step first looks at the stage; only then does it touch tables, processor or controllers,
and what it has touched stays touched.
-/

namespace BringUp.Boot

set_option autoImplicit false

structure Context where
  place : Paging.PageFrame
  paging : Paging.Identity
  segments : Segment.Table
  gates : Gate.Table
  stage : Stage

namespace Context

def fresh (place : Paging.PageFrame) : Context := ⟨place, .empty, .empty, .empty, .reset⟩

/-- The segment table lies behind the two pages of the paging structures. -/
def segmentsAddress (context : Context) : UInt32 := context.place.address + 8192

/-- The gate table lies behind the 24 bytes of the segment table. -/
def gatesAddress (context : Context) : UInt32 := context.place.address + 8216

instance segmentsPart : HasPart Segment.Table Context where
  part := segments
  withPart segments context := { context with segments }

instance pagingPart : HasPart Paging.Identity Context where
  part := paging
  withPart paging context := { context with paging }

instance gatesPart : HasPart Gate.Table Context where
  part := gates
  withPart gates context := { context with gates }

section Whole

variable {σ : Type} [HasPart Context σ]

instance segmentsWithin : HasPart Segment.Table σ := .through Context

instance pagingWithin : HasPart Paging.Identity σ := .through Context

instance gatesWithin : HasPart Gate.Table σ := .through Context

end Whole

end Context

/-- Bring-up over a state, which may refuse a step. -/
abbrev Step (σ : Type) := ExceptT OutOfOrder (Action σ)

section Steps

variable {σ : Type}

def perform {α : Type} (work : Action σ α) : Step σ α := ExceptT.lift work

variable [HasPart Context σ]

/-- Refuses to go on at any other stage than the one required. -/
def require (expected : Stage) : Step σ Unit := do
  let context : Context ← perform Action.read
  if context.stage = expected then return else throw ⟨expected, context.stage⟩

def enter (stage : Stage) : Action σ Unit :=
  Action.inPlace (modify fun context : Context => { context with stage })

/-- Work that leads from one stage to another. -/
def between (expected reached : Stage) (work : Action σ Unit) : Step σ Unit := do
  require expected
  perform do
    work
    enter reached

variable [HasConsole σ]

/-- Moves the segment registers to the flat table. -/
def installSegments [Cpu σ] : Step σ Unit :=
  between .reset .segmented do
    let context : Context ← Action.read
    Segment.Table.install context.segmentsAddress

def installPaging [Cpu σ] : Step σ Unit :=
  between .segmented .paged do
    let context : Context ← Action.read
    Paging.Identity.install context.place

/-- Makes the gates for the entry code live. -/
def installGates [Cpu σ] (entries : Gate.EntryPoints) : Step σ Unit :=
  between .paged .vectorsInstalled do
    let context : Context ← Action.read
    Gate.Table.install entries context.gatesAddress

/-- Moves the controller lines off the exception vectors. -/
def remapController [PortSpace σ] (pair : Controller.Pair) : Step σ Unit :=
  between .vectorsInstalled .controllerRemapped pair.remap

/-- Sets the interrupt flag. The record of it comes after the stage has moved on. -/
def enableInterrupts [Cpu σ] : Step σ Unit := do
  require .controllerRemapped
  perform do
    modify Cpu.enableInterrupts
    enter .interruptsEnabled
    Console.log .info "Interrupts enabled"

end Steps

end BringUp.Boot
