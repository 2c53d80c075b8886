import BringUp.Text.Outline

/-!
# One interrupt controller chip

A chip takes bytes on a command port and a data port. Outside its set-up sequence a data byte is
the mask register. A command byte with the set-up bit starts the sequence and clears the mask;
the next data bytes are then the vector offset, the cascade word and, if the command announced
one, the mode word.
-/

namespace BringUp.Controller

set_option autoImplicit false

/-- Which data byte the chip expects next; `idle` outside the set-up sequence. -/
inductive SetUpStep where
  | idle
  | vectorOffset
  | cascade
  | mode
  deriving DecidableEq

def SetUpStep.name : SetUpStep → String
  | idle => "Idle"
  | vectorOffset => "VectorOffset"
  | cascade => "Cascade"
  | mode => "Mode"

structure Chip where
  /-- A set bit holds its line back. -/
  mask : UInt8
  /-- The vector of the chip's first line. -/
  vectorOffset : UInt8
  cascade : UInt8
  mode : UInt8
  endOfInterrupts : UInt32
  step : SetUpStep
  /-- Whether the set-up sequence under way ends with a mode word. -/
  expectsMode : Bool
  deriving DecidableEq

/-- Command bit that starts the set-up sequence. -/
def startSetUp : UInt8 := 0x10

/-- Command bit that announces a mode word. -/
def announceMode : UInt8 := 0x01

/-- The command that acknowledges an interrupt. -/
def acknowledge : UInt8 := 0x20

namespace Chip

def reset : Chip := ⟨0, 0, 0, 0, 0, .idle, false⟩

/-- A byte on the command port. -/
def command (value : UInt8) (chip : Chip) : Chip :=
  if value &&& startSetUp ≠ 0 then
    { chip with
      mask := 0
      step := .vectorOffset
      expectsMode := value &&& announceMode ≠ 0 }
  else if value = acknowledge then
    { chip with endOfInterrupts := chip.endOfInterrupts + 1 }
  else chip

/-- A byte on the data port. -/
def data (value : UInt8) (chip : Chip) : Chip :=
  match chip.step with
  | .idle => { chip with mask := value }
  | .vectorOffset => { chip with vectorOffset := value, step := .cascade }
  | .cascade =>
      { chip with cascade := value, step := if chip.expectsMode then .mode else .idle }
  | .mode => { chip with mode := value, step := .idle }

def outline (chip : Chip) : Text.Outline :=
  .record "MockChip" [
    .part "mask" (.number chip.mask.toNat),
    .part "vector_offset" (.number chip.vectorOffset.toNat),
    .part "cascade" (.number chip.cascade.toNat),
    .part "mode" (.number chip.mode.toNat),
    .part "end_of_interrupts" (.number chip.endOfInterrupts.toNat),
    .part "step" (.text chip.step.name),
    .part "expects_mode" (.flag chip.expectsMode)]

end Chip

end BringUp.Controller
