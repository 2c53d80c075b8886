import BringUp.Console.Uart
import BringUp.Controller.Bus
import BringUp.Cpu

/-!
# The processor, instruction by instruction

Here each privileged operation is the sequence of instructions that performs it. Executing an
instruction changes the registers as the architecture defines and is written to a trace. The
`in` and `out` instructions reach the controller bus, except that the eight ports of the serial
device answer on their own: it always reports an empty holding register, and its traffic is not
traced.
-/

namespace BringUp

set_option autoImplicit false

inductive Segment where
  | cs
  | ds
  | es
  | fs
  | gs
  | ss
  deriving DecidableEq

def Segment.name : Segment → String
  | cs => "cs"
  | ds => "ds"
  | es => "es"
  | fs => "fs"
  | gs => "gs"
  | ss => "ss"

/-- An executed instruction with the values it moved. -/
inductive Instruction where
  | input (port : UInt16) (value : UInt8)
  | output (port : UInt16) (value : UInt8)
  | clearInterrupts
  | setInterrupts
  | halt
  | readControl (register : Nat) (value : UInt32)
  | writeControl (register : Nat) (value : UInt32)
  | loadGdt (pointer : TablePointer)
  | loadIdt (pointer : TablePointer)
  | loadSegment (segment : Segment) (selector : Selector)
  | farReturn (selector : Selector)
  deriving DecidableEq

structure Processor where
  cr0 : UInt32
  cr2 : UInt32
  cr3 : UInt32
  interrupts : Bool
  gdtr : TablePointer
  idtr : TablePointer
  segment : Segment → Selector
  bus : Controller.Bus
  /-- Bytes that instructions put on the serial line. -/
  serial : List UInt8
  trace : List Instruction

namespace Processor

/-- The bit of the first control register that turns paging on. -/
def pagingBit : UInt32 := 0x80000000

def reset : Processor where
  cr0 := 0
  cr2 := 0
  cr3 := 0
  interrupts := false
  gdtr := .unset
  idtr := .unset
  segment := fun _ => 0
  bus := .reset
  serial := []
  trace := []

def executed (instruction : Instruction) (p : Processor) : Processor :=
  { p with trace := p.trace ++ [instruction] }

def isSerial (port : UInt16) : Bool :=
  Uart.dataPort ≤ port && port ≤ Uart.dataPort + 7

def input (port : UInt16) (p : Processor) : UInt8 × Processor :=
  if isSerial port then (if port = Uart.statusPort then Uart.ready else 0, p)
  else
    let (value, bus) := p.bus.read port
    (value, { p with bus }.executed (.input port value))

def output (port : UInt16) (value : UInt8) (p : Processor) : Processor :=
  if isSerial port then
    if port = Uart.dataPort then { p with serial := p.serial ++ [value] } else p
  else { p with bus := p.bus.write port value }.executed (.output port value)

def clearInterrupts (p : Processor) : Processor :=
  { p with interrupts := false }.executed .clearInterrupts

def setInterrupts (p : Processor) : Processor :=
  { p with interrupts := true }.executed .setInterrupts

def halt (p : Processor) : Processor := p.executed .halt

def loadGdt (pointer : TablePointer) (p : Processor) : Processor :=
  { p with gdtr := pointer }.executed (.loadGdt pointer)

def loadIdt (pointer : TablePointer) (p : Processor) : Processor :=
  { p with idtr := pointer }.executed (.loadIdt pointer)

def loadSegment (target : Segment) (selector : Selector) (p : Processor) : Processor :=
  { p with segment := fun s => if s = target then selector else p.segment s }.executed
    (.loadSegment target selector)

/-- A far return takes the code segment from the stack, where `selector` was pushed. -/
def farReturn (selector : Selector) (p : Processor) : Processor :=
  { p with segment := fun s => if s = Segment.cs then selector else p.segment s }.executed
    (.farReturn selector)

def writeCr0 (value : UInt32) (p : Processor) : Processor :=
  { p with cr0 := value }.executed (.writeControl 0 value)

def readCr2 (p : Processor) : UInt32 × Processor :=
  (p.cr2, p.executed (.readControl 2 p.cr2))

def writeCr3 (value : UInt32) (p : Processor) : Processor :=
  { p with cr3 := value }.executed (.writeControl 3 value)

def readCr3 (p : Processor) : UInt32 × Processor :=
  (p.cr3, p.executed (.readControl 3 p.cr3))

/-- Reads the first control register and tests the paging bit. -/
def pagingEnabled (p : Processor) : Bool × Processor :=
  (p.cr0 &&& pagingBit ≠ 0, p.executed (.readControl 0 p.cr0))

/-- All five data segment registers take the data selector before the code segment changes. -/
def reloadSegments (code data : Selector) (p : Processor) : Processor :=
  farReturn code <|
    loadSegment .ss data <|
    loadSegment .gs data <|
    loadSegment .fs data <|
    loadSegment .es data <|
    loadSegment .ds data p

/-- Stops for good: interrupts off, then asleep. Each of `wakes` spurious wake-ups is answered
by the same two instructions. -/
def haltForever (wakes : Nat) (p : Processor) : Processor :=
  match wakes with
  | 0 => p.clearInterrupts.halt
  | n + 1 => haltForever n p.clearInterrupts.halt

/-- Sleeps from one interrupt to the next; woken `wakes` times. -/
def idle (wakes : Nat) (p : Processor) : Processor :=
  match wakes with
  | 0 => p.halt
  | n + 1 => idle n p.halt

instance : PortSpace Processor where
  input := input
  output := output

instance : Cpu Processor where
  loadGdt := loadGdt
  reloadSegments := reloadSegments
  loadIdt := loadIdt
  writeCr3 := writeCr3
  enablePaging p := p.writeCr0 (p.cr0 ||| pagingBit)
  readCr2 := readCr2
  enableInterrupts := setInterrupts
  disableInterrupts := clearInterrupts
  interruptsEnabled := interrupts
  halt := haltForever 0

end Processor

end BringUp
