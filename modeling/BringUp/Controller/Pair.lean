import BringUp.Console
import BringUp.Controller.Bus

/-!
# Driving the controller pair

Out of reset both chips deliver on vectors that belong to processor exceptions, so the pair is
set up anew: each chip gets eight vectors of its own, above the exceptions and apart from the
other's. The slave's lines reach the processor through line 2 of the master, which is why an
acknowledgement of a slave line goes to both chips.
-/

namespace BringUp.Controller

set_option autoImplicit false

/-- Vectors below this one belong to processor exceptions. -/
def exceptionVectors : UInt8 := 32

def linesPerChip : UInt8 := 8

def totalLines : UInt8 := 16

def defaultMaster : UInt8 := 32

def defaultSlave : UInt8 := defaultMaster + 8

/-- The mode word: manual acknowledgement, vectors as this processor takes them. -/
def processorMode : UInt8 := 0x01

/-- The master's cascade word: the slave hangs off line 2. -/
def cascadeMask : UInt8 := 0x04

/-- The slave's cascade word: its identity on the master. -/
def cascadeIdentity : UInt8 := 2

/-- The two vector ranges, each named by the vector of its first line. -/
structure Pair where
  master : UInt8
  slave : UInt8
  above : exceptionVectors ≤ master ∧ exceptionVectors ≤ slave
  within : master.toNat ≤ 247 ∧ slave.toNat ≤ 247
  apart : master.toNat + 8 ≤ slave.toNat ∨ slave.toNat + 8 ≤ master.toNat

/-- The two mask registers; a set bit holds its line back. -/
structure Masks where
  master : UInt8
  slave : UInt8
  deriving DecidableEq

namespace Pair

/-- Accepts two ranges that keep clear of the exceptions, of the end of the vector space and of
each other. The checks are made in this order. -/
def ofOffsets (master slave : UInt8) : Except Fault Pair :=
  if above : exceptionVectors ≤ master ∧ exceptionVectors ≤ slave then
    if within : master.toNat ≤ 247 ∧ slave.toNat ≤ 247 then
      if apart : master.toNat + 8 ≤ slave.toNat ∨ slave.toNat + 8 ≤ master.toNat then
        .ok ⟨master, slave, above, within, apart⟩
      else .error .rangesOverlap
    else .error .rangePastVectors
  else .error .rangeInExceptions

theorem ofOffsets_self (pair : Pair) : ofOffsets pair.master pair.slave = .ok pair := by
  rw [ofOffsets, dif_pos pair.above, dif_pos pair.within, dif_pos pair.apart]

/-- The ranges right after the exceptions. -/
def default : Pair := ⟨defaultMaster, defaultSlave, by decide, by decide, by decide⟩

/-- Whether `vector` is one of the eight that start at `offset`; no range reaches past the end
of the vector space. -/
def inRange (offset vector : UInt8) : Bool :=
  offset ≤ vector && vector.toNat < min (offset.toNat + 8) 255

/-- No accepted range is cut off at its end. -/
theorem inRange_iff {offset vector : UInt8} (h : offset.toNat ≤ 247) :
    inRange offset vector = true ↔
      offset.toNat ≤ vector.toNat ∧ vector.toNat < offset.toNat + 8 := by
  simp only [inRange, Bool.and_eq_true, decide_eq_true_eq, UInt8.le_iff_toNat_le]
  omega

def handles (pair : Pair) (vector : UInt8) : Bool :=
  inRange pair.master vector || inRange pair.slave vector

/-- The line that delivers on `vector`, if any. -/
def lineFor (pair : Pair) (vector : UInt8) : Option UInt8 :=
  if inRange pair.master vector then some (vector - pair.master)
  else if inRange pair.slave vector then some (vector - pair.slave + linesPerChip)
  else none

/-- A sum that must fit a byte. -/
def checkedSum (a b : UInt8) : Except Fault UInt8 :=
  if a.toNat + b.toNat < 256 then .ok (a + b) else .error .sumTooLarge

/-- The vector the processor receives for `line`. For the slave the line is added to the offset
first, and the eight lines of the master are taken off afterwards. -/
def vectorFor (pair : Pair) (line : UInt8) : Except Fault UInt8 :=
  if line < totalLines then
    if line < linesPerChip then checkedSum pair.master line
    else (checkedSum pair.slave line).map (· - linesPerChip)
  else .error (.lineOutOfRange line)

/-- The mask register that holds a line's bit, by its port, and the bit's number. -/
def locate (line : UInt8) : Except Fault (UInt16 × UInt8) :=
  if line < totalLines then
    if line < linesPerChip then .ok (masterData, line)
    else .ok (slaveData, line - linesPerChip)
  else .error (.lineOutOfRange line)

section Operations

variable {σ : Type} [PortSpace σ]

def readMasks : Action σ Masks := do
  let master ← Port.read masterData
  let slave ← Port.read slaveData
  return ⟨master, slave⟩

def writeMasks (masks : Masks) : Action σ Unit := do
  Port.write masterData masks.master
  Port.write slaveData masks.slave

def disable : Action σ Unit := writeMasks ⟨0xFF, 0xFF⟩

def enableLine (line : UInt8) : Action σ Unit := do
  let (port, bit) ← Action.ofExcept (locate line)
  let mask ← Port.read port
  Port.write port (mask &&& ~~~((1 : UInt8) <<< bit))

def disableLine (line : UInt8) : Action σ Unit := do
  let (port, bit) ← Action.ofExcept (locate line)
  let mask ← Port.read port
  Port.write port (mask ||| ((1 : UInt8) <<< bit))

def isLineMasked (line : UInt8) : Action σ Bool := do
  let (port, bit) ← Action.ofExcept (locate line)
  let mask ← Port.read port
  return mask &&& ((1 : UInt8) <<< bit) ≠ 0

/-- Acknowledges a line: to the slave first if the line is one of its own, and always to the
master. -/
def endOfInterrupt (line : UInt8) : Action σ Unit := do
  if linesPerChip ≤ line then Port.write slaveCommand acknowledge
  Port.write masterCommand acknowledge

/-- One word of the set-up sequence, with time for the chip to take it. -/
def setUpWord (port : UInt16) (value : UInt8) : Action σ Unit := do
  Port.write port value
  Port.settle

/-- The set-up sequence of both chips, word by word, the master first. -/
def setUp (pair : Pair) : Action σ Unit := do
  setUpWord masterCommand (startSetUp ||| announceMode)
  setUpWord slaveCommand (startSetUp ||| announceMode)
  setUpWord masterData pair.master
  setUpWord slaveData pair.slave
  setUpWord masterData cascadeMask
  setUpWord slaveData cascadeIdentity
  setUpWord masterData processorMode
  setUpWord slaveData processorMode

/-- Moves the lines to the pair's vectors. Starting the set-up clears the masks, so they are read
before it and written back after it. -/
def remap [HasConsole σ] (pair : Pair) : Action σ Unit := do
  let saved ← readMasks
  pair.setUp
  writeMasks saved
  Console.log .debug
    ("PIC remapped: master -> " ++ toString pair.master ++ ", slave -> " ++ toString pair.slave ++
      ", masks " ++ Text.hexFilled 4 saved.master.toNat ++ "/" ++
      Text.hexFilled 4 saved.slave.toNat)

end Operations

def outlineChip (offset : UInt8) (command data : UInt16) : Text.Outline :=
  .record "Pic" [
    .part "offset" (.number offset.toNat),
    .part "command" (.number command.toNat),
    .part "data" (.number data.toNat)]

def outline (pair : Pair) (ports : Text.Outline) : Text.Outline :=
  .record "ChainedPics" [
    .part "ports" ports,
    .part "pics" (.sequence [
      outlineChip pair.master masterCommand masterData,
      outlineChip pair.slave slaveCommand slaveData])]

end Pair

end BringUp.Controller
