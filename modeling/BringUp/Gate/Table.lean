import BringUp.Gate.Descriptor
import BringUp.Segment.Table

/-!
# The gate table

One gate for each of the 256 vectors. Entry code exists for the 32 exceptions and the sixteen
controller lines; every other gate stays missing, so that using it raises a fault. The table is
written where it lies, one gate after another.
-/

namespace BringUp.Gate

set_option autoImplicit false

def tableEntries : Nat := 256

/-- Vectors that have entry code. -/
def entryVectors : Nat := 48

/-- Present, ring 0, 32-bit interrupt gate. -/
def interruptFlags : UInt8 := 0x8E

def pageFaultVector : UInt8 := 14

/-- The vector of the timer's line once the controllers are set up. -/
def timerVector : UInt8 := 32

/-- Where the entry code of each vector starts. -/
abbrev EntryPoints := Vector UInt32 48

def EntryPoints.spaced (start stride : UInt32) : EntryPoints :=
  .ofFn fun vector => start + stride * UInt32.ofNat vector

/-- Entry points sixteen bytes apart from the first megabyte on. -/
def EntryPoints.bench : EntryPoints := .spaced 0x00100000 16

structure Table where
  gates : Vector Descriptor 256

namespace Table

def empty : Table := ⟨.replicate 256 .missing⟩

def gate (table : Table) (vector : UInt8) : Descriptor :=
  have inside : vector.toNat < 256 := vector.toNat_lt
  table.gates[vector.toNat]

def set (table : Table) (vector : UInt8) (gate : Descriptor) : Table :=
  ⟨table.gates.set vector.toNat gate vector.toNat_lt⟩

theorem gate_set (table : Table) (vector other : UInt8) (descriptor : Descriptor) :
    (table.set vector descriptor).gate other =
      if other = vector then descriptor else table.gate other := by
  simp only [gate, set, Vector.getElem_set]
  by_cases h : other = vector
  · simp [h]
  · have apart : ¬ vector.toNat = other.toNat := fun e => h (UInt8.toNat_inj.mp e.symm)
    simp [h, apart]

def clear (table : Table) : Table := ⟨table.gates.map fun _ => .missing⟩

/-- Stores the gate of a vector that has entry code. -/
def writeEntry (entries : EntryPoints) (vector : Fin 48) : Action Table Unit :=
  modify fun table => table.set (UInt8.ofNat vector.val)
    (.pack (entries.get vector) Segment.codeSelector interruptFlags)

/-- Writes the gates of all entry points over whatever is there. -/
def build (entries : EntryPoints) : Action Table Unit := do
  modify clear
  (List.finRange 48).forM (writeEntry entries)

/-- The vectors whose gate is present, in increasing order. -/
def present (table : Table) : List Nat :=
  (List.finRange 256).filterMap fun vector =>
    if (table.gates.get vector).isPresent then some vector.val else none

def presentCount (table : Table) : Nat :=
  table.gates.countP Descriptor.isPresent

/-- The table as it lies in memory. -/
def bytes (table : Table) : List UInt8 :=
  table.gates.toList.flatMap Descriptor.bytes

/-- How the processor is told about the table at `address`. -/
def pointer (address : UInt32) : TablePointer :=
  ⟨UInt16.ofNat (8 * tableEntries - 1), address⟩

section Operations

variable {σ : Type} [Cpu σ]

def load (address : UInt32) : Action σ Unit := modify (Cpu.loadIdt (pointer address))

/-- Builds the table for `entries`, which lies at `address`, and makes it live. -/
def install [HasPart Table σ] [HasConsole σ] (entries : EntryPoints) (address : UInt32) :
    Action σ Unit := do
  Action.inPlace (build entries)
  load address
  let table : Table ← Action.read
  Console.log .debug
    ("IDT loaded: " ++ toString table.presentCount ++ " of " ++ toString tableEntries ++
      " gates present")

end Operations

theorem length_bytes (table : Table) : table.bytes.length = 2048 := by
  have eight : ∀ d : Descriptor, d.bytes.length = 8 := fun _ => rfl
  simp only [bytes, List.length_flatMap, eight, List.map_const', Vector.length_toList,
    List.sum_replicate_nat]

/-- The limit is that of the bytes that the table fills. -/
theorem pointer_eq_ofSize (table : Table) (address : UInt32) :
    TablePointer.ofSize table.bytes.length address = .ok (pointer address) := by
  rw [length_bytes]
  rfl

end Table

end BringUp.Gate
