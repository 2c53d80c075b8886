import BringUp.Console
import BringUp.Segment.Descriptor

/-!
# The segment table

Three descriptors: none, kernel code and kernel data. In the flat model both segments start at
zero and span the whole address space, so that segmentation changes no address. The table is written
where it lies, one descriptor after another.
-/

namespace BringUp.Segment

set_option autoImplicit false

def tableEntries : Nat := 3

def codeIndex : UInt16 := 1

def dataIndex : UInt16 := 2

/-- Present, ring 0, code that may be read. -/
def codeAccess : UInt8 := 0x9A

/-- Present, ring 0, data that may be written. -/
def dataAccess : UInt8 := 0x92

/-- Limits count pages; operands have 32 bits. -/
def flatFlags : UInt8 := 0xC0

/-- The last page of the address space. -/
def flatLimit : UInt32 := 0xFFFFF

def codeSelector : Selector := .ring0 codeIndex

def dataSelector : Selector := .ring0 dataIndex

/-- An attempt to write past the end of the table. -/
structure IndexOutOfRange where
  index : UInt64
  deriving DecidableEq

namespace IndexOutOfRange

def message (e : IndexOutOfRange) : String :=
  "descriptor index " ++ toString e.index ++ " out of range (table holds " ++
    toString tableEntries ++ ")"

def outline (e : IndexOutOfRange) : Text.Outline :=
  .record "DescriptorIndexOutOfRange" [.part "index" (.number e.index.toNat)]

end IndexOutOfRange

structure Table where
  entries : Vector Descriptor 3

/-- Work on a table in place, which may be refused on the way. -/
abbrev Edit := ExceptT IndexOutOfRange (Action Table)

namespace Table

def empty : Table := ⟨.replicate 3 .null⟩

def clear (table : Table) : Table := ⟨table.entries.map fun _ => .null⟩

/-- Stores one descriptor, if the table has an entry for it. -/
def write (index : UInt64) (descriptor : Descriptor) : Edit Unit := do
  let table ← get
  if h : index.toNat < 3 then set (Table.mk (table.entries.set index.toNat descriptor))
  else throw ⟨index⟩

def entry? (table : Table) (index : UInt64) : Option Descriptor :=
  table.entries[index.toNat]?

def writeFlat : Edit Unit := do
  write 0 (.pack 0 0 0 0)
  write codeIndex.toUInt64 (.pack 0 flatLimit codeAccess flatFlags)
  write dataIndex.toUInt64 (.pack 0 flatLimit dataAccess flatFlags)

/-- Writes the flat descriptors over whatever is there. -/
def populateFlat : Edit Unit := do
  modify clear
  writeFlat

/-- Writes the flat descriptors, for which there has to be room. -/
def fillFlat : Action Table Unit := do
  match ← populateFlat.run with
  | .ok () => return
  | .error refusal => throw (.fault (.flatLayoutRefused refusal.index))

/-- The table as it lies in memory. -/
def bytes (table : Table) : List UInt8 :=
  table.entries.toList.flatMap Descriptor.bytes

/-- How the processor is told about the table at `address`. -/
def pointer (address : UInt32) : TablePointer :=
  ⟨UInt16.ofNat (8 * tableEntries - 1), address⟩

def outline (table : Table) : Text.Outline :=
  .record "GlobalDescriptorTable" [
    .part "entries" (.sequence (table.entries.toList.map Descriptor.outline))]

section Operations

variable {σ : Type} [Cpu σ]

/-- Makes the table at `address` live and moves every segment register to it. -/
def load (address : UInt32) : Action σ Unit := do
  modify (Cpu.loadGdt (pointer address))
  modify (Cpu.reloadSegments codeSelector dataSelector)

/-- Fills the table, which lies at `address`, and makes it live. -/
def install [HasPart Table σ] [HasConsole σ] (address : UInt32) : Action σ Unit := do
  Action.inPlace fillFlat
  load address
  Console.log .debug
    ("GDT loaded: " ++ toString tableEntries ++ " descriptors, cs=" ++
      Text.hex codeSelector.toNat ++ " ds=" ++ Text.hex dataSelector.toNat)

end Operations

theorem length_bytes (table : Table) : table.bytes.length = 24 := by
  have eight : ∀ d : Descriptor, d.bytes.length = 8 := fun _ => rfl
  simp only [bytes, List.length_flatMap, eight, List.map_const', Vector.length_toList,
    List.sum_replicate_nat]

/-- The limit is that of the bytes that the table fills. -/
theorem pointer_eq_ofSize (table : Table) (address : UInt32) :
    TablePointer.ofSize table.bytes.length address = .ok (pointer address) := by
  rw [length_bytes]
  rfl

end Table

end BringUp.Segment
