import BringUp.Console
import BringUp.Cpu
import BringUp.Paging.Table

/-!
# The identity window

One page directory and one page table, side by side, map the first 4 MiB onto themselves; the
other directory entries stay absent, so that an address past the window faults. The structures
are written where they lie, one entry after another. They name addresses, among them their own, so
what they mean depends on where they lie.
-/

namespace BringUp.Paging

set_option autoImplicit false

def identityWindow : Nat := tableSpan

/-- Why a walk through the structures ends without an address. -/
inductive WalkFault where
  /-- The directory has no table for the address. -/
  | directoryEntryAbsent (index : Nat)
  /-- The table does not map the page. -/
  | tableEntryAbsent (index : Nat)
  /-- The directory names a table that is not the one that lies here. -/
  | foreignTable (frame : UInt32)
  deriving DecidableEq

namespace WalkFault

def message : WalkFault → String
  | directoryEntryAbsent index => "page directory entry " ++ toString index ++ " not present"
  | tableEntryAbsent index => "page table entry " ++ toString index ++ " not present"
  | foreignTable frame => "page table at " ++ Text.hex frame.toNat ++ " is not managed here"

def outline : WalkFault → Text.Outline
  | directoryEntryAbsent index =>
      .record "DirectoryEntryAbsent" [.part "index" (.number index)]
  | tableEntryAbsent index => .record "TableEntryAbsent" [.part "index" (.number index)]
  | foreignTable frame => .record "ForeignTable" [.part "frame" (.number frame.toNat)]

end WalkFault

/-- The directory index in an address: its upper ten bits. -/
def directoryIndex (address : UInt32) : Nat := (address >>> 22).toNat

/-- The table index in an address: the next ten bits. -/
def tableIndex (address : UInt32) : Nat := ((address >>> 12) &&& 0x3FF).toNat

theorem directoryIndex_lt (address : UInt32) : directoryIndex address < 1024 := by
  have := address.toNat_lt
  simp only [directoryIndex, UInt32.toNat_shiftRight, Nat.shiftRight_eq_div_pow]
  simp
  omega

theorem tableIndex_lt (address : UInt32) : tableIndex address < 1024 := by
  rw [tableIndex, UInt32.toNat_and]
  exact Nat.lt_of_le_of_lt Nat.and_le_right (by decide)

/-- The directory and the table that lies right behind it. -/
structure Identity where
  directory : Table
  table : Table

namespace Identity

def empty : Identity := ⟨.empty, .empty⟩

/-- Where the table lies if the structures start at `place`. -/
def tableAddress (place : PageFrame) : UInt32 := place.next.address

def onDirectory (work : Action Table Unit) : Action Identity Unit :=
  Action.within directory (fun directory paging => { paging with directory }) work

def onTable (work : Action Table Unit) : Action Identity Unit :=
  Action.within table (fun table paging => { paging with table }) work

/-- Maps the window in structures that start at `place`, over whatever they hold. -/
def fill (place : PageFrame) : Action Identity Unit := do
  onDirectory (modify Table.zero)
  onTable (modify Table.zero)
  onTable ((List.range tableEntries).forM Table.mapPage)
  onDirectory (Action.store fun directory => directory.write 0 (tableAddress place) .kernel)

/-- Walks the structures that start at `place` as the processor would. -/
def translate (place : PageFrame) (paging : Identity) (address : UInt32) :
    Except WalkFault UInt32 :=
  have hd := directoryIndex_lt address
  have ht := tableIndex_lt address
  let directoryEntry := paging.directory.entries[directoryIndex address]
  if !directoryEntry.isPresent then
    .error (.directoryEntryAbsent (directoryIndex address))
  else if directoryEntry.frame ≠ tableAddress place then
    .error (.foreignTable directoryEntry.frame)
  else
    let tableEntry := paging.table.entries[tableIndex address]
    if !tableEntry.isPresent then .error (.tableEntryAbsent (tableIndex address))
    else .ok (tableEntry.frame ||| (address &&& 0xFFF))

/-- Whether an address lies in the window and is mapped onto itself. -/
def isIdentityMapped (place : PageFrame) (paging : Identity) (address : UInt32) : Bool :=
  address.toNat < identityWindow &&
    match paging.translate place address with
    | .ok mapped => mapped = address
    | .error _ => false

/-- Bytes of address space under the directory's present entries. -/
def mappedSpan (paging : Identity) : Nat := paging.directory.presentCount * tableSpan

section Operations

variable {σ : Type} [Cpu σ]

/-- Names the directory to the processor, then turns paging on. -/
def activate (place : PageFrame) : Action σ Unit := do
  modify (Cpu.writeCr3 place.address)
  modify Cpu.enablePaging

/-- Maps the window in the structures, which start at `place`, and turns paging on. -/
def install [HasPart Identity σ] [HasConsole σ] (place : PageFrame) : Action σ Unit := do
  Action.inPlace (fill place)
  activate place
  let paging : Identity ← Action.read
  Console.log .debug
    ("Paging enabled: directory at " ++ Text.hex place.address.toNat ++ ", " ++
      toString (paging.mappedSpan / 1024) ++ " KiB identity mapped")

end Operations

end Identity

end BringUp.Paging
