import BringUp.Paging.Entry
import BringUp.Part

/-!
# Page tables

A page table is 1024 entries and fills one page. Entries are reached by index, and an index past
the end is a fault that changes nothing. A page directory has the same shape.
-/

namespace BringUp.Paging

set_option autoImplicit false

def tableEntries : Nat := 1024

def tableSpan : Nat := pageSize * tableEntries

structure Table where
  entries : Vector Entry 1024

namespace Table

def empty : Table := ⟨.replicate 1024 .unused⟩

def get (table : Table) (index : UInt64) : Except Fault Entry :=
  if h : index.toNat < 1024 then .ok table.entries[index.toNat]
  else .error (.indexOutOfBounds 1024 index.toNat)

def set (table : Table) (index : UInt64) (entry : Entry) : Except Fault Table :=
  if h : index.toNat < 1024 then .ok ⟨table.entries.set index.toNat entry⟩
  else .error (.indexOutOfBounds 1024 index.toNat)

/-- A table that was written holds the entry at that index and is unchanged elsewhere. -/
theorem get_of_set {table written : Table} {index other : UInt64} {entry : Entry}
    (h : table.set index entry = .ok written) :
    written.get other = if other = index then .ok entry else table.get other := by
  unfold set at h
  split at h
  · rename_i inside
    cases h
    by_cases same : other = index
    · subst same
      simp [get, inside]
    · have apart : ¬ index.toNat = other.toNat := fun e => same (UInt64.toNat_inj.mp e.symm)
      simp [get, same, apart]
  · cases h

/-- Maps the frame at `address` at an index. The address is checked before the index. -/
def write (table : Table) (index : UInt64) (address : UInt32) (flags : Flags) :
    Except Fault Table := do
  let frame ← PageFrame.ofAddress address
  table.set index (.map frame flags)

def clear (table : Table) (index : UInt64) : Except Fault Table := table.set index .unused

def zero (table : Table) : Table := ⟨table.entries.map fun _ => .unused⟩

/-- Stores the entry that maps a page onto itself. -/
def mapPage (page : Nat) : Action Table Unit :=
  Action.store fun table => table.write (UInt64.ofNat page) (UInt32.ofNat page * 4096) .kernel

/-- The indices of the entries of a kind, in increasing order. -/
def indices (table : Table) (kind : Entry → Bool) : List Nat :=
  (List.finRange 1024).filterMap fun index =>
    if kind table.entries[index] then some index.val else none

def present (table : Table) : List Nat := table.indices Entry.isPresent

/-- The indices of entries that hold anything at all. -/
def used (table : Table) : List Nat := table.indices fun entry => !entry.isUnused

def presentCount (table : Table) : Nat := table.entries.countP Entry.isPresent

/-- A number over all entries, for telling tables apart. -/
def checksum (table : Table) : UInt32 :=
  table.entries.foldl (fun sum entry => sum * 31 + entry.bits) 0

end Table

end BringUp.Paging
