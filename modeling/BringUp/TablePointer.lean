import BringUp.Fault
import BringUp.LittleEndian

/-!
# Descriptor-table pointers

The processor finds its descriptor tables through a pointer of six bytes: the offset of the
table's last byte, then the address of its first.
-/

namespace BringUp

set_option autoImplicit false

structure TablePointer where
  /-- Size of the table in bytes, less one. -/
  limit : UInt16
  base : UInt32
  deriving DecidableEq

namespace TablePointer

/-- What a pointer register holds before it is first loaded. -/
def unset : TablePointer := ⟨0, 0⟩

/-- Describes a table of `size` bytes at `base`. An empty table has no last byte. -/
def ofSize (size : Nat) (base : UInt32) : Except Fault TablePointer :=
  if size = 0 then .error .differenceNegative
  else .ok ⟨UInt16.ofNat (size - 1), base⟩

/-- The pointer as it lies in memory. -/
def bytes (p : TablePointer) : List UInt8 :=
  LittleEndian.ofUInt16 p.limit ++ LittleEndian.ofUInt32 p.base

end TablePointer

end BringUp
