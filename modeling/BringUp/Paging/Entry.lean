import BringUp.Fault
import BringUp.Paging.Flags

/-!
# Page frames and table entries

Memory is mapped in frames of 4 KiB. An entry of a page directory or page table is one word: the
address of a frame, whose low twelve bits are zero, with flags in those bits.
-/

namespace BringUp.Paging

set_option autoImplicit false

def pageSize : Nat := 4096

/-- The address of a frame: a multiple of the page size. -/
structure PageFrame where
  address : UInt32
  aligned : address.toNat % 4096 = 0

namespace PageFrame

/-- Accepts an address at which a frame can start. -/
def ofAddress (address : UInt32) : Except Fault PageFrame :=
  if h : address.toNat % 4096 = 0 then .ok ⟨address, h⟩ else .error (.frameUnaligned address)

/-- The frame with a given number, counted from address zero and around the end of the address
space. -/
def numbered (n : Nat) : PageFrame :=
  ⟨UInt32.ofNat (n * 4096), by rw [UInt32.toNat_ofNat']; omega⟩

/-- The frame right behind this one; the first follows the last. -/
def next (frame : PageFrame) : PageFrame :=
  ⟨frame.address + 4096, by
    have := frame.aligned
    rw [UInt32.toNat_add]
    simp only [UInt32.reduceToNat]
    omega⟩

end PageFrame

structure Entry where
  bits : UInt32
  deriving DecidableEq

namespace Entry

def unused : Entry := ⟨0⟩

/-- The entry that maps a frame. All bits of the flags are taken over. -/
def map (frame : PageFrame) (flags : Flags) : Entry := ⟨frame.address ||| flags.bits⟩

/-- The address in the upper twenty bits. -/
def frame (entry : Entry) : UInt32 := entry.bits &&& 0xFFFFF000

/-- The named flags among the lower twelve bits. -/
def flags (entry : Entry) : Flags := .truncated (entry.bits &&& 0xFFF)

def isPresent (entry : Entry) : Bool := entry.flags.contains .present

def isUnused (entry : Entry) : Bool := entry.bits = 0

def outline (entry : Entry) : Text.Outline :=
  .record "PageTableEntry" [
    .part "frame" (.text (Text.hex entry.frame.toNat)),
    .part "flags" entry.flags.outline]

end Entry

end BringUp.Paging
