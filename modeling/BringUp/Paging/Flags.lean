import BringUp.Text.Hexadecimal
import BringUp.Text.Outline

/-!
# Page flags

The low bits of a directory or table entry say whether and how its page may be used. Nine of
them have names. A set of flags may carry other bits too, if it was built from raw bits that
were kept.

What building a set from raw bits drops or keeps, and how a set is shown, is the documented behaviour
of flag sets in general, fixed here by definition.
-/

namespace BringUp.Paging

set_option autoImplicit false

structure Flags where
  bits : UInt32
  deriving DecidableEq

namespace Flags

/-- The named flags in the order of their bits. -/
def names : List (String × UInt32) :=
  [("PRESENT", 0x001),
   ("WRITABLE", 0x002),
   ("USER_ACCESSIBLE", 0x004),
   ("WRITE_THROUGH", 0x008),
   ("NO_CACHE", 0x010),
   ("ACCESSED", 0x020),
   ("DIRTY", 0x040),
   ("HUGE_PAGE", 0x080),
   ("GLOBAL", 0x100)]

def known : UInt32 := 0x1FF

def present : Flags := ⟨0x001⟩

def writable : Flags := ⟨0x002⟩

/-- What the kernel maps its own pages with. -/
def kernel : Flags := ⟨present.bits ||| writable.bits⟩

/-- Keeps the named bits and drops the others. -/
def truncated (bits : UInt32) : Flags := ⟨bits &&& known⟩

def retained (bits : UInt32) : Flags := ⟨bits⟩

/-- Whether the bits have names, all of them. -/
def isKnown (bits : UInt32) : Bool := bits &&& known = bits

def contains (flags other : Flags) : Bool := flags.bits &&& other.bits = other.bits

def isEmpty (flags : Flags) : Bool := flags.bits = 0

def isAll (flags : Flags) : Bool := flags.contains ⟨known⟩

def complement (flags : Flags) : Flags := truncated (~~~flags.bits)

/-- The names of the flags that are set, in the order of their bits. -/
def setNames (flags : Flags) : List String :=
  names.filterMap fun (name, bit) => if flags.contains ⟨bit⟩ then some name else none

/-- The set flags by name, with a bar between two. -/
def shown (flags : Flags) : String :=
  if flags.isEmpty then Text.hex 0 else String.intercalate " | " flags.setNames

def outline (flags : Flags) : Text.Outline := .wrapped "PageTableFlags" [.text flags.shown]

end Flags

end BringUp.Paging
