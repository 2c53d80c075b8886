/-!
# The loader's header

A kernel image carries three words by which a loader knows it: a magic number, what it asks for,
and a checksum that makes the three add up to zero. The loader in turn leaves a magic number of
its own.
-/

namespace BringUp.Boot.Header

set_option autoImplicit false

/-- Marks the image as loadable. -/
def magic : UInt32 := 0x1BADB002

/-- Asks for page-aligned modules and a memory map. -/
def flags : UInt32 := 3

/-- The header's words add up to zero. -/
def checksum : UInt32 := 0 - (magic + flags)

/-- What the loader leaves in the accumulator. -/
def loaderMagic : UInt32 := 0x2BADB002

def stackSize : Nat := 16 * 1024

theorem sum_eq_zero : magic + flags + checksum = 0 := by decide

end BringUp.Boot.Header
