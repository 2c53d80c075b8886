import BringUp.Cpu
import BringUp.Text.Outline

/-!
# Gate descriptors

A gate names the code that runs when its vector arrives: a segment selector and an offset in two
halves, with a flags byte that says whether the gate is present, who may use it and how it
behaves.
-/

namespace BringUp.Gate

set_option autoImplicit false

structure Descriptor where
  offsetLow : UInt16
  selector : Selector
  /-- Unused by the processor. -/
  zero : UInt8
  flags : UInt8
  offsetHigh : UInt16
  deriving DecidableEq

namespace Descriptor

def missing : Descriptor := ⟨0, 0, 0, 0, 0⟩

def pack (handler : UInt32) (selector : Selector) (flags : UInt8) : Descriptor where
  offsetLow := handler.toUInt16
  selector := selector
  zero := 0
  flags := flags
  offsetHigh := (handler >>> 16).toUInt16

def handler (d : Descriptor) : UInt32 :=
  d.offsetLow.toUInt32 ||| (d.offsetHigh.toUInt32 <<< 16)

def isPresent (d : Descriptor) : Bool := d.flags &&& 0x80 ≠ 0

def ring (d : Descriptor) : Ring := .ofAccess d.flags

/-- The type nibble with the bit above it, which is clear for a gate. -/
def kind (d : Descriptor) : UInt8 := d.flags &&& 0x1F

/-- The descriptor as it lies in memory. -/
def bytes (d : Descriptor) : List UInt8 :=
  LittleEndian.ofUInt16 d.offsetLow ++ LittleEndian.ofUInt16 d.selector ++ [d.zero, d.flags] ++
    LittleEndian.ofUInt16 d.offsetHigh

def outline (d : Descriptor) : Text.Outline :=
  .record "GateDescriptor" [
    .part "offset_low" (.number d.offsetLow.toNat),
    .part "selector" (.number d.selector.toNat),
    .part "zero" (.number d.zero.toNat),
    .part "flags" (.number d.flags.toNat),
    .part "offset_high" (.number d.offsetHigh.toNat)]

end Descriptor

end BringUp.Gate
