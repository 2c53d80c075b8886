import BringUp.Cpu
import BringUp.Text.Outline

/-!
# Segment descriptors

A descriptor packs a 32-bit base, a 20-bit limit, an access byte and four flags into eight
bytes. For historical reasons the base lies in three pieces and the limit in two, the upper one
sharing a byte with the flags.
-/

namespace BringUp.Segment

set_option autoImplicit false

structure Descriptor where
  limitLow : UInt16
  baseLow : UInt16
  baseMiddle : UInt8
  access : UInt8
  /-- Flags in the high nibble, bits 16 to 19 of the limit in the low one. -/
  granularity : UInt8
  baseHigh : UInt8
  deriving DecidableEq

namespace Descriptor

def null : Descriptor := ⟨0, 0, 0, 0, 0, 0⟩

/-- Packs a base, the low 20 bits of a limit, an access byte and the high nibble of `flags`. -/
def pack (base limit : UInt32) (access flags : UInt8) : Descriptor where
  limitLow := limit.toUInt16
  baseLow := base.toUInt16
  baseMiddle := (base >>> 16).toUInt8
  access := access
  granularity := ((limit >>> 16).toUInt8 &&& 0x0F) ||| (flags &&& 0xF0)
  baseHigh := (base >>> 24).toUInt8

def base (d : Descriptor) : UInt32 :=
  d.baseLow.toUInt32 ||| (d.baseMiddle.toUInt32 <<< 16) ||| (d.baseHigh.toUInt32 <<< 24)

def limit (d : Descriptor) : UInt32 :=
  d.limitLow.toUInt32 ||| ((d.granularity &&& 0x0F).toUInt32 <<< 16)

def flags (d : Descriptor) : UInt8 := d.granularity &&& 0xF0

def isPresent (d : Descriptor) : Bool := d.access &&& 0x80 ≠ 0

def ring (d : Descriptor) : Ring := .ofAccess d.access

/-- The descriptor as it lies in memory. -/
def bytes (d : Descriptor) : List UInt8 :=
  LittleEndian.ofUInt16 d.limitLow ++ LittleEndian.ofUInt16 d.baseLow ++
    [d.baseMiddle, d.access, d.granularity, d.baseHigh]

def outline (d : Descriptor) : Text.Outline :=
  .record "SegmentDescriptor" [
    .part "limit_low" (.number d.limitLow.toNat),
    .part "base_low" (.number d.baseLow.toNat),
    .part "base_middle" (.number d.baseMiddle.toNat),
    .part "access" (.number d.access.toNat),
    .part "granularity" (.number d.granularity.toNat),
    .part "base_high" (.number d.baseHigh.toNat)]

end Descriptor

end BringUp.Segment
