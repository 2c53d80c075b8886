import BringUp.Machine.Tracked
import BringUp.Proofs.Gate.Table
import BringUp.Proofs.Machine.Memory
import BringUp.Proofs.Segment.Format

/-!
# From a vector to its code

When a vector arrives, the processor reads a gate from memory and then, through the gate's
selector, a segment. It sees nothing but bytes, and pieces the fields together on its own. If both
tables lie where the processor was told, what it finds is what the tables say.
-/

namespace BringUp

set_option autoImplicit false

namespace Gate

/-- What the processor takes from the bytes of a gate. -/
structure View where
  present : Bool
  ring : Ring
  kind : UInt8
  zero : UInt8
  selector : Selector
  target : UInt32
  deriving DecidableEq

def View.ofBytes : List UInt8 → Option View
  | [target0, target1, selector0, selector1, zero, flags, target2, target3] => some {
      present := flags &&& 0x80 ≠ 0
      ring := .ofAccess flags
      kind := flags &&& 0x1F
      zero
      selector := UInt16.ofNat (LittleEndian.value [selector0, selector1])
      target := UInt32.ofNat (LittleEndian.value [target0, target1, target2, target3]) }
  | _ => none

namespace Descriptor

def view (d : Descriptor) : View :=
  ⟨d.isPresent, d.ring, d.kind, d.zero, d.selector, d.handler⟩

theorem length_bytes (d : Descriptor) : d.bytes.length = 8 := rfl

theorem view_interrupt (handler : UInt32) (selector : Selector) :
    (pack handler selector interruptFlags).view = ⟨true, .ring0, 0x0E, 0, selector, handler⟩ := by
  have hring : (pack handler selector interruptFlags).ring = .ring0 := by
    show Ring.ofAccess interruptFlags = .ring0
    decide
  have hkind : (pack handler selector interruptFlags).kind = 0x0E := by
    show interruptFlags &&& 0x1F = 0x0E
    decide
  rw [view, handler_pack, isPresent_pack_interrupt, hring, hkind]
  rfl

theorem view_bytes (d : Descriptor) : View.ofBytes d.bytes = some d.view := by
  have hselector : UInt16.ofNat (LittleEndian.value (LittleEndian.ofUInt16 d.selector)) =
      d.selector := by
    rw [LittleEndian.value_ofUInt16, UInt16.ofNat_toNat]
  have htarget : UInt32.ofNat (LittleEndian.value
      (LittleEndian.ofUInt16 d.offsetLow ++ LittleEndian.ofUInt16 d.offsetHigh)) = d.handler := by
    rw [LittleEndian.value_append, LittleEndian.value_ofUInt16, LittleEndian.value_ofUInt16]
    show UInt32.ofNat (d.offsetLow.toNat + d.offsetHigh.toNat <<< 16) = d.handler
    rw [← toNat_handler, UInt32.ofNat_toNat]
  rw [view, ← hselector, ← htarget]
  rfl

end Descriptor

end Gate

namespace Segment

/-- What the processor takes from the bytes of a segment's descriptor. -/
structure View where
  present : Bool
  ring : Ring
  /-- Code, as opposed to data or a structure of the processor's own. -/
  executable : Bool
  base : UInt32
  limit : UInt32
  /-- Whether the limit counts pages of 4 KiB. -/
  inPages : Bool
  deriving DecidableEq

def View.ofBytes : List UInt8 → Option View
  | [limit0, limit1, base0, base1, base2, access, granularity, base3] => some {
      present := access &&& 0x80 ≠ 0
      ring := .ofAccess access
      executable := access &&& 0x18 = 0x18
      base := UInt32.ofNat (LittleEndian.value [base0, base1, base2, base3])
      limit := UInt32.ofNat (LittleEndian.value [limit0, limit1, granularity &&& 0x0F])
      inPages := granularity &&& 0x80 ≠ 0 }
  | _ => none

namespace Descriptor

def view (d : Descriptor) : View :=
  ⟨d.isPresent, d.ring, d.access &&& 0x18 = 0x18, d.base, d.limit, d.flags &&& 0x80 ≠ 0⟩

theorem view_bytes (d : Descriptor) : View.ofBytes d.bytes = some d.view := by
  have hbase : UInt32.ofNat (LittleEndian.value
      (LittleEndian.ofUInt16 d.baseLow ++ ([d.baseMiddle] ++ [d.baseHigh]))) = d.base := by
    have hvalue : LittleEndian.value
        (LittleEndian.ofUInt16 d.baseLow ++ ([d.baseMiddle] ++ [d.baseHigh])) = d.base.toNat := by
      rw [LittleEndian.value_append, LittleEndian.value_ofUInt16, toNat_base]
      simp [LittleEndian.value, LittleEndian.ofUInt16, Nat.shiftLeft_eq]
      omega
    rw [hvalue, UInt32.ofNat_toNat]
  have hlimit : UInt32.ofNat (LittleEndian.value
      (LittleEndian.ofUInt16 d.limitLow ++ [d.granularity &&& 0x0F])) = d.limit := by
    rw [LittleEndian.value_append, LittleEndian.value_ofUInt16]
    show UInt32.ofNat (d.limitLow.toNat + (d.granularity &&& 0x0F).toNat <<< 16) = d.limit
    rw [← toNat_limit, UInt32.ofNat_toNat]
  have hpages : d.flags &&& 0x80 = d.granularity &&& 0x80 := by
    rw [flags, UInt8.and_assoc]
    rfl
  rw [view, ← hbase, ← hlimit, hpages]
  rfl

end Descriptor

end Segment

/-- What a vector leads to: a gate, and the segment that the gate's selector names. -/
structure Resolution where
  gate : Gate.View
  segment : Option Segment.View
  deriving DecidableEq

namespace TrackedCpu

/-- The bytes of the gate that the processor finds for a vector. -/
def gateBytes (memory : Memory) (vector : UInt8) (cpu : TrackedCpu) : Option (List UInt8) :=
  cpu.idtr.bind fun gates => memory.entry? gates vector.toNat

/-- The bytes of the descriptor that the processor finds for a selector. -/
def segmentBytes (memory : Memory) (selector : Selector) (cpu : TrackedCpu) : Option (List UInt8) :=
  cpu.gdtr.bind fun segments => memory.entry? segments (selector.toNat / 8)

/-- Looks a vector up as the processor does when the vector arrives. -/
def resolve (memory : Memory) (vector : UInt8) (cpu : TrackedCpu) : Option Resolution := do
  let gate ← (cpu.gateBytes memory vector).bind Gate.View.ofBytes
  let segment := (cpu.segmentBytes memory gate.selector).bind Segment.View.ofBytes
  return ⟨gate, segment⟩

end TrackedCpu

section Tables

variable {memory : Memory} {segments : Segment.Table} {gates : Gate.Table} {cpu : TrackedCpu}
  {address segmentsAddress gatesAddress : UInt32}

theorem TrackedCpu.gateBytes_eq (hidtr : cpu.idtr = some (Gate.Table.pointer address))
    (hgates : memory.Holds address gates.bytes) (vector : UInt8) :
    cpu.gateBytes memory vector = some (gates.gate vector).bytes := by
  have hfits : (Gate.Table.pointer address).limit.toNat + 1 = 8 * gates.gates.toList.length := by
    rw [Vector.length_toList]
    rfl
  have hgate : gates.gates.toList[vector.toNat]? = some (gates.gate vector) := by
    rw [Vector.getElem?_toList, Vector.getElem?_eq_getElem vector.toNat_lt]
    rfl
  rw [gateBytes, hidtr, Option.bind_some,
    Memory.entry?_eq Gate.Descriptor.length_bytes hgates hfits, hgate, Option.map_some]

theorem TrackedCpu.segmentBytes_eq (hgdtr : cpu.gdtr = some (Segment.Table.pointer address))
    (hsegments : memory.Holds address segments.bytes) (selector : Selector) :
    cpu.segmentBytes memory selector =
      segments.entries[selector.toNat / 8]?.map Segment.Descriptor.bytes := by
  have hfits : (Segment.Table.pointer address).limit.toNat + 1 =
      8 * segments.entries.toList.length := by
    rw [Vector.length_toList]
    rfl
  rw [segmentBytes, hgdtr, Option.bind_some,
    Memory.entry?_eq Segment.Descriptor.length_bytes hsegments hfits, Vector.getElem?_toList]

/-- A processor that was told where both tables lie resolves every vector as they say. -/
theorem TrackedCpu.resolve_eq (hgdtr : cpu.gdtr = some (Segment.Table.pointer segmentsAddress))
    (hidtr : cpu.idtr = some (Gate.Table.pointer gatesAddress))
    (hsegments : memory.Holds segmentsAddress segments.bytes)
    (hgates : memory.Holds gatesAddress gates.bytes) (vector : UInt8) :
    cpu.resolve memory vector = some {
      gate := (gates.gate vector).view
      segment := segments.entries[(gates.gate vector).selector.toNat / 8]?.map
        Segment.Descriptor.view } := by
  have hview : Segment.View.ofBytes ∘ Segment.Descriptor.bytes =
      fun d => some d.view := funext Segment.Descriptor.view_bytes
  rw [resolve, gateBytes_eq hidtr hgates, Option.bind_some, Gate.Descriptor.view_bytes,
    Option.bind_eq_bind, Option.bind_some, segmentBytes_eq hgdtr hsegments, Option.bind_map, hview,
    Option.map_eq_bind]
  rfl

/-- Wherever the segments are to lie, there is a memory with the gates right behind them. -/
theorem exists_memory (segments : Segment.Table) (gates : Gate.Table) (address : UInt32) :
    ∃ memory : Memory, memory.Holds address segments.bytes ∧
      memory.Holds (address + 24) gates.bytes := by
  have hfits : (segments.bytes ++ gates.bytes).length ≤ UInt32.size := by
    rw [List.length_append, segments.length_bytes, gates.length_bytes]
    decide
  obtain ⟨hfirst, hsecond⟩ := (Memory.holds_ofBytes address hfits).append
  rw [segments.length_bytes] at hsecond
  exact ⟨_, hfirst, hsecond⟩

end Tables

end BringUp
