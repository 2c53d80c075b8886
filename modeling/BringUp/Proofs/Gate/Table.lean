import BringUp.Gate.Table

/-!
# Where the gates lead

The two halves of an offset make the offset again, so a table that was filled from entry points
leads each vector to its own.
-/

namespace BringUp.Gate

set_option autoImplicit false

namespace Descriptor

theorem toNat_handler (d : Descriptor) :
    d.handler.toNat = d.offsetLow.toNat + d.offsetHigh.toNat <<< 16 := by
  have hhigh := d.offsetHigh.toNat_lt
  have hfits : d.offsetHigh.toNat <<< 16 < UInt32.size := by
    rw [Nat.shiftLeft_eq, UInt32.size]
    omega
  exact LittleEndian.toNat_or_shiftLeft d.offsetLow.toUInt32 d.offsetHigh.toUInt32 rfl (by decide)
    d.offsetLow.toNat_lt hfits

theorem handler_pack (handler : UInt32) (selector : Selector) (flags : UInt8) :
    (pack handler selector flags).handler = handler := by
  apply UInt32.toNat_inj.mp
  have hlt := handler.toNat_lt
  have hhigh : (handler >>> 16).toNat = handler.toNat / 65536 := by
    rw [UInt32.toNat_shiftRight, Nat.shiftRight_eq_div_pow]
    rfl
  rw [toNat_handler, pack, UInt32.toNat_toUInt16, UInt32.toNat_toUInt16, hhigh, Nat.shiftLeft_eq]
  omega

theorem isPresent_pack_interrupt (handler : UInt32) (selector : Selector) :
    (pack handler selector interruptFlags).isPresent = true := by
  show decide (interruptFlags &&& 0x80 ≠ 0) = true
  decide

end Descriptor

namespace Table

theorem limit_pointer (address : UInt32) : (pointer address).limit = 2047 := by
  show UInt16.ofNat (8 * tableEntries - 1) = 2047
  decide

/-- The gate that leads to an entry point from ring 0, as an interrupt. -/
structure LeadsTo (gate : Descriptor) (entry : UInt32) : Prop where
  handler : gate.handler = entry
  selector : gate.selector = 0x08
  flags : gate.flags = 0x8E
  zero : gate.zero = 0

/-- One interrupt gate for each entry point and nothing else. -/
def ofEntryPoints (entries : EntryPoints) : Table :=
  ⟨.ofFn fun vector =>
    if h : vector.val < 48 then .pack entries[vector.val] Segment.codeSelector interruptFlags
    else .missing⟩

theorem ofEntryPoints_gate (entries : EntryPoints) (vector : UInt8) :
    (ofEntryPoints entries).gate vector =
      if h : vector.toNat < 48 then
        .pack entries[vector.toNat] Segment.codeSelector interruptFlags
      else .missing := by
  rw [gate, ofEntryPoints, Vector.getElem_ofFn]

theorem gate_ofEntryPoints (entries : EntryPoints) {vector : UInt8} (h : vector.toNat < 48) :
    LeadsTo ((ofEntryPoints entries).gate vector) entries[vector.toNat] := by
  rw [ofEntryPoints_gate, dif_pos h]
  exact ⟨Descriptor.handler_pack _ _ _, rfl, rfl, rfl⟩

theorem gate_ofEntryPoints_missing (entries : EntryPoints) {vector : UInt8}
    (h : ¬ vector.toNat < 48) : (ofEntryPoints entries).gate vector = .missing := by
  rw [ofEntryPoints_gate, dif_neg h]

/-- The gates with entry code are present, and no others. -/
theorem presentCount_ofEntryPoints (entries : EntryPoints) :
    (ofEntryPoints entries).presentCount = 48 := by
  have hpresent (vector : Fin 256) : (if h : vector.val < 48 then
      Descriptor.pack entries[vector.val] Segment.codeSelector interruptFlags
      else .missing).isPresent = decide (vector.val < 48) := by
    by_cases h : vector.val < 48
    · rw [dif_pos h, Descriptor.isPresent_pack_interrupt, decide_eq_true h]
    · rw [dif_neg h, decide_eq_false h]
      rfl
  have hflags : (ofEntryPoints entries).gates.toList.map Descriptor.isPresent =
      List.ofFn fun vector : Fin 256 => decide (vector.val < 48) := by
    rw [ofEntryPoints, Vector.toList_ofFn, List.map_ofFn]
    exact congrArg List.ofFn (funext hpresent)
  have hcount : (ofEntryPoints entries).presentCount =
      ((ofEntryPoints entries).gates.toList.map Descriptor.isPresent).countP id := by
    rw [List.countP_map, presentCount, ← Vector.countP_toList]
    rfl
  rw [hcount, hflags]
  decide +kernel

end Table

end BringUp.Gate
