import BringUp.Code
import BringUp.Proofs.Segment.Format
import BringUp.Segment.Table

/-!
# Writing segments one after another

A write packs its arguments into the entry that it names, in place, or is refused before it stores
anything. After any number of writes, an entry shows the arguments of the last one that named it,
cut to what a descriptor can hold.
-/

namespace BringUp.Segment

set_option autoImplicit false

/-- All that a descriptor is packed from. -/
structure Fields where
  base : UInt32
  limit : UInt32
  access : UInt8
  flags : UInt8

def Fields.pack (fields : Fields) : Descriptor :=
  .pack fields.base fields.limit fields.access fields.flags

/-- What a descriptor shows that was packed from the given fields. -/
structure Encodes (fields : Fields) (d : Descriptor) : Prop where
  base : d.base = fields.base
  /-- Twenty bits of the limit are kept. -/
  limit : d.limit.toNat = fields.limit.toNat % 0x100000
  access : d.access = fields.access
  /-- The high nibble of the flags is kept. -/
  flags : d.flags = fields.flags &&& 0xF0
  length : d.bytes.length = 8
  word : LittleEndian.value d.bytes = word fields.base fields.limit fields.access fields.flags

theorem encodes_pack (fields : Fields) : Encodes fields fields.pack where
  base := Descriptor.base_pack _ _ _ _
  limit := Descriptor.toNat_limit_pack _ _ _ _
  access := rfl
  flags := Descriptor.flags_pack _ _ _ _
  length := rfl
  word := value_pack _ _ _ _

namespace Table

variable {index : UInt64}

theorem run_write_inside (h : index.toNat < 3) (descriptor : Descriptor) (table : Table) :
    (write index descriptor).run table =
      .ok (.ok ()) ⟨table.entries.set index.toNat descriptor⟩ := by
  show (dite (index.toNat < 3) _ _ : Edit Unit).run table = _
  rw [dif_pos h]
  rfl

/-- The index is looked at before the table is touched. -/
theorem run_write_past (h : ¬ index.toNat < 3) (descriptor : Descriptor) (table : Table) :
    (write index descriptor).run table = .ok (.error ⟨index⟩) table := by
  show (dite (index.toNat < 3) _ _ : Edit Unit).run table = _
  rw [dif_neg h]
  rfl

end Table

/-- The entry that a write names, and the fields for it. -/
structure Write where
  index : UInt64
  fields : Fields

namespace Write

/-- Makes the write in place, and tells whether it was accepted. -/
def perform (write : Write) : Action Table (Except IndexOutOfRange Unit) :=
  (Table.write write.index write.fields.pack).run

theorem perform_accepted {write : Write} (h : write.index.toNat < 3) (table : Table) :
    write.perform table =
      .ok (.ok ()) ⟨table.entries.set write.index.toNat write.fields.pack⟩ :=
  Table.run_write_inside h _ table

theorem perform_refused {write : Write} (h : ¬ write.index.toNat < 3) (table : Table) :
    write.perform table = .ok (.error ⟨write.index⟩) table :=
  Table.run_write_past h _ table

theorem perform_ok_iff (write : Write) (table : Table) :
    (∃ written, write.perform table = .ok (.ok ()) written) ↔ write.index.toNat < 3 := by
  by_cases h : write.index.toNat < 3
  · exact iff_of_true ⟨_, perform_accepted h table⟩ h
  · rw [perform_refused h]
    exact iff_of_false nofun h

/-- A write reaches the entry that it names and no other. -/
theorem entry?_perform (write : Write) (table : Table) {index : UInt64} (h : index.toNat < 3) :
    Table.entry? (Code.after write.perform table) index =
      if write.index = index then some write.fields.pack else table.entry? index := by
  rw [Code.after]
  by_cases hsame : write.index = index
  · subst hsame
    rw [perform_accepted h, if_pos rfl, Table.entry?, Vector.getElem?_set_self]
  · rw [if_neg hsame]
    by_cases haccepted : write.index.toNat < 3
    · have hother : write.index.toNat ≠ index.toNat := fun he => hsame (UInt64.toNat_inj.mp he)
      rw [perform_accepted haccepted, Table.entry?, Vector.getElem?_set_ne haccepted hother]
      rfl
    · rw [perform_refused haccepted]

end Write

/-- Writes to a table that was empty at first, the latest first. -/
abbrev Writes := List Write

namespace Writes

def table : Writes → Table
  | [] => .empty
  | write :: earlier => Code.after write.perform (table earlier)

/-- The last write that named an entry. -/
def last? (writes : Writes) (index : UInt64) : Option Write :=
  writes.find? fun write => write.index = index

theorem entry?_table (writes : Writes) {index : UInt64} (h : index.toNat < 3) :
    writes.table.entry? index =
      some ((writes.last? index).elim .null fun write => write.fields.pack) := by
  induction writes with
  | nil => exact Vector.getElem?_replicate_of_lt h
  | cons write earlier ih =>
    rw [table, Write.entry?_perform write _ h, last?, List.find?_cons]
    by_cases hsame : write.index = index
    · rw [if_pos hsame, decide_eq_true hsame]
      rfl
    · rw [if_neg hsame, decide_eq_false hsame, ih]
      rfl

/-- What the entries of a table are after some writes, and how it takes another one. -/
structure Shows (writes : Writes) (table : Table) : Prop where
  written : ∀ index : UInt64, index.toNat < 3 → ∀ write, writes.last? index = some write →
    ∃ d, table.entry? index = some d ∧ Encodes write.fields d
  untouched : ∀ index : UInt64, index.toNat < 3 → writes.last? index = none →
    table.entry? index = some .null
  accepted : ∀ write : Write,
    (∃ written, write.perform table = .ok (.ok ()) written) ↔ write.index.toNat < 3
  refused : ∀ write : Write, ¬ write.index.toNat < 3 →
    write.perform table = .ok (.error ⟨write.index⟩) table

theorem shows_table (writes : Writes) : Shows writes writes.table := by
  constructor
  case written =>
    intro index h write hlast
    refine ⟨write.fields.pack, ?_, encodes_pack _⟩
    rw [entry?_table writes h, hlast]
    rfl
  case untouched =>
    intro index h hlast
    rw [entry?_table writes h, hlast]
    rfl
  case accepted => exact fun write => write.perform_ok_iff _
  case refused => exact fun write h => Write.perform_refused h _

end Writes

/-- A descriptor shows the fields it was packed from, cut to their widths, and lies in memory as the
processor reads it. Every descriptor is packed from what it shows, so two are the same just if their
cut fields agree. Entries written any number of times show what was written last. -/
theorem fields_kept :
    (∀ fields : Fields, Encodes fields fields.pack) ∧
    (∀ d : Descriptor, .pack d.base d.limit d.access d.flags = d) ∧
    (∀ fields fields' : Fields, fields.pack = fields'.pack ↔
      fields.base = fields'.base ∧
        fields.limit.toNat % 0x100000 = fields'.limit.toNat % 0x100000 ∧
        fields.access = fields'.access ∧ fields.flags &&& 0xF0 = fields'.flags &&& 0xF0) ∧
    ∀ writes : Writes, writes.Shows writes.table :=
  ⟨encodes_pack, Descriptor.pack_fields, fun _ _ => Descriptor.pack_eq_iff _ _ _ _ _ _ _ _,
    Writes.shows_table⟩

/-- Both the fields of the flat code segment and a limit whose upper bits run into the flags are
written to one entry, and then a write is refused. The entry shows the later fields, cut. -/
theorem overwritten_entry_shows :
    let flat : Write := ⟨1, ⟨0, flatLimit, codeAccess, flatFlags⟩⟩
    let wide : Write := ⟨1, ⟨0x12345678, 0xFFFABCDE, 0x92, 0x4F⟩⟩
    let past : Write := ⟨3, ⟨0, 0, 0, 0⟩⟩
    let table := Writes.table [past, wide, flat]
    (∃ d, table.entry? 1 = some d ∧ d.base = 0x12345678 ∧ d.limit.toNat = 0xABCDE ∧
      d.flags = 0x40 ∧ LittleEndian.value d.bytes = 0x124A92345678BCDE) ∧
    table.entry? 2 = some .null ∧
    past.perform (Writes.table [wide, flat]) = .ok (.error ⟨3⟩) (Writes.table [wide, flat]) := by
  intro flat wide past table
  obtain ⟨-, -, -, hshows⟩ := fields_kept
  obtain ⟨d, hentry, hencodes⟩ :=
    (hshows [past, wide, flat]).written 1 (by decide) wide rfl
  have hword := hencodes.word.trans (by decide : _ = 0x124A92345678BCDE)
  refine ⟨⟨d, hentry, hencodes.base, hencodes.limit.trans (by decide),
    hencodes.flags.trans (by decide), hword⟩, ?_, ?_⟩
  · exact (hshows [past, wide, flat]).untouched 2 (by decide) rfl
  · exact (hshows [wide, flat]).refused past (by decide)

end BringUp.Segment
