import BringUp.Code
import BringUp.Proofs.Paging.Filling

/-!
# Editing a table

A table is written, cleared and zeroed in place, in any order, and an edit that breaks a rule is
made not at all. So an entry holds what the last edit that was accepted has left there, whatever
was refused in between, and reading it tells the same.
-/

namespace BringUp.Paging

set_option autoImplicit false

inductive Edit where
  | write (index : UInt64) (address : UInt32) (flags : Flags)
  | clear (index : UInt64)
  | zero
  /-- Puts a new table in place of the old one. -/
  | reset

namespace Edit

def apply : Edit → Table → Except Fault Table
  | write index address flags, table => table.write index address flags
  | clear index, table => table.clear index
  | zero, table => .ok table.zero
  | reset, _ => .ok .empty

/-- Makes the edit in place. -/
def perform (edit : Edit) : Action Table Unit := Action.store edit.apply

/-- Which edits break no rule: frames are aligned, and indices lie in the table. -/
def Accepted : Edit → Prop
  | write index address _ => address.toNat % 4096 = 0 ∧ index.toNat < 1024
  | clear index => index.toNat < 1024
  | zero | reset => True

instance : DecidablePred Accepted
  | write _ _ _ => inferInstanceAs (Decidable (_ ∧ _))
  | clear _ => inferInstanceAs (Decidable (_ < _))
  | zero | reset => inferInstanceAs (Decidable True)

/-- Whether an edit is meant for the entry at an index. -/
def Reaches (index : UInt64) : Edit → Prop
  | write other _ _ | clear other => index = other
  | zero | reset => True

instance (index : UInt64) : DecidablePred (Reaches index)
  | write other _ _ | clear other => inferInstanceAs (Decidable (index = other))
  | zero | reset => inferInstanceAs (Decidable True)

/-- What an edit leaves in the entries that it reaches. -/
def bits : Edit → UInt32
  | write _ address flags => address ||| flags.bits
  | clear _ | zero | reset => 0

end Edit

namespace Table

variable {table : Table} {index : UInt64}

theorem get_past (h : 1024 ≤ index.toNat) (table : Table) :
    table.get index = .error (.indexOutOfBounds 1024 index.toNat) :=
  dif_neg (Nat.not_lt.mpr h)

theorem set_past (h : 1024 ≤ index.toNat) (table : Table) (entry : Entry) :
    table.set index entry = .error (.indexOutOfBounds 1024 index.toNat) :=
  dif_neg (Nat.not_lt.mpr h)

theorem set_inside (h : index.toNat < 1024) (table : Table) (entry : Entry) :
    ∃ written, table.set index entry = .ok written := ⟨_, dif_pos h⟩

theorem get_empty (h : index.toNat < 1024) : empty.get index = .ok .unused := by
  rw [get, dif_pos h]
  exact congrArg Except.ok (Vector.getElem_replicate h)

theorem write_aligned {address : UInt32} (h : address.toNat % 4096 = 0) (table : Table)
    (index : UInt64) (flags : Flags) :
    table.write index address flags = table.set index ⟨address ||| flags.bits⟩ := by
  rw [write, PageFrame.ofAddress, dif_pos h]
  rfl

/-- The frame is looked at first, so the index does not matter. -/
theorem write_unaligned {address : UInt32} (h : address.toNat % 4096 ≠ 0) (table : Table)
    (index : UInt64) (flags : Flags) :
    table.write index address flags = .error (.frameUnaligned address) := by
  rw [write, PageFrame.ofAddress, dif_neg h]
  rfl

section Listing

theorem mem_indices {kind : Entry → Bool} :
    index.toNat ∈ table.indices kind ↔
      ∃ entry, table.get index = .ok entry ∧ kind entry = true := by
  simp only [indices, List.mem_filterMap, List.mem_finRange, true_and,
    Option.ite_none_right_eq_some, Option.some.injEq]
  constructor
  · rintro ⟨slot, hkind, hslot⟩
    have hlt : index.toNat < 1024 := hslot ▸ slot.isLt
    refine ⟨table.entries[slot], ?_, hkind⟩
    rw [get, dif_pos hlt]
    simp only [← hslot]
    rfl
  · rintro ⟨entry, hget, hkind⟩
    by_cases hlt : index.toNat < 1024
    · rw [get, dif_pos hlt] at hget
      cases hget
      exact ⟨⟨index.toNat, hlt⟩, hkind, rfl⟩
    · rw [get_past (Nat.le_of_not_lt hlt)] at hget
      cases hget

theorem indices_subset {kind other : Entry → Bool}
    (h : ∀ entry, kind entry = true → other entry = true) (table : Table) :
    table.indices kind ⊆ table.indices other := by
  intro n hn
  simp only [indices, List.mem_filterMap, Option.ite_none_right_eq_some] at hn ⊢
  obtain ⟨slot, hmem, hkind, hslot⟩ := hn
  exact ⟨slot, hmem, h _ hkind, hslot⟩

end Listing

end Table

namespace Entry

theorem isPresent_iff (entry : Entry) : entry.isPresent = true ↔ entry.bits &&& 1 = 1 := by
  have hlow : entry.bits &&& 0xFFF &&& Flags.known &&& Flags.present.bits = entry.bits &&& 1 := by
    rw [UInt32.and_assoc, UInt32.and_assoc]
    rfl
  rw [isPresent, Entry.flags, Flags.contains, Flags.truncated, decide_eq_true_iff, hlow]
  rfl

theorem isUnused_iff (entry : Entry) : entry.isUnused = true ↔ entry.bits = 0 := decide_eq_true_iff

/-- An entry that is present holds at least the bit that says so. -/
theorem not_isUnused_of_isPresent {entry : Entry} (h : entry.isPresent = true) :
    (!entry.isUnused) = true := by
  rw [Bool.not_eq_true', ← Bool.not_eq_true, isUnused_iff]
  intro hzero
  rw [isPresent_iff, hzero] at h
  exact absurd h (by decide)

end Entry

namespace Edit

variable {edit : Edit} {table written : Table}

theorem perform_of_ok (h : edit.apply table = .ok written) :
    edit.perform table = .ok () written := Action.store_ok h

theorem perform_of_error {cause : Fault} (h : edit.apply table = .error cause) :
    edit.perform table = .error (.fault cause) table := Action.store_error h

/-- An edit that breaks no rule is made in every table. -/
theorem Accepted.apply (h : edit.Accepted) (table : Table) :
    ∃ written, edit.apply table = .ok written := by
  cases edit with
  | write index address flags =>
    rw [Edit.apply, Table.write_aligned h.1]
    exact Table.set_inside h.2 table _
  | clear index => exact Table.set_inside h table .unused
  | zero => exact ⟨table.zero, rfl⟩
  | reset => exact ⟨.empty, rfl⟩

/-- An edit that breaks a rule is made in no table. -/
theorem apply_of_not_accepted (h : ¬ edit.Accepted) (table : Table) :
    ∃ cause, edit.apply table = .error cause := by
  cases edit with
  | write index address flags =>
    by_cases haligned : address.toNat % 4096 = 0
    · have hpast : 1024 ≤ index.toNat := Nat.le_of_not_lt fun hlt => h ⟨haligned, hlt⟩
      rw [Edit.apply, Table.write_aligned haligned]
      exact ⟨_, Table.set_past hpast table _⟩
    · exact ⟨_, Table.write_unaligned haligned table index flags⟩
  | clear index => exact ⟨_, Table.set_past (Nat.le_of_not_lt h) table .unused⟩
  | zero | reset => exact absurd trivial h

/-- An edit that was made shows in the entries that it reaches and in no other. -/
theorem get_apply (h : edit.apply table = .ok written) {index : UInt64}
    (hindex : index.toNat < 1024) :
    written.get index = if edit.Reaches index then .ok ⟨edit.bits⟩ else table.get index := by
  cases edit with
  | write other address flags =>
    by_cases haligned : address.toNat % 4096 = 0
    · rw [apply, Table.write_aligned haligned] at h
      exact Table.get_of_set h
    · rw [apply, Table.write_unaligned haligned] at h
      cases h
  | clear other =>
    exact Table.get_of_set h
  | zero =>
    cases h
    rw [Table.zero_eq, Table.get_empty hindex]
    rfl
  | reset =>
    cases h
    rw [Table.get_empty hindex]
    rfl

end Edit

/-- Edits to a table that was empty at first, the latest first. -/
abbrev Edits := List Edit

namespace Edits

/-- The table after some edits, those refused among them. -/
def table : Edits → Table
  | [] => .empty
  | edit :: earlier => Code.after edit.perform (table earlier)

/-- The last edit that was accepted and reached an entry. -/
def last? (edits : Edits) (index : UInt64) : Option Edit :=
  edits.find? fun edit => edit.Accepted ∧ edit.Reaches index

def bits (edits : Edits) (index : UInt64) : UInt32 := (edits.last? index).elim 0 Edit.bits

theorem table_of_ok {edit : Edit} {earlier : Edits} {written : Table}
    (h : edit.apply (table earlier) = .ok written) : table (edit :: earlier) = written := by
  rw [table, Code.after, Edit.perform_of_ok h]

/-- A refused edit is as good as none. -/
theorem table_of_error {edit : Edit} {earlier : Edits} {cause : Fault}
    (h : edit.apply (table earlier) = .error cause) : table (edit :: earlier) = table earlier := by
  rw [table, Code.after, Edit.perform_of_error h]

theorem bits_cons (edit : Edit) (earlier : Edits) (index : UInt64) :
    bits (edit :: earlier) index =
      if edit.Accepted ∧ edit.Reaches index then edit.bits else bits earlier index := by
  rw [bits, last?, List.find?_cons]
  by_cases h : edit.Accepted ∧ edit.Reaches index
  · rw [if_pos h, decide_eq_true h]
    rfl
  · rw [if_neg h, decide_eq_false h]
    rfl

theorem get_table (edits : Edits) {index : UInt64} (h : index.toNat < 1024) :
    edits.table.get index = .ok ⟨edits.bits index⟩ := by
  induction edits with
  | nil => exact Table.get_empty h
  | cons edit earlier ih =>
    rw [bits_cons]
    by_cases haccepted : edit.Accepted
    · obtain ⟨written, hmade⟩ := haccepted.apply (table earlier)
      rw [table_of_ok hmade, Edit.get_apply hmade h, ih]
      by_cases hreaches : edit.Reaches index
      · rw [if_pos hreaches, if_pos ⟨haccepted, hreaches⟩]
      · rw [if_neg hreaches, if_neg fun hboth => hreaches hboth.2]
    · obtain ⟨cause, hrefused⟩ := Edit.apply_of_not_accepted haccepted (table earlier)
      rw [table_of_error hrefused, ih, if_neg fun hboth => haccepted hboth.1]

/-- What a table shows after some edits, and how it takes another one. -/
structure Shows (edits : Edits) (table : Table) : Prop where
  entry : ∀ index : UInt64, index.toNat < 1024 → table.get index = .ok ⟨edits.bits index⟩
  past : ∀ index : UInt64, 1024 ≤ index.toNat →
    table.get index = .error (.indexOutOfBounds 1024 index.toNat)
  accepted : ∀ edit : Edit, edit.Accepted →
    edit.perform table = .ok () (Edits.table (edit :: edits))
  /-- A frame that is none is refused at any index. -/
  unaligned : ∀ (index : UInt64) (address : UInt32) (flags : Flags), address.toNat % 4096 ≠ 0 →
    (Edit.write index address flags).perform table = .error (.fault (.frameUnaligned address)) table
  write_past : ∀ (index : UInt64) (address : UInt32) (flags : Flags), address.toNat % 4096 = 0 →
    1024 ≤ index.toNat → (Edit.write index address flags).perform table =
      .error (.fault (.indexOutOfBounds 1024 index.toNat)) table
  clear_past : ∀ index : UInt64, 1024 ≤ index.toNat →
    (Edit.clear index).perform table = .error (.fault (.indexOutOfBounds 1024 index.toNat)) table
  present_iff : ∀ index : UInt64, index.toNat ∈ table.present ↔
    index.toNat < 1024 ∧ edits.bits index &&& 1 = 1
  used_iff : ∀ index : UInt64, index.toNat ∈ table.used ↔
    index.toNat < 1024 ∧ edits.bits index ≠ 0
  present_used : table.present ⊆ table.used

/-- An entry is listed by what the edits left there. -/
theorem mem_indices_table (edits : Edits) (index : UInt64) (kind : Entry → Bool) :
    index.toNat ∈ edits.table.indices kind ↔
      index.toNat < 1024 ∧ kind ⟨edits.bits index⟩ = true := by
  rw [Table.mem_indices]
  by_cases hindex : index.toNat < 1024
  · rw [get_table edits hindex]
    simp [hindex]
  · rw [Table.get_past (Nat.le_of_not_lt hindex)]
    simp [hindex]

/-- Whatever was done to a table that was empty at first, each entry holds what the last accepted
edit has left there: the frame and the flags of a write, and nothing after a clear, a zeroing or a
reset. An unaligned frame is refused before the index is looked at, an index past the end is refused
otherwise, and then no entry changes. Every entry listed as present is listed as used. -/
theorem edited_table_shows (edits : Edits) : edits.Shows edits.table := by
  constructor
  case entry => exact fun index => get_table edits
  case past => exact fun index h => Table.get_past h _
  case accepted =>
    intro edit haccepted
    obtain ⟨written, hmade⟩ := haccepted.apply edits.table
    rw [table_of_ok hmade]
    exact Edit.perform_of_ok hmade
  case unaligned =>
    exact fun index address flags h =>
      Edit.perform_of_error (Table.write_unaligned h edits.table index flags)
  case write_past =>
    intro index address flags haligned hpast
    refine Edit.perform_of_error ?_
    rw [Edit.apply, Table.write_aligned haligned]
    exact Table.set_past hpast edits.table _
  case clear_past =>
    exact fun index h => Edit.perform_of_error (Table.set_past h edits.table .unused)
  case present_iff =>
    intro index
    rw [Table.present, mem_indices_table, Entry.isPresent_iff]
  case used_iff =>
    intro index
    rw [Table.used, mem_indices_table, Bool.not_eq_true', ← Bool.not_eq_true, Entry.isUnused_iff]
  case present_used =>
    exact Table.indices_subset (fun _ => Entry.not_isUnused_of_isPresent) edits.table

/-- Entries are written, one of them twice, and another is cleared; a frame that is none and an index
past the end come in between and leave no trace. -/
theorem refused_edits_leave_entries :
    let edits : Edits := [.clear 1023, .write 1024 0x4000 .kernel, .write 7 0x1234 .kernel,
      .write 5 0x3000 (.retained 0x5E02), .write 1023 0xFFFFF000 .kernel, .write 7 0x2000 .kernel,
      .write 5 0x1000 .kernel]
    edits.table.get 5 = .ok ⟨0x7E02⟩ ∧ edits.table.get 7 = .ok ⟨0x2003⟩ ∧
      edits.table.get 1023 = .ok ⟨0⟩ ∧ 7 ∈ edits.table.present ∧ 5 ∈ edits.table.used ∧
      5 ∉ edits.table.present ∧
      (Edit.write 1024 0x1234 .kernel).perform edits.table =
        .error (.fault (.frameUnaligned 0x1234)) edits.table := by
  intro edits
  have hshows := edited_table_shows edits
  refine ⟨hshows.entry 5 (by decide), hshows.entry 7 (by decide), hshows.entry 1023 (by decide),
    (hshows.present_iff 7).mpr (by decide), (hshows.used_iff 5).mpr (by decide),
    fun h => absurd ((hshows.present_iff 5).mp h) (by decide),
    hshows.unaligned 1024 0x1234 .kernel (by decide)⟩

end Edits

end BringUp.Paging
