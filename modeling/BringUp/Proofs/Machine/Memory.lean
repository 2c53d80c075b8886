import BringUp.TablePointer

/-!
# Tables in memory

The processor knows of a table its first address and the offset of its last byte, and every entry
takes eight bytes. If a table's image lies at its address, the bytes found for an entry are those
of the entry.
-/

namespace BringUp

set_option autoImplicit false

/-- The byte at each address. Addresses wrap. -/
abbrev Memory := UInt32 → UInt8

namespace Memory

/-- The bytes lie in order from `base` on. -/
def Holds (memory : Memory) (base : UInt32) (bytes : List UInt8) : Prop :=
  ∀ (offset : Nat) (h : offset < bytes.length), memory (base + UInt32.ofNat offset) = bytes[offset]

/-- The next so many bytes from an address on. -/
def read (memory : Memory) (address : UInt32) (count : Nat) : List UInt8 :=
  (List.range count).map fun offset => memory (address + UInt32.ofNat offset)

/-- The eight bytes of a table's entry, if they end within the table's limit. -/
def entry? (memory : Memory) (pointer : TablePointer) (index : Nat) : Option (List UInt8) :=
  if 8 * index + 7 ≤ pointer.limit.toNat then
    some (memory.read (pointer.base + UInt32.ofNat (8 * index)) 8)
  else none

theorem Holds.read {memory : Memory} {base : UInt32} {bytes : List UInt8}
    (h : memory.Holds base bytes) : memory.read base bytes.length = bytes := by
  refine List.ext_getElem (by rw [Memory.read, List.length_map, List.length_range]) ?_
  intro offset _ hoffset
  simp only [Memory.read, List.getElem_map, List.getElem_range]
  exact h offset hoffset

/-- Bytes in two parts lie one part behind the other. -/
theorem Holds.append {memory : Memory} {base : UInt32} {first second : List UInt8}
    (h : memory.Holds base (first ++ second)) :
    memory.Holds base first ∧ memory.Holds (base + UInt32.ofNat first.length) second := by
  constructor
  · intro offset hoffset
    have hlength : offset < (first ++ second).length := by
      rw [List.length_append]
      omega
    rw [h offset hlength, List.getElem_append_left hoffset]
  · intro offset hoffset
    have hlength : first.length + offset < (first ++ second).length := by
      rw [List.length_append]
      omega
    rw [UInt32.add_assoc, ← UInt32.ofNat_add, h _ hlength,
      List.getElem_append_right (Nat.le_add_right _ _)]
    simp only [Nat.add_sub_cancel_left]

section Entries

variable {α : Type} {image : α → List UInt8} {memory : Memory}

/-- Every entry of a table lies behind those before it. -/
theorem Holds.entry (height : ∀ a, (image a).length = 8) {base : UInt32} {entries : List α}
    (h : memory.Holds base (entries.flatMap image)) {index : Nat} {entry : α}
    (hentry : entries[index]? = some entry) :
    memory.Holds (base + UInt32.ofNat (8 * index)) (image entry) := by
  induction entries generalizing base index with
  | nil => cases hentry
  | cons first rest ih =>
    rw [List.flatMap_cons] at h
    obtain ⟨hfirst, hrest⟩ := h.append
    cases index with
    | zero =>
      obtain rfl : first = entry := Option.some.inj hentry
      have hzero : base + UInt32.ofNat (8 * 0) = base := UInt32.add_zero base
      rwa [hzero]
    | succ index =>
      rw [height] at hrest
      have hbehind := ih hrest hentry
      rwa [UInt32.add_assoc, ← UInt32.ofNat_add, Nat.add_comm, ← Nat.mul_succ] at hbehind

/-- Within the limit of a table that fills it, an entry is found with its own bytes, and past the
limit nothing is found. -/
theorem entry?_eq (height : ∀ a, (image a).length = 8) {pointer : TablePointer}
    {entries : List α} (h : memory.Holds pointer.base (entries.flatMap image))
    (hlimit : pointer.limit.toNat + 1 = 8 * entries.length) (index : Nat) :
    memory.entry? pointer index = entries[index]?.map image := by
  unfold entry?
  cases hentry : entries[index]? with
  | none =>
    have hpast : entries.length ≤ index := List.getElem?_eq_none_iff.mp hentry
    rw [if_neg (by omega), Option.map_none]
  | some entry =>
    obtain ⟨hindex, -⟩ := List.getElem?_eq_some_iff.mp hentry
    have hread := (h.entry height hentry).read
    rw [height] at hread
    rw [if_pos (by omega), hread, Option.map_some]

end Entries

/-- A memory with the bytes from `base` on and zeros elsewhere. -/
def ofBytes (base : UInt32) (bytes : List UInt8) : Memory := fun address =>
  bytes.getD (address - base).toNat 0

theorem holds_ofBytes (base : UInt32) {bytes : List UInt8} (h : bytes.length ≤ UInt32.size) :
    (ofBytes base bytes).Holds base bytes := by
  intro offset hoffset
  have hsub : (base + UInt32.ofNat offset - base).toNat = offset := by
    rw [UInt32.add_comm, UInt32.add_sub_cancel,
      UInt32.toNat_ofNat_of_lt' (Nat.lt_of_lt_of_le hoffset h)]
  rw [ofBytes, hsub, List.getD_eq_getElem?_getD, List.getElem?_eq_getElem hoffset,
    Option.getD_some]

end Memory

end BringUp
