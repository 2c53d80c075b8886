import BringUp.Kernel.HandlerTable

/-!
# What a handler table shows of itself

The table counts and lists its registered vectors in two passes over its slots. Both agree with
what `get` finds on each vector.
-/

namespace BringUp.HandlerTable

set_option autoImplicit false

variable {H : Type}

theorem get_empty (vector : UInt8) : (empty : HandlerTable H).get vector = none := by
  simp [get, empty]

/-- The vectors that have a handler, in the order of the slots. -/
def vectors (table : HandlerTable H) : List UInt8 :=
  ((List.finRange 256).filter fun slot => (table.slots.get slot).isSome).map fun slot =>
    UInt8.ofNat slot.val

theorem toNat_ofNat_slot (slot : Fin 256) : (UInt8.ofNat slot.val).toNat = slot.val :=
  Nat.mod_eq_of_lt slot.isLt

theorem mem_vectors (table : HandlerTable H) (vector : UInt8) :
    vector ∈ table.vectors ↔ (table.get vector).isSome = true := by
  have hlt : vector.toNat < 256 := vector.toNat_lt
  simp only [vectors, List.mem_map, List.mem_filter, List.mem_finRange, true_and]
  constructor
  · rintro ⟨slot, hslot, rfl⟩
    simp only [get, toNat_ofNat_slot]
    exact hslot
  · exact fun h => ⟨⟨vector.toNat, hlt⟩, h, UInt8.ofNat_toNat⟩

theorem pairwise_vectors (table : HandlerTable H) : table.vectors.Pairwise (· < ·) := by
  refine List.pairwise_map.mpr ?_
  refine ((List.pairwise_lt_finRange 256).filter _).imp fun {first second} h => ?_
  rw [UInt8.lt_iff_toNat_lt, toNat_ofNat_slot, toNat_ofNat_slot]
  exact h

theorem registered_eq (table : HandlerTable H) :
    table.registered = table.vectors.map UInt8.toNat := by
  rw [registered, vectors, List.map_map]
  generalize List.finRange 256 = slots
  induction slots with
  | nil => rfl
  | cons slot rest ih =>
    have hslot : table.slots[slot] = table.slots.get slot := rfl
    by_cases h : (table.slots.get slot).isSome = true
    · simp only [List.filterMap_cons, List.filter_cons, hslot, h, if_true, List.map_cons, ih,
        Function.comp_apply, toNat_ofNat_slot]
    · simp only [List.filterMap_cons, List.filter_cons, hslot, h, if_false, ih,
        Bool.false_eq_true]

theorem outline_eq (table : HandlerTable H) :
    table.outline = .sequence (table.vectors.map fun vector => .number vector.toNat) := by
  rw [outline, registered_eq, List.map_map]
  rfl

theorem toList_slots (table : HandlerTable H) :
    table.slots.toList = (List.finRange 256).map table.slots.get := by
  have hslots : Vector.ofFn table.slots.get = table.slots := Vector.ofFn_getElem
  have hlist := congrArg Vector.toList hslots
  rw [Vector.toList_ofFn] at hlist
  rw [← hlist, List.finRange, List.map_ofFn]
  rfl

theorem count_eq (table : HandlerTable H) : table.count = table.vectors.length := by
  rw [count, ← Vector.countP_toList, toList_slots, List.countP_map, List.countP_eq_length_filter,
    vectors, List.length_map]
  rfl

end BringUp.HandlerTable
