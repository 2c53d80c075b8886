import BringUp.Text.Outline

/-!
# The handler table

One slot for each of the 256 vectors. The table does not look into its handlers.
-/

namespace BringUp

set_option autoImplicit false

structure HandlerTable (H : Type) where
  slots : Vector (Option H) 256

namespace HandlerTable

variable {H : Type}

def empty : HandlerTable H := ⟨.replicate 256 none⟩

def get (table : HandlerTable H) (vector : UInt8) : Option H :=
  have inside : vector.toNat < 256 := vector.toNat_lt
  table.slots[vector.toNat]

def put (table : HandlerTable H) (vector : UInt8) (content : Option H) : HandlerTable H :=
  ⟨table.slots.set vector.toNat content vector.toNat_lt⟩

/-- Installs a handler; any earlier one is returned. -/
def register (table : HandlerTable H) (vector : UInt8) (handler : H) : Option H × HandlerTable H :=
  (table.get vector, table.put vector (some handler))

/-- Empties a slot; the handler that was in it is returned. -/
def unregister (table : HandlerTable H) (vector : UInt8) : Option H × HandlerTable H :=
  (table.get vector, table.put vector none)

/-- The vectors that have a handler, in increasing order. -/
def registered (table : HandlerTable H) : List Nat :=
  (List.finRange 256).filterMap fun vector =>
    if table.slots[vector].isSome then some vector.val else none

def count (table : HandlerTable H) : Nat := table.slots.countP Option.isSome

def outline (table : HandlerTable H) : Text.Outline :=
  .sequence (table.registered.map .number)

theorem get_put (table : HandlerTable H) (vector other : UInt8) (content : Option H) :
    (table.put vector content).get other =
      if other = vector then content else table.get other := by
  simp only [get, put, Vector.getElem_set]
  by_cases h : other = vector
  · simp [h]
  · have apart : ¬ vector.toNat = other.toNat := fun e => h (UInt8.toNat_inj.mp e.symm)
    simp [h, apart]

end HandlerTable

end BringUp
