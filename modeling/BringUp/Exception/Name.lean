/-!
# Exception vectors

The first 32 vectors belong to the processor. Each has a name, and for some of them the
processor pushes an error code.
-/

namespace BringUp.Exception

set_option autoImplicit false

/-- The names of the vectors, from vector 0 on. -/
def names : List String :=
  ["Divide Error",
   "Debug",
   "Non-Maskable Interrupt",
   "Breakpoint",
   "Overflow",
   "Bound Range Exceeded",
   "Invalid Opcode",
   "Device Not Available",
   "Double Fault",
   "Coprocessor Segment Overrun",
   "Invalid TSS",
   "Segment Not Present",
   "Stack-Segment Fault",
   "General Protection Fault",
   "Page Fault",
   "Reserved",
   "x87 Floating-Point Exception",
   "Alignment Check",
   "Machine Check",
   "SIMD Floating-Point Exception",
   "Virtualization Exception",
   "Control Protection Exception",
   "Reserved",
   "Reserved",
   "Reserved",
   "Reserved",
   "Reserved",
   "Reserved",
   "Hypervisor Injection Exception",
   "VMM Communication Exception",
   "Security Exception",
   "Reserved"]

/-- The name of an exception vector; other vectors have none. -/
def name? (vector : UInt8) : Option String := names[vector.toNat]?

/-- Whether the processor pushes an error code for the vector. -/
def pushesErrorCode (vector : UInt8) : Bool :=
  vector ∈ [8, 10, 11, 12, 13, 14, 17, 21, 29, 30]

theorem name?_isSome (vector : UInt8) : (name? vector).isSome = decide (vector.toNat < 32) := by
  by_cases h : vector.toNat < 32
  · rw [name?, List.getElem?_eq_getElem h]
    simp [h]
  · rw [name?, List.getElem?_eq_none (Nat.le_of_not_lt h)]
    simp [h]

end BringUp.Exception
