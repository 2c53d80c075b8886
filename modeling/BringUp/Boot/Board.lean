import BringUp.Boot.Context
import BringUp.Kernel

/-!
# A machine with its boot context

The tables of the boot context lie in the machine's memory. A board joins the two, so that code for
the machine and code for the tables run on one state.
-/

namespace BringUp.Boot

set_option autoImplicit false

structure Board (M : Type) where
  context : Context
  machine : M

namespace Board

variable {M : Type}

instance contextPart : HasPart Context (Board M) where
  part := context
  withPart context board := { board with context }

instance [PortSpace M] : PortSpace (Board M) :=
  .ofPart machine fun machine board => { board with machine }

instance [Cpu M] : Cpu (Board M) :=
  .ofPart machine fun machine board => { board with machine }

end Board

section Whole

variable {M H E : Type} [HasPart Context M]

/-- A system has the context of its machine, and so has a kernel. -/
instance systemContext : HasPart Context (System M) where
  part system := HasPart.part system.machine
  withPart context system := { system with machine := HasPart.withPart context system.machine }

instance kernelContext : HasPart Context (Kernel M H E) where
  part kernel := HasPart.part kernel.machine
  withPart context kernel := { kernel with machine := HasPart.withPart context kernel.machine }

end Whole

end BringUp.Boot
