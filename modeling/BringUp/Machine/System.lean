import BringUp.Console
import BringUp.Cpu

/-!
# A machine with its console

A system joins a machine with the console that prints for it. Code for the machine's ports, its
processor or the console runs on the system unchanged.
-/

namespace BringUp

set_option autoImplicit false

structure System (M : Type) where
  machine : M
  console : Console

namespace System

variable {M : Type}

instance : HasConsole (System M) where
  part := console
  withPart console system := { system with console }

instance [PortSpace M] : PortSpace (System M) :=
  .ofPart machine fun machine system => { system with machine }

instance [Cpu M] : Cpu (System M) :=
  .ofPart machine fun machine system => { system with machine }

end System

end BringUp
