import BringUp.Controller.Pair
import BringUp.Kernel.HandlerTable
import BringUp.Machine.System

/-!
# The kernel's interrupt state

Beside the machine and its console the kernel owns a dispatcher, which finds the handler of an
interrupt and acknowledges its line. One lock guards the dispatcher.
-/

namespace BringUp

set_option autoImplicit false

/-- What decides where an interrupt goes. -/
structure Dispatcher (H : Type) where
  handlers : HandlerTable H
  pair : Controller.Pair
  unhandled : UInt64

namespace Dispatcher

variable {H : Type}

def ofPair (pair : Controller.Pair) : Dispatcher H := ⟨.empty, pair, 0⟩

def outline (dispatcher : Dispatcher H) (ports : Text.Outline) : Text.Outline :=
  .record "Dispatcher" [
    .part "handlers" dispatcher.handlers.outline,
    .part "pics" (dispatcher.pair.outline ports),
    .part "unhandled" (.number dispatcher.unhandled.toNat)]

end Dispatcher

/-- A machine, its console and the interrupt state. `H` names handlers, and `E` is memory that
belongs to them. -/
structure Kernel (M H E : Type) extends System M where
  dispatcher : Dispatcher H
  held : Bool
  ticks : UInt64
  own : E

namespace Kernel

variable {M H E : Type}

/-- A kernel without handlers on a machine, with all locks free. -/
def start (machine : M) (pair : Controller.Pair) (own : E) : Kernel M H E where
  machine
  console := .ready
  dispatcher := .ofPair pair
  held := false
  ticks := 0
  own

instance : HasConsole (Kernel M H E) where
  part kernel := kernel.console
  withPart console kernel := { kernel with console }

instance [PortSpace M] : PortSpace (Kernel M H E) :=
  .ofPart (fun kernel => kernel.machine) fun machine kernel => { kernel with machine }

instance [Cpu M] : Cpu (Kernel M H E) :=
  .ofPart (fun kernel => kernel.machine) fun machine kernel => { kernel with machine }

end Kernel

end BringUp
