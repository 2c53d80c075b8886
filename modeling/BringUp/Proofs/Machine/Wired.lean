import BringUp.Kernel
import BringUp.Machine.Bench
import BringUp.Proofs.Machine.Processor

/-!
# Machines with the two chips on their ports

What the controllers see of a machine is the same on the bench and on the processor: the accesses
to their ports, and no privileged operation.
-/

namespace BringUp

set_option autoImplicit false

open Controller (Bus)

/-- Machines whose ports below those of the serial line are a bus that nothing else drives. -/
class Wired (M : Type) [PortSpace M] [Cpu M] where
  bus : M → Bus
  value : ∀ port machine, port < Uart.dataPort →
    (PortSpace.input port machine).1 = (bus machine).answer port
  input : ∀ port machine, port < Uart.dataPort →
    bus (PortSpace.input port machine).2 = ((bus machine).read port).2
  output : ∀ port value machine, port < Uart.dataPort →
    bus (PortSpace.output port value machine) = (bus machine).write port value
  loadGdt : ∀ pointer machine, bus (Cpu.loadGdt pointer machine) = bus machine
  reloadSegments : ∀ code data machine, bus (Cpu.reloadSegments code data machine) = bus machine
  loadIdt : ∀ pointer machine, bus (Cpu.loadIdt pointer machine) = bus machine
  writeCr3 : ∀ directory machine, bus (Cpu.writeCr3 directory machine) = bus machine
  enablePaging : ∀ machine, bus (Cpu.enablePaging machine) = bus machine
  enableInterrupts : ∀ machine, bus (Cpu.enableInterrupts machine) = bus machine
  disableInterrupts : ∀ machine, bus (Cpu.disableInterrupts machine) = bus machine
  /-- Interrupts that have been enabled are enabled. -/
  enabled : ∀ machine : M, Cpu.interruptsEnabled (Cpu.enableInterrupts machine) = true

instance : Wired Bench where
  bus := Bench.bus
  value _ _ _ := rfl
  input _ _ _ := rfl
  output _ _ _ _ := rfl
  loadGdt _ _ := rfl
  reloadSegments _ _ _ := rfl
  loadIdt _ _ := rfl
  writeCr3 _ _ := rfl
  enablePaging _ := rfl
  enableInterrupts _ := rfl
  disableInterrupts _ := rfl
  enabled _ := rfl

instance : Wired Processor where
  bus := Processor.bus
  value port p h := by rw [Processor.input_eq h]
  input port p h := by
    rw [Processor.input_eq h]
    rfl
  output port value p h := by
    rw [Processor.output_eq h]
    rfl
  loadGdt _ _ := rfl
  reloadSegments code data p := by
    show (Processor.reloadSegments code data p).bus = p.bus
    rw [Processor.reloadSegments_eq]
  loadIdt _ _ := rfl
  writeCr3 _ _ := rfl
  enablePaging _ := rfl
  enableInterrupts _ := rfl
  disableInterrupts _ := rfl
  enabled _ := rfl

namespace Kernel

variable {M H E : Type}

/-- Two kernels that differ at most in machine and console. -/
structure SameState (before after : Kernel M H E) : Prop where
  dispatcher : after.dispatcher = before.dispatcher
  held : after.held = before.held
  ticks : after.ticks = before.ticks
  own : after.own = before.own

theorem SameState.refl (k : Kernel M H E) : SameState k k := ⟨rfl, rfl, rfl, rfl⟩

theorem SameState.trans {a b c : Kernel M H E} (hab : SameState a b) (hbc : SameState b c) :
    SameState a c :=
  ⟨hbc.dispatcher.trans hab.dispatcher, hbc.held.trans hab.held, hbc.ticks.trans hab.ticks,
    hbc.own.trans hab.own⟩

end Kernel

end BringUp
