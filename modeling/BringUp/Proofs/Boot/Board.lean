import BringUp.Boot.Board
import BringUp.Proofs.Controller.Remap
import BringUp.Proofs.Machine.Alike
import BringUp.Proofs.Machine.Wired

/-!
# What a board shows of its machine

A board has the ports and the processor of its machine, and its context lies beside them. So a
kernel on a board does with its context, its controllers and its console what a bench would that
has the same context, the same chips and the same console.
-/

namespace BringUp.Boot

set_option autoImplicit false

open Controller (BusPart)

variable {M H E : Type}

instance [PortSpace M] [BusPart M] : BusPart (Board M) where
  bus board := BusPart.bus board.machine
  withBus bus board := { board with machine := BusPart.withBus bus board.machine }
  bus_withBus b board := BusPart.bus_withBus b board.machine
  withBus_withBus b c board := by rw [BusPart.withBus_withBus b c board.machine]
  input_eq port board := by
    show ((PortSpace.input port board.machine).1, _) = _
    rw [BusPart.input_eq]
  output_eq port value board := by
    show { board with machine := PortSpace.output port value board.machine } = _
    rw [BusPart.output_eq]

variable [PortSpace M] [Cpu M] [Wired M]

instance : Wired (Board M) where
  bus board := Wired.bus board.machine
  value port board := Wired.value port board.machine
  input port board := Wired.input port board.machine
  output port value board := Wired.output port value board.machine
  loadGdt pointer board := Wired.loadGdt pointer board.machine
  reloadSegments code data board := Wired.reloadSegments code data board.machine
  loadIdt pointer board := Wired.loadIdt pointer board.machine
  writeCr3 directory board := Wired.writeCr3 directory board.machine
  enablePaging board := Wired.enablePaging board.machine
  enableInterrupts board := Wired.enableInterrupts board.machine
  disableInterrupts board := Wired.disableInterrupts board.machine
  enabled board := Wired.enabled board.machine

/-- A kernel whose context, controllers and console are those of a bench, and which is otherwise as
it was `before`. -/
structure Shows (before : Kernel (Board M) H E) (s : System (Board Bench))
    (k : Kernel (Board M) H E) : Prop where
  bus : s.machine.machine.bus = Wired.bus k.machine
  context : s.machine.context = k.machine.context
  console : s.console = k.console
  same : Kernel.SameState before k

/-- The bench that stands for a kernel. -/
def standIn (k : Kernel (Board M) H E) : System (Board Bench) :=
  ⟨⟨k.machine.context, ⟨Wired.bus k.machine, .reset⟩⟩, k.console⟩

theorem shows_standIn (k : Kernel (Board M) H E) : Shows k (standIn k) k :=
  ⟨rfl, rfl, rfl, .refl k⟩

theorem Shows.machine {before k : Kernel (Board M) H E} {s s' : System (Board Bench)}
    (h : Shows before s k) {machine : M} (hbus : Wired.bus machine = Wired.bus k.machine.machine)
    (hbench : s'.machine.machine.bus = s.machine.machine.bus)
    (hcontext : s'.machine.context = s.machine.context) (hconsole : s'.console = s.console) :
    Shows before s' { k with machine := { k.machine with machine } } :=
  ⟨hbench.trans (h.bus.trans hbus.symm), hcontext.trans h.context, hconsole.trans h.console,
    h.same.dispatcher, h.same.held, h.same.ticks, h.same.own⟩

variable (before : Kernel (Board M) H E)

theorem portsAlike_shows : PortsAlike (Shows before) where
  value port s k hport h := by
    show s.machine.machine.bus.answer port = (PortSpace.input port k.machine).1
    rw [Wired.value port k.machine hport, h.bus]
  input port s k hport h := by
    refine ⟨?_, h.context, h.console, h.same.dispatcher, h.same.held, h.same.ticks, h.same.own⟩
    show (s.machine.machine.bus.read port).2 = Wired.bus (PortSpace.input port k.machine).2
    rw [Wired.input port k.machine hport, h.bus]
  output port value s k hport h := by
    refine ⟨?_, h.context, h.console, h.same.dispatcher, h.same.held, h.same.ticks, h.same.own⟩
    show s.machine.machine.bus.write port value =
      Wired.bus (PortSpace.output port value k.machine)
    rw [Wired.output port value k.machine hport, h.bus]

theorem cpusAlike_shows : CpusAlike (Shows before) where
  loadGdt _ _ _ h := h.machine (Wired.loadGdt _ _) rfl rfl rfl
  reloadSegments _ _ _ _ h := h.machine (Wired.reloadSegments _ _ _) rfl rfl rfl
  loadIdt _ _ _ h := h.machine (Wired.loadIdt _ _) rfl rfl rfl
  writeCr3 _ _ _ h := h.machine (Wired.writeCr3 _ _) rfl rfl rfl
  enablePaging _ _ h := h.machine (Wired.enablePaging _) rfl rfl rfl
  enableInterrupts _ _ h := h.machine (Wired.enableInterrupts _) rfl rfl rfl

theorem consolesAlike_shows : ConsolesAlike (Shows before) where
  part _ _ h := h.console
  withPart _ _ _ h :=
    ⟨h.bus, h.context, rfl, h.same.dispatcher, h.same.held, h.same.ticks, h.same.own⟩

theorem contextsAlike_shows : PartsAlike Context (Shows before) where
  part _ _ h := h.context
  withPart _ _ _ h :=
    ⟨h.bus, rfl, h.console, h.same.dispatcher, h.same.held, h.same.ticks, h.same.own⟩

end BringUp.Boot
