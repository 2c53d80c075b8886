import BringUp.Console.Uart
import BringUp.Controller.Pair
import BringUp.Machine.System
import BringUp.Proofs.Code.Simulation

/-!
# Machines that answer alike

A relation between two machines holds on to their ports, their processors or their consoles if no
operation on these breaks it and all of them give the same answers. Code that drives a controller
pair and logs about it then does on both machines the same.
-/

namespace BringUp

set_option autoImplicit false

open BringUp.Action (Simulates)

variable {σ τ α : Type}

/-- A line that is found has its bit on one of the two data ports. -/
theorem Controller.Pair.port_of_locate {line : UInt8} {found : UInt16 × UInt8}
    (h : locate line = .ok found) : found.1 < Uart.dataPort := by
  unfold locate at h
  split at h
  · split at h
    · cases h
      exact (by decide : masterData < Uart.dataPort)
    · cases h
      exact (by decide : slaveData < Uart.dataPort)
  · cases h

/-- Related machines answer alike on every port below those of the serial line. -/
structure PortsAlike [PortSpace σ] [PortSpace τ] (R : σ → τ → Prop) : Prop where
  value : ∀ port s t, port < Uart.dataPort → R s t →
    (PortSpace.input port s).1 = (PortSpace.input port t).1
  input : ∀ port s t, port < Uart.dataPort → R s t →
    R (PortSpace.input port s).2 (PortSpace.input port t).2
  output : ∀ port value s t, port < Uart.dataPort → R s t →
    R (PortSpace.output port value s) (PortSpace.output port value t)

/-- Related machines stay related by the privileged operations of bring-up. -/
structure CpusAlike [Cpu σ] [Cpu τ] (R : σ → τ → Prop) : Prop where
  loadGdt : ∀ pointer s t, R s t → R (Cpu.loadGdt pointer s) (Cpu.loadGdt pointer t)
  reloadSegments : ∀ code data s t, R s t →
    R (Cpu.reloadSegments code data s) (Cpu.reloadSegments code data t)
  loadIdt : ∀ pointer s t, R s t → R (Cpu.loadIdt pointer s) (Cpu.loadIdt pointer t)
  writeCr3 : ∀ directory s t, R s t → R (Cpu.writeCr3 directory s) (Cpu.writeCr3 directory t)
  enablePaging : ∀ s t, R s t → R (Cpu.enablePaging s) (Cpu.enablePaging t)
  enableInterrupts : ∀ s t, R s t → R (Cpu.enableInterrupts s) (Cpu.enableInterrupts t)

/-- Related machines have the same part of a kind, and stay related whatever takes its place. -/
structure PartsAlike (ρ : Type) [HasPart ρ σ] [HasPart ρ τ] (R : σ → τ → Prop) : Prop where
  part : ∀ s t, R s t → (HasPart.part s : ρ) = HasPart.part t
  withPart : ∀ (p : ρ) s t, R s t → R (HasPart.withPart p s) (HasPart.withPart p t)

namespace PartsAlike

variable {ρ π : Type} [HasPart ρ σ] [HasPart ρ τ] {R : σ → τ → Prop}

theorem read (h : PartsAlike ρ R) :
    Simulates R (Action.read : Action σ ρ) (Action.read : Action τ ρ) := by
  intro s t hst
  show Action.Agree R (.ok (HasPart.part s) s) (.ok (HasPart.part t) t)
  rw [h.part s t hst]
  exact .ok hst

theorem inPlace (h : PartsAlike ρ R) (body : Action ρ α) :
    Simulates R (Action.inPlace body) (Action.inPlace body) := by
  intro s t hst
  unfold Action.inPlace Action.within
  rw [h.part s t hst]
  cases body (HasPart.part t) with
  | ok value p => exact .ok (h.withPart p s t hst)
  | error cause p => exact .error (h.withPart p s t hst)

/-- What lies in equal parts is equal. -/
theorem through [HasPart π ρ] (h : PartsAlike ρ R) :
    @PartsAlike σ τ π (.through ρ) (.through ρ) R :=
  letI : HasPart π σ := .through ρ
  letI : HasPart π τ := .through ρ
  { part := fun s t hst => congrArg (HasPart.part (τ := π)) (h.part s t hst)
    withPart := by
      intro p s t hst
      show R (HasPart.withPart (HasPart.withPart p (HasPart.part s : ρ)) s)
        (HasPart.withPart (HasPart.withPart p (HasPart.part t : ρ)) t)
      rw [h.part s t hst]
      exact h.withPart _ s t hst }

end PartsAlike

/-- Related machines print on equal consoles. -/
abbrev ConsolesAlike [HasConsole σ] [HasConsole τ] (R : σ → τ → Prop) : Prop :=
  PartsAlike Console R

theorem ConsolesAlike.log [HasConsole σ] [HasConsole τ] {R : σ → τ → Prop} (h : ConsolesAlike R)
    (level : Level) (shown : String) :
    Simulates R (Console.log level shown) (Console.log level shown) :=
  PartsAlike.inPlace h _

namespace PortsAlike

variable [PortSpace σ] [PortSpace τ] {R : σ → τ → Prop} (h : PortsAlike R)

include h

theorem read {port : UInt16} (hport : port < Uart.dataPort) :
    Simulates R (Port.read port) (Port.read port) := by
  intro s t hst
  show Action.Agree R (.ok (PortSpace.input port s).1 _) (.ok (PortSpace.input port t).1 _)
  rw [h.value port s t hport hst]
  exact .ok (h.input port s t hport hst)

theorem write {port : UInt16} (hport : port < Uart.dataPort) (value : UInt8) :
    Simulates R (Port.write port value) (Port.write port value) :=
  fun s t hst => .ok (h.output port value s t hport hst)

theorem readMasks :
    Simulates R Controller.Pair.readMasks Controller.Pair.readMasks :=
  (h.read (by decide)).bind fun _ => (h.read (by decide)).bind fun _ => .pure _

theorem writeMasks (masks : Controller.Masks) :
    Simulates R (Controller.Pair.writeMasks masks) (Controller.Pair.writeMasks masks) :=
  (h.write (by decide) _).bind fun _ => h.write (by decide) _

theorem setUpWord {port : UInt16} (hport : port < Uart.dataPort) (value : UInt8) :
    Simulates R (Controller.Pair.setUpWord port value) (Controller.Pair.setUpWord port value) :=
  (h.write hport value).bind fun _ => h.write (by decide) 0

theorem setUp (pair : Controller.Pair) : Simulates R pair.setUp pair.setUp := by
  unfold Controller.Pair.setUp
  refine (h.setUpWord (by decide) _).bind fun _ => ?_
  refine (h.setUpWord (by decide) _).bind fun _ => ?_
  refine (h.setUpWord (by decide) _).bind fun _ => ?_
  refine (h.setUpWord (by decide) _).bind fun _ => ?_
  refine (h.setUpWord (by decide) _).bind fun _ => ?_
  refine (h.setUpWord (by decide) _).bind fun _ => ?_
  refine (h.setUpWord (by decide) _).bind fun _ => ?_
  exact h.setUpWord (by decide) _

theorem remap [HasConsole σ] [HasConsole τ] (hc : ConsolesAlike R) (pair : Controller.Pair) :
    Simulates R pair.remap pair.remap :=
  h.readMasks.bind fun masks => (h.setUp pair).bind fun _ =>
    (h.writeMasks masks).bind fun _ => hc.log _ _

theorem enableLine (line : UInt8) :
    Simulates R (Controller.Pair.enableLine line) (Controller.Pair.enableLine line) := by
  unfold Controller.Pair.enableLine
  cases hlocate : Controller.Pair.locate line with
  | error cause => exact fun s t hst => .error hst
  | ok found =>
    have hport := Controller.Pair.port_of_locate hlocate
    have hmask (mask : UInt8) := h.write hport (mask &&& ~~~((1 : UInt8) <<< found.2))
    exact (h.read hport).bind hmask

end PortsAlike

end BringUp
