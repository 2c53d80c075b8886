import BringUp.Proofs.Boot.Order
import BringUp.Proofs.Machine.Alike

/-!
# Bring-up on machines that answer alike

The steps of bring-up reach their state through the ports, the privileged operations, the console
and the boot context, and through nothing else. Two machines on which these are alike take the same
steps, refuse the same ones and stay alike, whatever is called in whatever order.
-/

namespace BringUp

set_option autoImplicit false

open BringUp.Action (Simulates)

namespace Boot

section Steps

variable {σ τ α β : Type} {R : σ → τ → Prop}

theorem simulates_perform {work : Action σ α} {work' : Action τ α}
    (h : Simulates R work work') : Simulates R (perform work).run (perform work').run := by
  show Simulates R (Except.ok <$> work) (Except.ok <$> work')
  rw [map_eq_pure_bind, map_eq_pure_bind]
  exact h.bind fun _ => .pure _

/-- A refusal on one machine is the same refusal on the other, with nothing done after it. -/
theorem simulates_bind {first : Step σ α} {first' : Step τ α} {next : α → Step σ β}
    {next' : α → Step τ β} (hfirst : Simulates R first.run first'.run)
    (hnext : ∀ value, Simulates R (next value).run (next' value).run) :
    Simulates R (first >>= next).run (first' >>= next').run := by
  refine Simulates.bind hfirst fun result => ?_
  cases result with
  | ok value => exact hnext value
  | error refusal => exact .pure _

variable [HasPart Context σ] [HasPart Context τ]

theorem simulates_require (h : PartsAlike Context R) (expected : Stage) :
    Simulates R (require expected : Step σ Unit).run (require expected : Step τ Unit).run := by
  refine simulates_bind (simulates_perform h.read) fun context => ?_
  split
  · exact .pure _
  · exact .pure _

theorem simulates_between (h : PartsAlike Context R) (expected reached : Stage)
    {work : Action σ Unit} {work' : Action τ Unit} (hwork : Simulates R work work') :
    Simulates R (between expected reached work).run (between expected reached work').run :=
  simulates_bind (simulates_require h expected) fun _ =>
    simulates_perform (hwork.bind fun _ => h.inPlace _)

variable [Cpu σ] [PortSpace σ] [HasConsole σ] [Cpu τ] [PortSpace τ] [HasConsole τ]

/-- All that bring-up uses is alike. -/
structure Alike (R : σ → τ → Prop) : Prop where
  ports : PortsAlike R
  cpus : CpusAlike R
  consoles : ConsolesAlike R
  contexts : PartsAlike Context R

namespace Alike

variable (h : Alike R)

include h

theorem install_segments (address : UInt32) :
    Simulates R (Segment.Table.install address) (Segment.Table.install address) := by
  have hload : Simulates R (Segment.Table.load address) (Segment.Table.load address) :=
    (Simulates.modify (h.cpus.loadGdt _)).bind fun _ => .modify (h.cpus.reloadSegments _ _)
  exact (h.contexts.through.inPlace _).bind fun _ => hload.bind fun _ => h.consoles.log _ _

theorem install_paging (place : Paging.PageFrame) :
    Simulates R (Paging.Identity.install place) (Paging.Identity.install place) := by
  have hactivate : Simulates R (Paging.Identity.activate place) (Paging.Identity.activate place) :=
    (Simulates.modify (h.cpus.writeCr3 _)).bind fun _ => .modify h.cpus.enablePaging
  exact (h.contexts.through.inPlace _).bind fun _ => hactivate.bind fun _ =>
    h.contexts.through.read.bind fun _ => h.consoles.log _ _

theorem install_gates (entries : Gate.EntryPoints) (address : UInt32) :
    Simulates R (Gate.Table.install entries address) (Gate.Table.install entries address) := by
  have hload : Simulates R (Gate.Table.load address) (Gate.Table.load address) :=
    .modify (h.cpus.loadIdt _)
  exact (h.contexts.through.inPlace _).bind fun _ => hload.bind fun _ =>
    h.contexts.through.read.bind fun _ => h.consoles.log _ _

theorem attempt (pair : Controller.Pair) (call : Call) :
    Simulates R (call.attempt pair) (call.attempt pair) := by
  cases call with
  | segments =>
    exact simulates_between h.contexts _ _
      (h.contexts.read.bind fun _ => h.install_segments _)
  | paging =>
    exact simulates_between h.contexts _ _ (h.contexts.read.bind fun _ => h.install_paging _)
  | gates entries =>
    exact simulates_between h.contexts _ _
      (h.contexts.read.bind fun _ => h.install_gates entries _)
  | controller => exact simulates_between h.contexts _ _ (h.ports.remap h.consoles pair)
  | interrupts =>
    refine simulates_bind (simulates_require h.contexts _) fun _ => simulates_perform ?_
    exact (Simulates.modify h.cpus.enableInterrupts).bind fun _ =>
      (h.contexts.inPlace _).bind fun _ => h.consoles.log _ _

theorem attemptAll (pair : Controller.Pair) (calls : List Call) :
    Simulates R (attemptAll pair calls) (Boot.attemptAll pair calls) := by
  induction calls with
  | nil => exact .pure _
  | cons call rest ih =>
    exact (h.attempt pair call).bind fun _ => ih.bind fun _ => .pure _

end Alike

end Steps

end Boot

end BringUp
