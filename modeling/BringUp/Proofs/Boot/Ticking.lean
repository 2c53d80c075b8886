import BringUp.Boot.Sequence
import BringUp.Proofs.Boot.Alike
import BringUp.Proofs.Kernel.Ticking

/-!
# From the loader to the first tick

The boot sequence lets one line through, puts one handler into its slot and enables interrupts. The
line is the timer's, its vector is the one that the handler was installed on, and the pair that
was set up is the one that acknowledges it; so from there on every interrupt of the timer counts.
-/

namespace BringUp.Boot

set_option autoImplicit false

open BringUp.Action (Simulates)
open Controller (Bus)
open Kernel (SameState Armed Quietly Ticks Turn OnLine)

section Sequencing

variable {σ α β : Type}

theorem run_bind_accepted {first : ExceptT OutOfOrder (Code σ) α}
    {next : α → ExceptT OutOfOrder (Code σ) β} {s s' : σ} {value : α}
    (h : first.run.run s = .ok (.ok value) s') :
    (first >>= next).run.run s = (next value).run.run s' := by
  show (first.run >>= ExceptT.bindCont next).run s = _
  rw [Code.run_bind_ok h]
  rfl

theorem run_bind_lift {code : Code σ α} {next : α → ExceptT OutOfOrder (Code σ) β} {s s' : σ}
    {value : α} (h : code.run s = .ok value s') :
    (ExceptT.lift code >>= next).run.run s = (next value).run.run s' := by
  apply run_bind_accepted
  show (code >>= fun value => Code.done (Except.ok value : Except OutOfOrder α)).run s = _
  rw [Code.run_bind_ok h]
  rfl

theorem run_stepOf {M H E : Type} {step : Step (Kernel M H E) Unit} {k k' : Kernel M H E}
    {answer : Except OutOfOrder Unit} (h : step.run k = .ok answer k') :
    (stepOf step).run.run k = .ok answer k' := (Code.run_atomic _ _).trans h

end Sequencing

variable {M H E : Type} [PortSpace M] [Cpu M] [Wired M]

theorem alike_shows (before : Kernel (Board M) H E) : Alike (Shows before) :=
  ⟨portsAlike_shows before, cpusAlike_shows before, consolesAlike_shows before,
    contextsAlike_shows before⟩

/-- A kernel that has come as far as this on the way up: its controllers are those of `bus`, its
context is `context`, nobody is printing, and all but machine and console is as it was. -/
structure Along (bus : Bus) (context : Context) (before after : Kernel (Board M) H E) : Prop where
  bus : after.bus = bus
  context : after.machine.context = context
  console : after.console.Free
  same : SameState before after

/-- What leaves the controllers as they are may follow. -/
theorem Along.trans {bus : Bus} {context context' : Context} {a b c : Kernel (Board M) H E}
    (hab : Along bus context a b) (hbc : Along b.bus context' b c) : Along bus context' a c :=
  ⟨hbc.bus.trans hab.bus, hbc.context, hbc.console, hab.same.trans hbc.same⟩

omit [PortSpace M] [Wired M] in
/-- The flag is none of the context's business. -/
theorem context_reflagged {before after : Board M} (h : Kernel.Reflagged before after) :
    after.context = before.context := by
  induction h with
  | same => rfl
  | disabled _ ih => exact ih
  | enabled _ ih => exact ih

section Steps

variable {k : Kernel (Board M) H E} {pair : Controller.Pair}

/-- What a bench would do for a kernel, the kernel's own machine does. -/
theorem Along.of_bench {α : Type} {action : Action (System (Board Bench)) α}
    {action' : Action (Kernel (Board M) H E) α} (halike : Simulates (Shows k) action action')
    {s' : System (Board Bench)} {value : α} (hrun : action (standIn k) = .ok value s')
    (hfree : s'.console.Free) :
    ∃ k', action' k = .ok value k' ∧ Along s'.machine.machine.bus s'.machine.context k k' := by
  have hends := halike (standIn k) k (shows_standIn k)
  rw [hrun] at hends
  obtain ⟨k', hrun', hshows⟩ := hends.returns
  refine ⟨k', hrun', hshows.bus.symm, hshows.context.symm, ?_, hshows.same⟩
  rw [← hshows.console]
  exact hfree

/-- A call at the stage it requires is accepted on every machine. -/
theorem attempt_along (pair : Controller.Pair) (call : Call)
    (hstage : k.machine.context.stage = call.required) (hfree : k.console.Free) :
    ∃ k', call.attempt pair k = .ok (.ok ()) k' ∧
      Along (call.effect pair (standIn k).machine).machine.bus (call.advance k.machine.context)
        k k' := by
  obtain ⟨console, hconsole, hattempt⟩ :=
    Call.attempt_accepted pair (s := standIn k) hstage hfree
  exact Along.of_bench ((alike_shows k).attempt pair call) hattempt hconsole

theorem Alike.remapWithTimer {σ τ : Type} [HasPart Context σ] [Cpu σ] [PortSpace σ]
    [HasConsole σ] [HasPart Context τ] [Cpu τ] [PortSpace τ] [HasConsole τ] {R : σ → τ → Prop}
    (h : Alike R) (pair : Controller.Pair) :
    Simulates R (remapWithTimer pair).run (Boot.remapWithTimer pair).run :=
  simulates_bind (h.attempt pair .controller) fun _ =>
    simulates_perform (h.ports.enableLine Timer.line)

/-- The bus once the chips have been set up and the timer's line let through. -/
def timerBus (pair : Controller.Pair) (bus : Bus) : Bus :=
  (bus.remapped pair).rewritten 0 fun mask => mask &&& ~~~(1 <<< Controller.Line.bit 0)

theorem remapWithTimer_bench (pair : Controller.Pair) {s : System (Board Bench)}
    (hstage : s.machine.context.stage = Call.controller.required) (hfree : s.console.Free) :
    ∃ console, console.Free ∧ (remapWithTimer pair).run s =
      .ok (.ok ()) ⟨⟨Call.controller.advance s.machine.context,
        { s.machine.machine with bus := timerBus pair s.machine.machine.bus }⟩, console⟩ := by
  obtain ⟨console, hconsole, hremap⟩ := Call.attempt_accepted pair hstage hfree
  have henable := Controller.enableLine_eq
    (s := (⟨Call.controller.effect pair s.machine, console⟩ : System (Board Bench)))
    ⟨rfl, rfl⟩ (rfl : Controller.Line.ofByte? Timer.line = some 0)
  refine ⟨console, hconsole, ?_⟩
  have hboth : (remapWithTimer pair).run s = _ :=
    (run_bind_ok hremap).trans (run_perform henable)
  rw [hboth]
  rfl

theorem remapWithTimer_along (pair : Controller.Pair)
    (hstage : k.machine.context.stage = Call.controller.required) (hfree : k.console.Free) :
    ∃ k', (remapWithTimer pair).run k = .ok (.ok ()) k' ∧
      Along (timerBus pair k.bus) (Call.controller.advance k.machine.context) k k' := by
  obtain ⟨console, hconsole, hrun⟩ :=
    remapWithTimer_bench pair (s := standIn k) hstage hfree
  exact Along.of_bench ((alike_shows k).remapWithTimer pair) hrun hconsole

/-- The pair is set up under the dispatcher's lock, with interrupts held off. -/
theorem withPair_along (pair : Controller.Pair) (hheld : k.held = false)
    (hfree : k.console.Free)
    (hstage : k.machine.context.stage = Call.controller.required) :
    ∃ k', (Kernel.withPair (Code.atomic (remapWithTimer pair).run)).run k = .ok (.ok ()) k' ∧
      Along (timerBus pair k.bus) (Call.controller.advance k.machine.context) k k' := by
  -- Holding interrupts off does not reach the chips: they are set up from what they held before.
  have hquieted := (Kernel.undisturbed_quieted k).hold
  have hcontext := context_reflagged hquieted.machine
  have hconsole : (Kernel.quieted k).hold.console.Free := hquieted.console ▸ hfree
  obtain ⟨q, hrun, halong⟩ :=
    remapWithTimer_along pair ((congrArg Context.stage hcontext).trans hstage) hconsole
  have hbus : (Kernel.quieted k).hold.bus = k.bus := hquieted.machine.bus
  rw [hcontext, hbus] at halong
  have hafter := Kernel.undisturbed_restored k q.release
  refine ⟨_, Kernel.run_guarded hheld ((Code.run_atomic _ _).trans hrun),
    hafter.machine.bus.trans halong.bus,
    (context_reflagged hafter.machine).trans halong.context, ?_, ?_⟩
  · rw [hafter.console]
    exact halong.console
  · have hsame := hquieted.same.trans halong.same
    exact ⟨hafter.same.dispatcher.trans hsame.dispatcher, hafter.same.held.trans hheld.symm,
      hafter.same.ticks.trans hsame.ticks, hafter.same.own.trans hsame.own⟩

/-- The last step leaves interrupts enabled. -/
theorem enableInterrupts_along (hstage : k.machine.context.stage = .controllerRemapped)
    (hfree : k.console.Free) :
    ∃ k', (enableInterrupts).run k = .ok (.ok ()) k' ∧
      Along k.bus (Call.interrupts.advance k.machine.context) k k' ∧
      Cpu.interruptsEnabled k'.machine = true := by
  let k' : Kernel (Board M) H E := { k with
    machine := ⟨Call.interrupts.advance k.machine.context,
      Cpu.enableInterrupts k.machine.machine⟩ }
  have hlog : Console.log .info "Interrupts enabled" k' = _ :=
    Console.log_free hfree .info "Interrupts enabled"
  have hwork : (do
      modify Cpu.enableInterrupts
      enter .interruptsEnabled
      Console.log .info "Interrupts enabled" : Action (Kernel (Board M) H E) Unit) k = _ := hlog
  have hrun : (enableInterrupts : Step (Kernel (Board M) H E) Unit).run k = _ :=
    (run_bind_ok (run_require_accepted (s := k) hstage)).trans (run_perform hwork)
  exact ⟨_, hrun, ⟨Wired.enableInterrupts k.machine.machine, rfl,
    Console.free_logged hfree _ _, rfl, rfl, rfl, rfl⟩, Wired.enabled k.machine.machine⟩

end Steps

theorem masks_timerBus (pair : Controller.Pair) (bus : Bus) :
    (timerBus pair bus).masks = ⟨bus.master.mask &&& ~~~1, bus.slave.mask⟩ := rfl

theorem lines_timerBus (pair : Controller.Pair) (bus : Bus) :
    (timerBus pair bus).masks.lines = bus.masks.lines.erase 0 :=
  Controller.Masks.lines_clear bus.masks 0

/-- The kernel at the end of bring-up: at the last stage with interrupts on, with the timer's line
let through and every other line as it was, and with nothing counted yet. -/
structure Booted (before after : Kernel (Board M) H E) : Prop where
  stage : after.machine.context.stage = .interruptsEnabled
  interrupts : Cpu.interruptsEnabled after.machine = true
  masks : after.bus.masks = ⟨before.bus.master.mask &&& ~~~1, before.bus.slave.mask⟩
  lines : after.bus.masks.lines = before.bus.masks.lines.erase 0
  ticks : after.ticks = before.ticks
  acknowledged : after.bus.master.endOfInterrupts = before.bus.master.endOfInterrupts

section Sequence

variable {service : Service H (Kernel (Board M) H E)} {timer : H} {quiet : H → Prop}
  {k : Kernel (Board M) H E}

/-- The tables come first. They do not reach the controllers. -/
theorem tables_along (hstage : k.machine.context.stage = .reset) (hfree : k.console.Free)
    (entries : Gate.EntryPoints)
    (next : ExceptT OutOfOrder (Code (Kernel (Board M) H E)) Unit) :
    ∃ context k', context.stage = .vectorsInstalled ∧ Along k.bus context k k' ∧
      (do
        stepOf installSegments
        stepOf installPaging
        stepOf (installGates entries)
        next).run.run k = next.run.run k' := by
  obtain ⟨k1, hrun1, halong1⟩ := attempt_along .default .segments hstage hfree
  have hstage1 : k1.machine.context.stage = .segmented := by
    rw [halong1.context]
    rfl
  obtain ⟨k2, hrun2, halong2⟩ := attempt_along .default .paging hstage1 halong1.console
  have hstage2 : k2.machine.context.stage = .paged := by
    rw [halong2.context]
    rfl
  obtain ⟨k3, hrun3, halong3⟩ :=
    attempt_along .default (.gates entries) hstage2 halong2.console
  refine ⟨_, k3, rfl, (halong1.trans halong2).trans halong3, ?_⟩
  exact (run_bind_accepted (run_stepOf hrun1)).trans
    ((run_bind_accepted (run_stepOf hrun2)).trans (run_bind_accepted (run_stepOf hrun3)))

/-- The whole sequence, step by step. -/
theorem run_sequence (hstage : k.machine.context.stage = .reset) (hheld : k.held = false)
    (hfree : k.console.Free) (hpair : k.dispatcher.pair = .default)
    (hothers : ∀ vector handler, vector ≠ Gate.timerVector →
      k.dispatcher.handlers.get vector = some handler → quiet handler)
    (entries : Gate.EntryPoints) (timer : H) :
    ∃ k', (sequence entries k.dispatcher.pair timer).run.run k = .ok (.ok ()) k' ∧
      Booted k k' ∧ Armed timer quiet k' := by
  obtain ⟨context, k1, hcontext, htables, hrun1⟩ := tables_along hstage hfree entries do
    ExceptT.mk (Kernel.withPair (Code.atomic (remapWithTimer k.dispatcher.pair).run))
    ExceptT.lift (Kernel.register Gate.timerVector timer)
    stepOf enableInterrupts
  have hheld1 : k1.held = false := htables.same.held.trans hheld
  have hstage1 : k1.machine.context.stage = .vectorsInstalled :=
    (congrArg Context.stage htables.context).trans hcontext
  obtain ⟨k2, hrun2, hpaired⟩ :=
    withPair_along k.dispatcher.pair hheld1 htables.console hstage1
  have hheld2 : k2.held = false := hpaired.same.held.trans hheld1
  obtain ⟨k3, hrun3, hamended⟩ :=
    Kernel.run_register hheld2 hpaired.console Gate.timerVector timer
  have hstage3 : k3.machine.context.stage = .controllerRemapped := by
    rw [context_reflagged hamended.machine, hpaired.context]
    rfl
  obtain ⟨k4, hrun4, henabled, hinterrupts⟩ := enableInterrupts_along hstage3 hamended.console
  have hrun := hrun1.trans ((run_bind_accepted hrun2).trans
    ((run_bind_lift hrun3).trans (run_stepOf hrun4)))
  -- Each step changed one thing: the pair the bus, the registration the slot, the last the flag.
  have hbus1 : k1.bus = k.bus := htables.bus
  have hbus3 : k3.bus = k2.bus := hamended.machine.bus
  have hbus4 : k4.bus = timerBus k.dispatcher.pair k.bus := by
    rw [henabled.bus, hbus3, hpaired.bus, hbus1]
  have hticks4 : k4.ticks = k.ticks := by
    rw [henabled.same.ticks, hamended.ticks, hpaired.same.ticks, htables.same.ticks]
  have hstage4 : k4.machine.context.stage = .interruptsEnabled := by
    rw [henabled.context]
    rfl
  refine ⟨k4, hrun, ⟨hstage4, hinterrupts, ?_, ?_, hticks4, ?_⟩, ?_⟩
  · rw [hbus4, masks_timerBus]
  · rw [hbus4, lines_timerBus]
  · rw [hbus4]
    rfl
  have hdispatcher : k4.dispatcher = (k.withSlot Gate.timerVector (some timer)).dispatcher := by
    rw [henabled.same.dispatcher, hamended.dispatcher, Kernel.withSlot, hpaired.same.dispatcher,
      htables.same.dispatcher]
    rfl
  constructor
  case held => exact henabled.same.held.trans (hamended.held.trans hheld2)
  case console => exact henabled.console
  case pair =>
    rw [hdispatcher]
    exact hpair
  case timer => rw [hdispatcher, Kernel.get_withSlot, if_pos rfl]
  case others =>
    intro vector handler hvector hslot
    rw [hdispatcher, Kernel.get_withSlot, if_neg hvector] at hslot
    exact hothers vector handler hvector hslot

/-- From any kernel on a board out of reset, with its locks free, its lines meant for their usual
vectors and only quiet handlers beside the timer's, whatever its tables hold and its chips are at:
the boot sequence succeeds and lets the timer's line through, with every other line as it was. From
there on, whatever turns are taken, every delivery resumes, the tick counter has grown by the
deliveries of the timer's vector, no line has been held back or let through, and the master has
counted an acknowledgement for each delivery on a line. -/
theorem sequence_starts_ticking (hticks : Ticks service timer)
    (hquiet : Quietly service timer quiet) (hstage : k.machine.context.stage = .reset)
    (hheld : k.held = false) (hfree : k.console.Free) (hpair : k.dispatcher.pair = .default)
    (hothers : ∀ vector handler, vector ≠ Gate.timerVector →
      k.dispatcher.handlers.get vector = some handler → quiet handler)
    (entries : Gate.EntryPoints) :
    ∃ k1, (sequence entries k.dispatcher.pair timer).run.run k = .ok (.ok ()) k1 ∧
      Booted k k1 ∧
      ∀ turns : List (Turn H), (∀ turn ∈ turns, turn.Allowed quiet) →
        ∃ k2, (Kernel.takeTurns service turns).run k1 =
            .ok ((turns.flatMap Turn.vectors).map fun _ => .resume) k2 ∧
          k2.ticks = k1.ticks + UInt64.ofNat ((turns.flatMap Turn.vectors).count 32) ∧
          k2.bus.masks = k1.bus.masks ∧
          (k1.bus.master.endOfInterrupts.toNat +
              (turns.flatMap Turn.vectors).countP (OnLine ·) < 0x100000000 →
            k2.bus.master.endOfInterrupts.toNat =
              k1.bus.master.endOfInterrupts.toNat +
                (turns.flatMap Turn.vectors).countP (OnLine ·)) := by
  obtain ⟨k1, hrun, hbooted, harmed⟩ :=
    run_sequence hstage hheld hfree hpair hothers entries timer
  refine ⟨k1, hrun, hbooted, fun turns hallowed => ?_⟩
  obtain ⟨k2, hturns, -, hcounted⟩ := harmed.takeTurns hticks hquiet turns hallowed
  refine ⟨k2, hturns, hcounted.ticks, hcounted.masks, fun hfits => ?_⟩
  rw [hcounted.acknowledged, Controller.toNat_add_ofNat hfits]

end Sequence

section Yielding

/-- The timer's handler, and one that takes itself off vector 33 and spoils its frame. -/
def yielding : Service Bool (Kernel (Board Processor) Bool Unit) := fun ticking frame =>
  if ticking then do
    Code.atomic Timer.tick
    return frame
  else do
    Kernel.unregister 33
    return { frame with vector := 200 }

theorem ticks_yielding : Ticks yielding true := fun _ => rfl

theorem quietly_yielding : Quietly yielding true (· = false) := by
  rintro handler frame k rfl harmed
  obtain ⟨k', hrun, hamended⟩ := Kernel.run_unregister harmed.held harmed.console 33
  refine ⟨{ frame with vector := 200 }, k', Code.run_bind_ok hrun, ?_, hamended.machine.bus,
    hamended.ticks⟩
  refine harmed.amended (by decide) (fun other hother => ?_) hamended
  cases hother

/-- A processor whose loader left paging off and every line but the master's third held back. -/
def loaded : Kernel (Board Processor) Bool Unit :=
  .start ⟨.fresh (.numbered 256),
    { Processor.reset with
      cr0 := 0x11
      bus := ⟨[], ⟨0xFB, 8, 4, 1, 7, .idle, true⟩, ⟨0xFF, 0x70, 2, 1, 0, .idle, true⟩⟩ }⟩
    .default ()

/-- Two ticks among interrupts with and without a handler, on the lines and off them. -/
def interleaved : List (Turn Bool) :=
  [.register 33 false, .dispatch (.ofVector 32), .deliver (.ofVector 33),
    .dispatchShared (.ofVector 33), .dispatch (.ofVector 47), .register 48 false,
    .deliver (.ofVector 48), .unregister 33, .deliver (.ofVector 32)]

theorem loaded_starts_ticking :
    ∃ k1 k2, (sequence .bench .default true).run.run loaded = .ok (.ok ()) k1 ∧
      (Kernel.takeTurns yielding interleaved).run k1 = .ok (.replicate 6 .resume) k2 ∧
      k2.bus.masks = ⟨0xFA, 0xFF⟩ ∧ k2.ticks = 2 ∧ k2.bus.master.endOfInterrupts.toNat = 12 := by
  have hempty (vector : UInt8) (handler : Bool) (_ : vector ≠ Gate.timerVector)
      (h : loaded.dispatcher.handlers.get vector = some handler) : handler = false := by
    have hnone : loaded.dispatcher.handlers.get vector = none := HandlerTable.get_empty vector
    rw [hnone] at h
    cases h
  obtain ⟨k1, hrun, hbooted, hturns⟩ := sequence_starts_ticking ticks_yielding
    quietly_yielding rfl rfl Console.free_ready rfl hempty .bench
  obtain ⟨k2, hran, hticks, hmasks, hcount⟩ := hturns interleaved (by decide)
  have hbefore : k1.bus.master.endOfInterrupts = 7 := hbooted.acknowledged
  refine ⟨k1, k2, hrun, hran, hmasks.trans hbooted.masks, ?_, ?_⟩
  · rw [hticks, hbooted.ticks]
    rfl
  · rw [hcount (by rw [hbefore]; decide), hbefore]
    decide

end Yielding

end BringUp.Boot
