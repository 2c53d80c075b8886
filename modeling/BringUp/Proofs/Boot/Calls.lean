import BringUp.Proofs.Boot.Board
import BringUp.Proofs.Gate.Rebuild
import BringUp.Proofs.Paging.Filling

/-!
# Calls in any order

A caller may try the five steps in any order and as often as it likes. A call is accepted at one
stage only. At every other it is refused, and it has touched nothing by then: tables, stage,
processor, controllers and console are as they were.
-/

namespace BringUp.Boot

set_option autoImplicit false

inductive Call where
  | segments
  | paging
  | gates (entries : Gate.EntryPoints)
  | controller
  | interrupts

namespace Call

/-- The stage at which the call is accepted. -/
def required : Call → Stage
  | segments => .reset
  | paging => .segmented
  | gates _ => .paged
  | controller => .vectorsInstalled
  | interrupts => .controllerRemapped

/-- The stage to which the call leads. -/
def reached : Call → Stage
  | segments => .segmented
  | paging => .paged
  | gates _ => .vectorsInstalled
  | controller => .controllerRemapped
  | interrupts => .interruptsEnabled

theorem rank_reached (call : Call) : call.reached.rank = call.required.rank + 1 := by
  cases call <;> rfl

section Attempts

variable {σ : Type} [HasPart Context σ] [Cpu σ] [PortSpace σ] [HasConsole σ]

def step (pair : Controller.Pair) : Call → Step σ Unit
  | segments => installSegments
  | paging => installPaging
  | gates entries => installGates entries
  | controller => remapController pair
  | interrupts => enableInterrupts

/-- The call in place, and what the caller is told. -/
def attempt (pair : Controller.Pair) (call : Call) : Action σ (Except OutOfOrder Unit) :=
  (call.step pair).run

end Attempts

end Call

section Steps

variable {σ α β : Type}

theorem run_bind_ok {first : Step σ α} {next : α → Step σ β} {s s' : σ} {value : α}
    (h : first.run s = .ok (.ok value) s') : (first >>= next).run s = (next value).run s' := by
  show (first.run >>= ExceptT.bindCont next) s = _
  rw [Action.bind_ok h]
  rfl

theorem run_bind_refused {first : Step σ α} {next : α → Step σ β} {s s' : σ}
    {refusal : OutOfOrder} (h : first.run s = .ok (.error refusal) s') :
    (first >>= next).run s = .ok (.error refusal) s' := by
  show (first.run >>= ExceptT.bindCont next) s = _
  rw [Action.bind_ok h]
  rfl

theorem run_perform {work : Action σ α} {s s' : σ} {value : α} (h : work s = .ok value s') :
    (perform work).run s = .ok (.ok value) s' := by
  show (Except.ok <$> work : Action σ _) s = _
  rw [map_eq_pure_bind, Action.bind_ok h]
  rfl

variable [HasPart Context σ]

/-- How far bring-up has got in a state. -/
def stageOf (s : σ) : Stage := (HasPart.part s : Context).stage

theorem run_require_accepted {expected : Stage} {s : σ} (h : stageOf s = expected) :
    (require expected : Step σ Unit).run s = .ok (.ok ()) s := by
  show (if stageOf s = expected then _ else _ : Step σ Unit).run s = _
  rw [if_pos h]
  rfl

theorem run_require_refused {expected : Stage} {s : σ} (h : stageOf s ≠ expected) :
    (require expected : Step σ Unit).run s = .ok (.error ⟨expected, stageOf s⟩) s := by
  show (if stageOf s = expected then _ else _ : Step σ Unit).run s = _
  rw [if_neg h]
  rfl

/-- A refusal puts nothing back: had there been work before the look at the stage, it would show. -/
theorem run_refused_behind {expected : Stage} {work : Action σ Unit} {s s' : σ}
    (h : work s = .ok () s') (hstage : stageOf s' ≠ expected) :
    (do
      perform work
      require expected : Step σ Unit).run s = .ok (.error ⟨expected, stageOf s'⟩) s' :=
  (run_bind_ok (run_perform h)).trans (run_require_refused hstage)

/-- Work at the stage that it requires is done, and the stage moves on. -/
theorem run_between {expected reached : Stage} {work : Action σ Unit} {s s' : σ}
    (hstage : stageOf s = expected) (h : work s = .ok () s') :
    (between expected reached work).run s =
      .ok (.ok ()) (HasPart.withPart { (HasPart.part s' : Context) with stage := reached } s') := by
  have hwork : (work >>= fun _ => enter reached) s =
      .ok () (HasPart.withPart { (HasPart.part s' : Context) with stage := reached } s') := by
    rw [Action.bind_ok h]
    rfl
  rw [between, run_bind_ok (run_require_accepted hstage), run_perform hwork]

/-- The same for work that first looks at the context. -/
theorem run_between_read (next : Context → Action σ Unit) {expected reached : Stage} {s s' : σ}
    (hstage : stageOf s = expected) (h : next (HasPart.part s) s = .ok () s') :
    (between expected reached (Action.read >>= next)).run s =
      .ok (.ok ()) (HasPart.withPart { (HasPart.part s' : Context) with stage := reached } s') :=
  run_between hstage h

end Steps

namespace Call

/-- Every call begins with a look at the stage. -/
theorem step_eq {σ : Type} [HasPart Context σ] [Cpu σ] [PortSpace σ] [HasConsole σ]
    (pair : Controller.Pair) (call : Call) :
    ∃ work : Action σ Unit,
      call.step pair = (do
        require call.required
        perform work) := by
  cases call with
  | segments | paging | gates entries | controller | interrupts => exact ⟨_, rfl⟩

/-- A call at any stage but its own is refused, and the state is what it was: nothing has been
touched. -/
theorem attempt_refused {σ : Type} [HasPart Context σ] [Cpu σ] [PortSpace σ] [HasConsole σ]
    {pair : Controller.Pair} {call : Call} {s : σ} (h : stageOf s ≠ call.required) :
    call.attempt pair s = .ok (.error ⟨call.required, stageOf s⟩) s := by
  obtain ⟨work, hstep⟩ := step_eq (σ := σ) pair call
  rw [attempt, hstep]
  exact run_bind_refused (run_require_refused h)

/-- The context after an accepted call. -/
def advance (call : Call) (context : Context) : Context :=
  match call with
  | segments => { context with segments := .flat, stage := .segmented }
  | paging => { context with paging := .window context.place, stage := .paged }
  | gates entries =>
      { context with gates := .ofEntryPoints entries, stage := .vectorsInstalled }
  | controller => { context with stage := .controllerRemapped }
  | interrupts => { context with stage := .interruptsEnabled }

/-- What an accepted call does to processor and controllers. -/
def drive (pair : Controller.Pair) (call : Call) (context : Context) (bench : Bench) : Bench :=
  match call with
  | segments =>
      Cpu.reloadSegments Segment.codeSelector Segment.dataSelector
        (Cpu.loadGdt (Segment.Table.pointer context.segmentsAddress) bench)
  | paging => Cpu.enablePaging (Cpu.writeCr3 context.place.address bench)
  | gates _ => Cpu.loadIdt (Gate.Table.pointer context.gatesAddress) bench
  | controller => { bench with bus := bench.bus.remapped pair }
  | interrupts => Cpu.enableInterrupts bench

/-- The board after an accepted call. -/
def effect (pair : Controller.Pair) (call : Call) (board : Board Bench) : Board Bench :=
  ⟨call.advance board.context, call.drive pair board.context board.machine⟩

theorem stage_effect (pair : Controller.Pair) (call : Call) (board : Board Bench) :
    (call.effect pair board).context.stage = call.reached := by
  cases call <;> rfl

end Call

section Installing

variable {s : System (Board Bench)}

/-- While nobody is printing, a record changes nothing but the console. -/
theorem log_board (board : Board Bench) {c : Console} (hfree : c.Free) (level : Level)
    (shown : String) :
    ∃ console, console.Free ∧
      Console.log level shown (⟨board, c⟩ : System (Board Bench)) = .ok () ⟨board, console⟩ :=
  ⟨c.logged level shown, Console.free_logged hfree level shown,
    Console.log_free (s := (⟨board, c⟩ : System (Board Bench))) hfree level shown⟩

theorem install_segments_free (hfree : s.console.Free) (address : UInt32) :
    ∃ console, console.Free ∧ Segment.Table.install address s =
      .ok () ⟨⟨{ s.machine.context with segments := .flat },
        Cpu.reloadSegments Segment.codeSelector Segment.dataSelector
          (Cpu.loadGdt (Segment.Table.pointer address) s.machine.machine)⟩, console⟩ := by
  have hfill : (Action.inPlace Segment.Table.fillFlat : Action (System (Board Bench)) Unit) s =
      .ok () ⟨⟨{ s.machine.context with segments := .flat }, s.machine.machine⟩, s.console⟩ :=
    Action.inPlace_ok (Segment.Table.fillFlat_eq s.machine.context.segments)
  have hload (board : Board Bench) : Segment.Table.load address
        (⟨board, s.console⟩ : System (Board Bench)) =
      .ok () ⟨Cpu.reloadSegments Segment.codeSelector Segment.dataSelector
        (Cpu.loadGdt (Segment.Table.pointer address) board), s.console⟩ := rfl
  rw [Segment.Table.install, Action.bind_ok hfill, Action.bind_ok (hload _)]
  exact log_board _ hfree .debug _

theorem install_paging_free (hfree : s.console.Free) (place : Paging.PageFrame) :
    ∃ console, console.Free ∧ Paging.Identity.install place s =
      .ok () ⟨⟨{ s.machine.context with paging := .window place },
        Cpu.enablePaging (Cpu.writeCr3 place.address s.machine.machine)⟩, console⟩ := by
  have hfill : (Action.inPlace (Paging.Identity.fill place) : Action (System (Board Bench)) Unit)
        s =
      .ok () ⟨⟨{ s.machine.context with paging := .window place }, s.machine.machine⟩,
        s.console⟩ :=
    Action.inPlace_ok (Paging.Identity.fill_eq place s.machine.context.paging)
  have hactivate (board : Board Bench) : Paging.Identity.activate place
        (⟨board, s.console⟩ : System (Board Bench)) =
      .ok () ⟨Cpu.enablePaging (Cpu.writeCr3 place.address board), s.console⟩ := rfl
  rw [Paging.Identity.install, Action.bind_ok hfill, Action.bind_ok (hactivate _)]
  exact log_board _ hfree .debug _

theorem install_gates_free (hfree : s.console.Free) (entries : Gate.EntryPoints)
    (address : UInt32) :
    ∃ console, console.Free ∧ Gate.Table.install entries address s =
      .ok () ⟨⟨{ s.machine.context with gates := .ofEntryPoints entries },
        Cpu.loadIdt (Gate.Table.pointer address) s.machine.machine⟩, console⟩ := by
  have hbuild : (Action.inPlace (Gate.Table.build entries) : Action (System (Board Bench)) Unit) s =
      .ok () ⟨⟨{ s.machine.context with gates := .ofEntryPoints entries }, s.machine.machine⟩,
        s.console⟩ :=
    Action.inPlace_ok (Gate.Table.build_eq entries s.machine.context.gates)
  have hload (board : Board Bench) : Gate.Table.load address
        (⟨board, s.console⟩ : System (Board Bench)) =
      .ok () ⟨Cpu.loadIdt (Gate.Table.pointer address) board, s.console⟩ := rfl
  rw [Gate.Table.install, Action.bind_ok hbuild, Action.bind_ok (hload _)]
  exact log_board _ hfree .debug _

theorem remap_free (hfree : s.console.Free) (pair : Controller.Pair) :
    ∃ console, console.Free ∧ pair.remap s =
      .ok () ⟨⟨s.machine.context,
        { s.machine.machine with bus := s.machine.machine.bus.remapped pair }⟩, console⟩ :=
  ⟨_, Console.free_logged hfree _ _, Controller.remap_eq pair (fun _ => rfl) hfree⟩

end Installing

namespace Call

/-- A call at its own stage is accepted, and does to the board exactly what it should. -/
theorem attempt_accepted (pair : Controller.Pair) {call : Call} {s : System (Board Bench)}
    (h : s.machine.context.stage = call.required) (hfree : s.console.Free) :
    ∃ console, console.Free ∧
      call.attempt pair s = .ok (.ok ()) ⟨call.effect pair s.machine, console⟩ := by
  cases call with
  | segments =>
    have hstage : stageOf s = .reset := h
    obtain ⟨console, hconsole, hinstall⟩ :=
      install_segments_free hfree s.machine.context.segmentsAddress
    refine ⟨console, hconsole, ?_⟩
    show installSegments.run s = _
    rw [installSegments, run_between_read
      (fun context => Segment.Table.install context.segmentsAddress) hstage hinstall]
    rfl
  | paging =>
    have hstage : stageOf s = .segmented := h
    obtain ⟨console, hconsole, hinstall⟩ := install_paging_free hfree s.machine.context.place
    refine ⟨console, hconsole, ?_⟩
    show installPaging.run s = _
    rw [installPaging, run_between_read
      (fun context => Paging.Identity.install context.place) hstage hinstall]
    rfl
  | gates entries =>
    have hstage : stageOf s = .paged := h
    obtain ⟨console, hconsole, hinstall⟩ :=
      install_gates_free hfree entries s.machine.context.gatesAddress
    refine ⟨console, hconsole, ?_⟩
    show (installGates entries).run s = _
    rw [installGates, run_between_read
      (fun context => Gate.Table.install entries context.gatesAddress) hstage hinstall]
    rfl
  | controller =>
    have hstage : stageOf s = .vectorsInstalled := h
    obtain ⟨console, hconsole, hremap⟩ := remap_free hfree pair
    exact ⟨console, hconsole, run_between hstage hremap⟩
  | interrupts =>
    have hstage : stageOf s = .controllerRemapped := h
    obtain ⟨console, hconsole, hlog⟩ := log_board (interrupts.effect pair s.machine) hfree .info
      "Interrupts enabled"
    have hwork : (do
        modify Cpu.enableInterrupts
        enter .interruptsEnabled
        Console.log .info "Interrupts enabled" : Action (System (Board Bench)) Unit) s =
          .ok () ⟨interrupts.effect pair s.machine, console⟩ := hlog
    refine ⟨console, hconsole, ?_⟩
    show enableInterrupts.run s = _
    rw [enableInterrupts, run_bind_ok (run_require_accepted hstage), run_perform hwork]

end Call

end BringUp.Boot
