import BringUp.Proofs.Boot.Order
import BringUp.Proofs.Gate.Table
import BringUp.Proofs.Paging.Window

/-!
# What each stage stands for

A stage is a promise about tables, registers and chips. No later call takes back what an earlier
one has set up, and none sets up anything ahead of its stage, so the promise can be read off the
stage and the stage off the machine.
-/

namespace BringUp.Boot

set_option autoImplicit false

/-- A ring 0 segment over the whole address space, byte by byte. -/
def flatSegment (access : UInt8) : Segment.Descriptor := ⟨0xFFFF, 0, 0, access, 0xCF, 0⟩

/-- The segment registers refer to the flat table of the context. -/
structure SegmentsLive (context : Context) (cpu : TrackedCpu) : Prop where
  pointer : cpu.gdtr = some (Segment.Table.pointer context.segmentsAddress)
  limit : (Segment.Table.pointer context.segmentsAddress).limit = 23
  code : cpu.codeSelector = 0x08
  data : cpu.dataSelector = 0x10
  table : context.segments = ⟨#v[.null, flatSegment 0x9A, flatSegment 0x92]⟩

/-- The processor walks the context's structures, and they map the first 4 MiB onto themselves
and nothing else. -/
structure PagingLive (context : Context) (cpu : TrackedCpu) : Prop where
  directory : cpu.cr3 = context.place.address
  inside : ∀ address : UInt32, address.toNat < 4 * 1024 * 1024 →
    context.paging.translate context.place address = .ok address
  outside : ∀ address : UInt32, 4 * 1024 * 1024 ≤ address.toNat →
    context.paging.translate context.place address =
      .error (.directoryEntryAbsent (Paging.directoryIndex address))

/-- The entry points that a call installs. -/
def Call.entries? : Call → Option Gate.EntryPoints
  | gates entries => some entries
  | segments | paging | controller | interrupts => none

/-- The processor refers to the context's gates, and they lead to the entry points of the one
accepted call that brought some. -/
structure GatesLive (done : List Call) (context : Context) (cpu : TrackedCpu) : Prop where
  pointer : cpu.idtr = some (Gate.Table.pointer context.gatesAddress)
  limit : (Gate.Table.pointer context.gatesAddress).limit = 2047
  gates : ∃ entries, done.filterMap Call.entries? = [entries] ∧ ∀ vector : UInt8,
    (∀ h : vector.toNat < 48,
      Gate.Table.LeadsTo (context.gates.gate vector) entries[vector.toNat]) ∧
    (¬ vector.toNat < 48 → context.gates.gate vector = .missing)

/-- Both chips deliver on the pair's vectors and have kept their masks. -/
structure ControllersLive (pair : Controller.Pair) (before after : Controller.Bus) : Prop where
  master : before.master.SetUpFrom pair.master 4 after.master
  slave : before.slave.SetUpFrom pair.slave 2 after.slave

/-- What the stage says about a machine whose bus was `before` out of reset. -/
structure Sound (pair : Controller.Pair) (place : Paging.PageFrame) (before : Controller.Bus)
    (done : List Call) (context : Context) (bench : Bench) : Prop where
  place : context.place = place
  segmented : Stage.segmented.rank ≤ context.stage.rank ↔ bench.cpu.gdtr.isSome = true
  segments : Stage.segmented.rank ≤ context.stage.rank → SegmentsLive context bench.cpu
  paged : Stage.paged.rank ≤ context.stage.rank ↔ bench.cpu.paging = true
  paging : Stage.paged.rank ≤ context.stage.rank → PagingLive context bench.cpu
  installed : Stage.vectorsInstalled.rank ≤ context.stage.rank ↔ bench.cpu.idtr.isSome = true
  gates : Stage.vectorsInstalled.rank ≤ context.stage.rank → GatesLive done context bench.cpu
  untouched : context.stage.rank < Stage.controllerRemapped.rank → bench.bus = before
  controllers : Stage.controllerRemapped.rank ≤ context.stage.rank →
    ControllersLive pair before bench.bus
  interrupts : context.stage = .interruptsEnabled ↔ bench.cpu.interrupts = true

section Made

variable (pair : Controller.Pair) (place : Paging.PageFrame) (bus : Controller.Bus)
  (entries : Gate.EntryPoints) (stage : Stage)

theorem place_made : (made pair place bus entries stage).context.place = place := by
  cases stage <;> rfl

theorem segments_made : (made pair place bus entries stage).context.segments =
    if Stage.segmented.rank ≤ stage.rank then .flat else .empty := by
  cases stage <;> rfl

theorem structures_made : (made pair place bus entries stage).context.paging =
    if Stage.paged.rank ≤ stage.rank then .window place else .empty := by
  cases stage <;> rfl

theorem gates_made : (made pair place bus entries stage).context.gates =
    if Stage.vectorsInstalled.rank ≤ stage.rank then .ofEntryPoints entries else .empty := by
  cases stage <;> rfl

theorem gdtr_made : (made pair place bus entries stage).machine.cpu.gdtr =
    if Stage.segmented.rank ≤ stage.rank then some (Segment.Table.pointer (place.address + 8192))
    else none := by
  cases stage <;> rfl

theorem code_made : (made pair place bus entries stage).machine.cpu.codeSelector =
    if Stage.segmented.rank ≤ stage.rank then 0x08 else 0 := by
  cases stage <;> rfl

theorem data_made : (made pair place bus entries stage).machine.cpu.dataSelector =
    if Stage.segmented.rank ≤ stage.rank then 0x10 else 0 := by
  cases stage <;> rfl

theorem cr3_made : (made pair place bus entries stage).machine.cpu.cr3 =
    if Stage.paged.rank ≤ stage.rank then place.address else 0 := by
  cases stage <;> rfl

theorem paging_made : (made pair place bus entries stage).machine.cpu.paging =
    decide (Stage.paged.rank ≤ stage.rank) := by
  cases stage <;> rfl

theorem idtr_made : (made pair place bus entries stage).machine.cpu.idtr =
    if Stage.vectorsInstalled.rank ≤ stage.rank then
      some (Gate.Table.pointer (place.address + 8216))
    else none := by
  cases stage <;> rfl

theorem interrupts_made : (made pair place bus entries stage).machine.cpu.interrupts =
    decide (stage = .interruptsEnabled) := by
  cases stage <;> rfl

theorem bus_made : (made pair place bus entries stage).machine.bus =
    if Stage.controllerRemapped.rank ≤ stage.rank then bus.remapped pair else bus := by
  cases stage <;> rfl

variable {stage}

theorem segmentsLive_made (h : Stage.segmented.rank ≤ stage.rank) :
    SegmentsLive (made pair place bus entries stage).context (made pair place bus entries stage).machine.cpu := by
  constructor
  case pointer => rw [gdtr_made, if_pos h, Context.segmentsAddress, place_made]
  case limit => rfl
  case code => rw [code_made, if_pos h]
  case data => rw [data_made, if_pos h]
  case table =>
    rw [segments_made, if_pos h]
    rfl

theorem pagingLive_made (h : Stage.paged.rank ≤ stage.rank) :
    PagingLive (made pair place bus entries stage).context (made pair place bus entries stage).machine.cpu := by
  constructor
  case directory => rw [cr3_made, if_pos h, place_made]
  case inside =>
    intro address hinside
    rw [structures_made, if_pos h, place_made]
    exact Paging.Identity.translate_inside place hinside
  case outside =>
    intro address houtside
    rw [structures_made, if_pos h, place_made]
    exact Paging.Identity.translate_outside place place houtside

/-- Before the gates no call of the order brings entry points, and after them none. -/
theorem entries_order (h : Stage.vectorsInstalled.rank ≤ stage.rank) :
    ((order entries).take stage.rank).filterMap Call.entries? = [entries] := by
  cases stage
  case reset | segmented | paged => exact absurd h (by decide)
  case vectorsInstalled | controllerRemapped | interruptsEnabled => rfl

theorem gatesLive_made (h : Stage.vectorsInstalled.rank ≤ stage.rank) :
    GatesLive ((order entries).take stage.rank) (made pair place bus entries stage).context
      (made pair place bus entries stage).machine.cpu := by
  constructor
  case pointer => rw [idtr_made, if_pos h, Context.gatesAddress, place_made]
  case limit => exact Gate.Table.limit_pointer _
  case gates =>
    refine ⟨entries, entries_order entries h, ?_⟩
    intro vector
    rw [gates_made, if_pos h]
    exact ⟨Gate.Table.gate_ofEntryPoints entries, Gate.Table.gate_ofEntryPoints_missing entries⟩

theorem controllersLive_remapped :
    ControllersLive pair bus (bus.remapped pair) :=
  ⟨Controller.Chip.setUpFrom_setUp _ _ _, Controller.Chip.setUpFrom_setUp _ _ _⟩

end Made

theorem Reached.sound {pair : Controller.Pair} {place : Paging.PageFrame}
    {bus : Controller.Bus} {done : List Call} {board : Board Bench}
    (h : Reached pair place bus done board) :
    Sound pair place bus done board.context board.machine := by
  obtain ⟨entries, hdone, hboard⟩ := h
  generalize hstage : board.context.stage = stage at hdone hboard
  subst hboard hdone
  constructor
  case place => exact place_made pair place bus entries stage
  case segmented => rw [hstage, gdtr_made, Option.isSome_ite]
  case segments =>
    rw [hstage]
    exact segmentsLive_made pair place bus entries
  case paged => rw [hstage, paging_made, decide_eq_true_iff]
  case paging =>
    rw [hstage]
    exact pagingLive_made pair place bus entries
  case installed => rw [hstage, idtr_made, Option.isSome_ite]
  case gates =>
    rw [hstage]
    exact gatesLive_made pair place bus entries
  case untouched =>
    intro hbefore
    rw [hstage] at hbefore
    rw [bus_made, if_neg (Nat.not_le.mpr hbefore)]
  case controllers =>
    intro hafter
    rw [hstage] at hafter
    rw [bus_made, if_pos hafter]
    exact controllersLive_remapped pair bus
  case interrupts => rw [hstage, interrupts_made, decide_eq_true_iff]

/-- After any calls in any order on a machine out of reset, with its chips in any state, the
stage tells what is set up. -/
theorem calls_sound (pair : Controller.Pair) (start : System (Board Bench))
    {place : Paging.PageFrame} (hfresh : start.machine.context = .fresh place)
    (hreset : start.machine.machine.cpu = .reset) (hfree : start.console.Free)
    (calls : List Call) :
    ∃ answers s, attemptAll pair calls start = .ok answers s ∧
      answers.length = calls.length ∧
      Sound pair place start.machine.machine.bus (accepted calls answers) s.machine.context
        s.machine.machine := by
  obtain ⟨answers, console, -, hrun, hlength, haccepted⟩ := attemptAll_free pair calls hfree
  have hreached := (reached_start pair hfresh hreset).taken calls
  rw [List.nil_append] at hreached
  refine ⟨answers, _, hrun, hlength, ?_⟩
  rw [haccepted]
  exact hreached.sound

/-- The tables start in the last page of the address space, and the master is found in the middle
of a set-up. -/
theorem wrapped_calls_sound :
    ∃ answers s,
      attemptAll .default [.segments, .paging, .segments, .gates .bench, .gates .bench, .controller]
        (⟨⟨.fresh (.numbered 0xFFFFF),
          ⟨⟨[], ⟨0xFB, 8, 0, 0, 7, .cascade, true⟩, .reset⟩, .reset⟩⟩, quiet⟩ :
            System (Board Bench)) = .ok answers s ∧
      PagingLive s.machine.context s.machine.machine.cpu ∧
      s.machine.machine.bus.master.mask = 0xFB := by
  obtain ⟨answers, s, hrun, -, hsound⟩ := calls_sound .default
    ⟨⟨.fresh (.numbered 0xFFFFF), ⟨⟨[], ⟨0xFB, 8, 0, 0, 7, .cascade, true⟩, .reset⟩, .reset⟩⟩, quiet⟩
    rfl rfl ⟨rfl, rfl⟩
    [.segments, .paging, .segments, .gates .bench, .gates .bench, .controller]
  have hreached : s.machine.context.stage = Stage.controllerRemapped :=
    congrArg (·.context.stage) (board_attemptAll ⟨rfl, rfl⟩ hrun)
  refine ⟨answers, s, hrun, ?_, ?_⟩
  · apply hsound.paging
    rw [hreached]
    decide
  · have hcontrollers :=
      hsound.controllers (Nat.le_of_eq (congrArg Stage.rank hreached).symm)
    exact hcontrollers.master.mask

end BringUp.Boot
