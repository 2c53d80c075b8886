import BringUp.Proofs.Boot.Calls

/-!
# The order of the steps

Whatever calls are made, those that are accepted are the first few of one order, and the stage
counts them. Context, processor and controllers are what these calls make of a machine out of
reset. A call that is refused has changed nothing, so it leaves no trace in any of them.
-/

namespace BringUp.Boot

set_option autoImplicit false

/-- Calls one after the other, with the answers to them. -/
def attemptAll {σ : Type} [HasPart Context σ] [Cpu σ] [PortSpace σ] [HasConsole σ]
    (pair : Controller.Pair) : List Call → Action σ (List (Except OutOfOrder Unit))
  | [] => return []
  | call :: rest => do
      let answer ← call.attempt pair
      let answers ← attemptAll pair rest
      return answer :: answers

/-- The calls whose answer was that they were done. -/
def accepted : List Call → List (Except OutOfOrder Unit) → List Call
  | call :: calls, .ok _ :: answers => call :: accepted calls answers
  | _ :: calls, .error _ :: answers => accepted calls answers
  | _, _ => []

/-- The calls that are accepted out of a list if bring-up has got to a stage. -/
def taken : Stage → List Call → List Call
  | _, [] => []
  | stage, call :: rest =>
      if stage = call.required then call :: taken call.reached rest else taken stage rest

/-- The one order in which calls are accepted. -/
def order (entries : Gate.EntryPoints) : List Call :=
  [.segments, .paging, .gates entries, .controller, .interrupts]

/-- The operations of the processor in the course of the whole order. -/
def operations : List CpuOperation :=
  [.loadGdt, .reloadSegments, .writeCr3, .enablePaging, .loadIdt, .enableInterrupts]

/-- How many of the operations belong to the calls before a stage. -/
def Stage.operationCount : Stage → Nat
  | reset => 0
  | segmented => 2
  | paged => 4
  | vectorsInstalled => 5
  | controllerRemapped => 5
  | interruptsEnabled => 6

/-- What accepted calls make of a board. -/
def performed (pair : Controller.Pair) (calls : List Call) (board : Board Bench) : Board Bench :=
  calls.foldl (fun board call => call.effect pair board) board

theorem performed_append (pair : Controller.Pair) (first second : List Call)
    (board : Board Bench) :
    performed pair (first ++ second) board = performed pair second (performed pair first board) :=
  List.foldl_append

/-- What the order makes of a machine out of reset, with `bus` for its bus, up to a stage. -/
def made (pair : Controller.Pair) (place : Paging.PageFrame) (bus : Controller.Bus)
    (entries : Gate.EntryPoints) (stage : Stage) : Board Bench :=
  performed pair ((order entries).take stage.rank) ⟨.fresh place, ⟨bus, .reset⟩⟩

/-- The board once the calls `done` have been accepted. -/
def Reached (pair : Controller.Pair) (place : Paging.PageFrame) (bus : Controller.Bus)
    (done : List Call) (board : Board Bench) : Prop :=
  ∃ entries, done = (order entries).take board.context.stage.rank ∧
    board = made pair place bus entries board.context.stage

section Runs

variable {pair : Controller.Pair} {place : Paging.PageFrame} {bus : Controller.Bus}
  {done : List Call} {board : Board Bench}

/-- Out of reset nothing has been accepted yet. -/
theorem reached_start (pair : Controller.Pair) (hfresh : board.context = .fresh place)
    (hreset : board.machine.cpu = .reset) : Reached pair place board.machine.bus [] board := by
  obtain ⟨context, bus, cpu⟩ := board
  obtain rfl : context = .fresh place := hfresh
  obtain rfl : cpu = .reset := hreset
  exact ⟨.bench, rfl, rfl⟩

/-- The order goes on with whatever call is accepted next. -/
theorem take_order_succ (call : Call) (entries : Gate.EntryPoints) :
    ∃ entries', (order entries).take call.required.rank ++ [call] =
      (order entries').take call.reached.rank := by
  cases call with
  | segments => exact ⟨entries, rfl⟩
  | paging => exact ⟨entries, rfl⟩
  | gates entries' => exact ⟨entries', rfl⟩
  | controller => exact ⟨entries, rfl⟩
  | interrupts => exact ⟨entries, rfl⟩

theorem Reached.accept (h : Reached pair place bus done board) {call : Call}
    (hstage : board.context.stage = call.required) :
    Reached pair place bus (done ++ [call]) (call.effect pair board) := by
  obtain ⟨entries, hdone, hboard⟩ := h
  obtain ⟨entries', hnext⟩ := take_order_succ call entries
  refine ⟨entries', ?_, ?_⟩
  · rw [hdone, hstage, hnext, Call.stage_effect]
  · rw [made, Call.stage_effect, ← hnext, performed_append, ← hstage, ← made, ← hboard]
    rfl

/-- The calls that are accepted go on with the order. -/
theorem Reached.taken (h : Reached pair place bus done board) (calls : List Call) :
    Reached pair place bus (done ++ taken board.context.stage calls)
      (performed pair (taken board.context.stage calls) board) := by
  -- What has been accepted so far grows along the way, so it is not fixed in the induction.
  induction calls generalizing done board with
  | nil => exact (List.append_nil done).symm ▸ h
  | cons call rest ih =>
    by_cases hstage : board.context.stage = call.required
    · have hnext := ih (h.accept hstage)
      rw [Call.stage_effect, List.append_assoc] at hnext
      rw [Boot.taken, if_pos hstage]
      exact hnext
    · rw [Boot.taken, if_neg hstage]
      exact ih h

/-- The processor's record tells the stage, and the stage the record. -/
theorem Reached.operations (h : Reached pair place bus done board) :
    board.machine.cpu.operations = operations.take board.context.stage.operationCount := by
  obtain ⟨entries, -, hboard⟩ := h
  have hall : ∀ stage : Stage, (made pair place bus entries stage).machine.cpu.operations =
      Boot.operations.take stage.operationCount := by
    intro stage
    cases stage <;> rfl
  rw [← hall, ← hboard]

theorem Reached.nodup (h : Reached pair place bus done board) :
    (done.map Call.required).Nodup := by
  obtain ⟨entries, rfl, -⟩ := h
  have hstages : (order entries).map Call.required =
      [.reset, .segmented, .paged, .vectorsInstalled, .controllerRemapped] := rfl
  rw [List.map_take, hstages]
  exact List.Nodup.sublist (List.take_sublist _ _) (by decide)

end Runs

section Attempts

variable {pair : Controller.Pair}

/-- Whatever is called, the stage does not go back. -/
theorem rank_le_performed (pair : Controller.Pair) (calls : List Call) (board : Board Bench) :
    board.context.stage.rank ≤
      (performed pair (taken board.context.stage calls) board).context.stage.rank := by
  induction calls generalizing board with
  | nil => exact Nat.le_refl _
  | cons call rest ih =>
    by_cases hstage : board.context.stage = call.required
    · have hnext := ih (call.effect pair board)
      rw [Call.stage_effect, Call.rank_reached] at hnext
      rw [taken, if_pos hstage, hstage]
      exact Nat.le_of_succ_le hnext
    · rw [taken, if_neg hstage]
      exact ih board

/-- Calls one after the other, from the first one and the others. -/
theorem attemptAll_cons {σ : Type} [HasPart Context σ] [Cpu σ] [PortSpace σ] [HasConsole σ]
    {call : Call} {rest : List Call} {s s1 s2 : σ}
    {answer : Except OutOfOrder Unit} {answers : List (Except OutOfOrder Unit)}
    (hcall : call.attempt pair s = .ok answer s1)
    (hrest : attemptAll pair rest s1 = .ok answers s2) :
    attemptAll pair (call :: rest) s = .ok (answer :: answers) s2 := by
  rw [attemptAll, Action.bind_ok hcall, Action.bind_ok hrest]
  rfl

/-- From any stage, every call is answered, and nothing but the accepted ones has changed the
board. -/
theorem attemptAll_free (pair : Controller.Pair) (calls : List Call) {s : System (Board Bench)}
    (hfree : s.console.Free) :
    ∃ answers console, console.Free ∧
      attemptAll pair calls s =
        .ok answers ⟨performed pair (taken s.machine.context.stage calls) s.machine, console⟩ ∧
      answers.length = calls.length ∧
      accepted calls answers = taken s.machine.context.stage calls := by
  induction calls generalizing s with
  | nil => exact ⟨[], s.console, hfree, rfl, rfl, rfl⟩
  | cons call rest ih =>
    by_cases hstage : s.machine.context.stage = call.required
    · obtain ⟨console, hconsole, hattempt⟩ := Call.attempt_accepted pair hstage hfree
      obtain ⟨answers, console', hfree', hrest, hlength, haccepted⟩ :=
        ih (s := ⟨call.effect pair s.machine, console⟩) hconsole
      rw [Call.stage_effect] at hrest haccepted
      rw [taken, if_pos hstage]
      exact ⟨.ok () :: answers, console', hfree', attemptAll_cons hattempt hrest,
        congrArg (· + 1) hlength, congrArg (call :: ·) haccepted⟩
    · obtain ⟨answers, console', hfree', hrest, hlength, haccepted⟩ := ih hfree
      rw [taken, if_neg hstage]
      exact ⟨.error ⟨call.required, stageOf s⟩ :: answers, console', hfree',
        attemptAll_cons (Call.attempt_refused hstage) hrest, congrArg (· + 1) hlength, haccepted⟩

/-- The board after calls is told by the calls. -/
theorem board_attemptAll {calls : List Call} {s s' : System (Board Bench)}
    {answers : List (Except OutOfOrder Unit)} (hfree : s.console.Free)
    (hrun : attemptAll pair calls s = .ok answers s') :
    s'.machine = performed pair (taken s.machine.context.stage calls) s.machine := by
  obtain ⟨answers', console, -, hrun', -, -⟩ := attemptAll_free pair calls hfree
  rw [hrun] at hrun'
  cases hrun'
  rfl

end Attempts

/-- What holds once the calls `done` have been accepted and any others refused. -/
structure InOrder (pair : Controller.Pair) (done : List Call) (s : System (Board Bench)) :
    Prop where
  /-- The accepted calls are the first of the order, as many as the stage says. -/
  first : ∃ entries, done = (order entries).take s.machine.context.stage.rank
  /-- No kind of call was accepted twice. -/
  once : (done.map Call.required).Nodup
  operations : s.machine.machine.cpu.operations =
    operations.take s.machine.context.stage.operationCount
  accepts : ∀ call : Call, s.machine.context.stage = call.required →
    ∃ s', call.attempt pair s = .ok (.ok ()) s' ∧ s'.machine.context.stage = call.reached
  /-- A refused call has run in place and leaves the whole state as it was: tables, stage,
  registers and their record, chips, port accesses and what was sent on the line. -/
  refuses : ∀ call : Call, s.machine.context.stage ≠ call.required →
    call.attempt pair s = .ok (.error ⟨call.required, s.machine.context.stage⟩) s
  /-- Whatever is called next, the stage does not go back. -/
  forward : ∀ calls, ∃ answers s', attemptAll pair calls s = .ok answers s' ∧
    s.machine.context.stage.rank ≤ s'.machine.context.stage.rank

theorem Reached.inOrder {pair : Controller.Pair} {place : Paging.PageFrame}
    {bus : Controller.Bus} {done : List Call} {s : System (Board Bench)}
    (h : Reached pair place bus done s.machine) (hfree : s.console.Free) :
    InOrder pair done s := by
  constructor
  case first =>
    obtain ⟨entries, hdone, -⟩ := h
    exact ⟨entries, hdone⟩
  case once => exact h.nodup
  case operations => exact h.operations
  case accepts =>
    intro call hstage
    obtain ⟨console, -, hattempt⟩ := Call.attempt_accepted pair hstage hfree
    exact ⟨_, hattempt, Call.stage_effect pair call s.machine⟩
  case refuses =>
    intro call hstage
    exact Call.attempt_refused hstage
  case forward =>
    intro calls
    obtain ⟨answers, console, -, hrun, -, -⟩ := attemptAll_free pair calls hfree
    exact ⟨answers, _, hrun, rank_le_performed pair calls s.machine⟩

/-- A machine out of reset takes any calls in any order: each is answered, and whatever was
accepted is in order. -/
theorem calls_inOrder (pair : Controller.Pair) (start : System (Board Bench))
    {place : Paging.PageFrame} (hfresh : start.machine.context = .fresh place)
    (hreset : start.machine.machine.cpu = .reset) (hfree : start.console.Free)
    (calls : List Call) :
    ∃ answers s, attemptAll pair calls start = .ok answers s ∧
      answers.length = calls.length ∧ InOrder pair (accepted calls answers) s := by
  obtain ⟨answers, console, hfree', hrun, hlength, haccepted⟩ :=
    attemptAll_free pair calls hfree
  have hreached := (reached_start pair hfresh hreset).taken calls
  rw [← haccepted, List.nil_append] at hreached
  refine ⟨answers, _, hrun, hlength, ?_⟩
  rw [← haccepted]
  exact hreached.inOrder hfree'

/-- A console that prints nothing. -/
def quiet : Console := { Console.ready with maxLevel := none }

/-- Interrupts are asked for too early, segments twice, and the controllers before the gates. -/
theorem impatient_calls_inOrder :
    ∃ answers s,
      attemptAll .default [.interrupts, .segments, .segments, .paging, .controller]
        (⟨⟨.fresh (.numbered 256), .reset⟩, quiet⟩ : System (Board Bench)) = .ok answers s ∧
      InOrder .default
        (accepted [.interrupts, .segments, .segments, .paging, .controller] answers) s ∧
      s.machine.context.stage = .paged := by
  obtain ⟨answers, s, hrun, -, hinOrder⟩ := calls_inOrder .default
    ⟨⟨.fresh (.numbered 256), .reset⟩, quiet⟩ rfl rfl ⟨rfl, rfl⟩
    [.interrupts, .segments, .segments, .paging, .controller]
  have hboard := board_attemptAll ⟨rfl, rfl⟩ hrun
  exact ⟨answers, s, hrun, hinOrder, congrArg (·.context.stage) hboard⟩

end BringUp.Boot
