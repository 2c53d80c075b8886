import BringUp.Fault

/-!
# Code in atomic steps

Kernel code is written as a tree of atomic steps, because an interrupt may arrive between any
two of them. A step may have to wait for the state to become ready, as taking a lock does. Run
on its own, code performs its steps in order; a step that has to wait then waits forever, since
nobody else is there to make it ready.
-/

namespace BringUp

set_option autoImplicit false

/-- Code over a state `σ` with a result in `α`. -/
inductive Code (σ α : Type) where
  | done (value : α)
  | stop (cause : Stop)
  /-- Once `ready` holds, `act` changes the state, and `next` goes on from what it was before
  the change. -/
  | step (ready : σ → Bool) (act : σ → σ) (next : σ → Code σ α)

namespace Code

variable {σ α β : Type}

protected def bind (code : Code σ α) (next : α → Code σ β) : Code σ β :=
  match code with
  | done value => next value
  | stop cause => stop cause
  | step ready act rest => step ready act fun s => (rest s).bind next

instance : Monad (Code σ) where
  pure := done
  bind := Code.bind

def after (action : Action σ α) (s : σ) : σ :=
  match action s with
  | .ok _ s' => s'
  | .error _ s' => s'

/-- An action as one atomic step. -/
def atomic (action : Action σ α) : Code σ α :=
  step (fun _ => true) (after action) fun s =>
    match action s with
    | .ok value _ => done value
    | .error cause _ => stop cause

def change (act : σ → σ) : Code σ Unit := step (fun _ => true) act fun _ => done ()

def observe (view : σ → α) : Code σ α := step (fun _ => true) id fun s => done (view s)

/-- Runs `code` and gives back what it held as one more step, also when it does not return. -/
def releasing (release : σ → σ) : Code σ α → Code σ α
  | done value => step (fun _ => true) release fun _ => done value
  | stop cause => step (fun _ => true) release fun _ => stop cause
  | step ready act next => step ready act fun s => (next s).releasing release

/-- Turns not returning into a result. -/
def outcome : Code σ α → Code σ (Except Stop α)
  | done value => done (.ok value)
  | stop cause => done (.error cause)
  | step ready act next => step ready act fun s => (next s).outcome

/-- Performs the steps of code that runs on its own. -/
def run : Code σ α → Action σ α
  | done value => pure value
  | stop cause => throw cause
  | step ready act next => fun s =>
      if ready s then (next s).run (act s) else .error .blocked s

theorem run_done (value : α) (s : σ) : (done value : Code σ α).run s = .ok value s := rfl

theorem run_stop (cause : Stop) (s : σ) : (stop cause : Code σ α).run s = .error cause s := rfl

theorem run_step_ready {ready : σ → Bool} {act : σ → σ} {next : σ → Code σ α} {s : σ}
    (h : ready s = true) : (step ready act next).run s = (next s).run (act s) := by
  simp only [run, h, if_true]

theorem run_step_waiting {ready : σ → Bool} {act : σ → σ} {next : σ → Code σ α} {s : σ}
    (h : ready s = false) : (step ready act next).run s = .error .blocked s := by
  simp [run, h]

theorem run_bind (code : Code σ α) (next : α → Code σ β) (s : σ) :
    (code >>= next).run s =
      match code.run s with
      | .ok value s' => (next value).run s'
      | .error cause s' => .error cause s' := by
  show (code.bind next).run s = _
  induction code generalizing s with
  | done value => rfl
  | stop cause => rfl
  | step ready act rest ih =>
    by_cases h : ready s = true
    · rw [Code.bind, run_step_ready h, run_step_ready h]
      exact ih s (act s)
    · have h' : ready s = false := by simpa using h
      rw [Code.bind, run_step_waiting h', run_step_waiting h']

theorem run_bind_ok {code : Code σ α} {next : α → Code σ β} {s s' : σ} {value : α}
    (h : code.run s = .ok value s') : (code >>= next).run s = (next value).run s' := by
  rw [run_bind, h]

/-- Code in sequence runs as its parts do. -/
theorem run_bind_eq (code : Code σ α) (next : α → Code σ β) :
    (code >>= next).run = code.run >>= fun value => (next value).run := by
  funext s
  rw [run_bind]
  cases hrun : code.run s with
  | ok value s' => rw [Action.bind_ok hrun]
  | error cause s' => rw [Action.bind_error hrun]

theorem run_atomic (action : Action σ α) (s : σ) : (atomic action).run s = action s := by
  rw [atomic, run_step_ready rfl, after]
  cases action s <;> rfl

theorem run_change (act : σ → σ) (s : σ) : (change act).run s = .ok () (act s) := rfl

theorem run_observe (view : σ → α) (s : σ) : (observe view).run s = .ok (view s) s := rfl

/-- What code held is given back once it has run without waiting. -/
theorem run_releasing {release : σ → σ} (code : Code σ α) (s : σ)
    (h : ∀ s', code.run s ≠ .error .blocked s') :
    (code.releasing release).run s = Action.releasing release code.run s := by
  induction code generalizing s with
  | done value => rfl
  | stop cause => rfl
  | step ready act next ih =>
    by_cases hr : ready s = true
    · simp only [run_step_ready hr] at h
      rw [Code.releasing, run_step_ready hr, ih s (act s) h, Action.releasing, Action.releasing,
        run_step_ready hr]
    · have hr' : ready s = false := by simpa using hr
      exact absurd (run_step_waiting hr') (h s)

theorem run_releasing_ok {release : σ → σ} {code : Code σ α} {s s' : σ} {value : α}
    (h : code.run s = .ok value s') :
    (code.releasing release).run s = .ok value (release s') := by
  rw [run_releasing code s (by rw [h]; intro t ht; cases ht), Action.releasing_ok h]

end Code

end BringUp
