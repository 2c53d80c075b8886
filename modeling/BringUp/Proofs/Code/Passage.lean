import BringUp.Code

/-!
# The states that code passes through

Code that runs on its own goes from one state to the next until it returns, stops, or has to wait
for good. What holds throughout holds of every state on that way, the first and the last among them.
-/

namespace BringUp.Code

set_option autoImplicit false

variable {σ α β : Type} {holds : σ → Prop}

/-- `holds` of every state that code passes through on its own. -/
def Throughout (holds : σ → Prop) : Code σ α → σ → Prop
  | done _, s | stop _, s => holds s
  | step ready act next, s =>
      holds s ∧ (ready s = true → (next s).Throughout holds (act s))

theorem throughout_observe {view : σ → α} {s : σ} (h : holds s) :
    (observe view).Throughout holds s := ⟨h, fun _ => h⟩

theorem throughout_atomic {action : Action σ α} {s : σ} (before : holds s)
    (behind : holds (after action s)) : (atomic action).Throughout holds s := by
  refine ⟨before, fun _ => ?_⟩
  dsimp only
  split
  · exact behind
  · exact behind

namespace Throughout

/-- What comes behind code only counts where the code returns. -/
theorem bind {code : Code σ α} {next : α → Code σ β} {s : σ} (first : code.Throughout holds s)
    (rest : ∀ value s', code.run s = .ok value s' → (next value).Throughout holds s') :
    (code >>= next).Throughout holds s := by
  show (code.bind next).Throughout holds s
  induction code generalizing s with
  | done value => exact rest value s rfl
  | stop cause => exact first
  | step ready act further ih =>
    refine ⟨first.1, fun hready => ih s (first.2 hready) fun value s' h => ?_⟩
    exact rest value s' ((run_step_ready hready).trans h)

/-- What code held is given back as its last step. -/
theorem releasing {release : σ → σ} {code : Code σ α} {s : σ} (h : code.Throughout holds s)
    (there : ∀ t, holds t → holds (release t)) : (code.releasing release).Throughout holds s := by
  induction code generalizing s with
  | done value => exact ⟨h, fun _ => there s h⟩
  | stop cause => exact ⟨h, fun _ => there s h⟩
  | step ready act next ih => exact ⟨h.1, fun hready => ih s (h.2 hready)⟩

end Throughout

/-- Code that stops may have given back what it held, or waits in the middle of it. -/
theorem run_releasing_error {release : σ → σ} {code : Code σ α} {s s' : σ} {cause : Stop}
    (h : code.run s = .error cause s') :
    ∃ t, (code.releasing release).run s = .error cause t ∧ (t = s' ∨ t = release s') := by
  induction code generalizing s with
  | done value => cases h
  | stop =>
    cases h
    exact ⟨_, rfl, .inr rfl⟩
  | step ready act next ih =>
    cases hready : ready s with
    | true =>
      rw [run_step_ready hready] at h
      rw [Code.releasing, run_step_ready hready]
      exact ih s h
    | false =>
      rw [run_step_waiting hready] at h
      cases h
      exact ⟨_, run_step_waiting hready, .inl rfl⟩

end BringUp.Code
