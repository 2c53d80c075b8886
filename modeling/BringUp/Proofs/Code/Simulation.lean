import BringUp.Code

/-!
# The same code on two machines

Code that reaches its state through a few operations runs on every machine that has them. Where two
machines are related, answer alike and stay related whatever operation comes next, code cannot tell
which of them it runs on.
-/

namespace BringUp.Action

set_option autoImplicit false

variable {σ τ α β : Type} {R : σ → τ → Prop}

/-- Two runs end alike: both return one value or stop for one cause, in related states. -/
inductive Agree (R : σ → τ → Prop) : EStateM.Result Stop σ α → EStateM.Result Stop τ α → Prop where
  | ok {value : α} {s : σ} {t : τ} (related : R s t) : Agree R (.ok value s) (.ok value t)
  | error {cause : Stop} {s : σ} {t : τ} (related : R s t) :
      Agree R (.error cause s) (.error cause t)

/-- From related states on, the two runs end alike. -/
def Simulates (R : σ → τ → Prop) (first : Action σ α) (second : Action τ α) : Prop :=
  ∀ s t, R s t → Agree R (first s) (second t)

/-- Where the first run returns, the second returns the same. -/
theorem Agree.returns {value : α} {s : σ} {result : EStateM.Result Stop τ α}
    (h : Agree R (.ok value s) result) : ∃ t, result = .ok value t ∧ R s t := by
  cases h with
  | ok related => exact ⟨_, rfl, related⟩

namespace Simulates

theorem pure (value : α) : Simulates R (Pure.pure value) (Pure.pure value) :=
  fun _ _ h => .ok h

theorem modify {act : σ → σ} {act' : τ → τ} (h : ∀ s t, R s t → R (act s) (act' t)) :
    Simulates R (modify act : Action σ PUnit) (modify act') :=
  fun s t hst => .ok (h s t hst)

/-- Runs in sequence: the second parts are given the same value, whatever it is. -/
theorem bind {first : Action σ α} {first' : Action τ α} {next : α → Action σ β}
    {next' : α → Action τ β} (hfirst : Simulates R first first')
    (hnext : ∀ value, Simulates R (next value) (next' value)) :
    Simulates R (first >>= next) (first' >>= next') := by
  intro s t hst
  have hends := hfirst s t hst
  cases hs : first s with
  | ok value s' =>
    rw [hs] at hends
    obtain ⟨t', ht, hst'⟩ := hends.returns
    rw [Action.bind_ok hs, Action.bind_ok ht]
    exact hnext value s' t' hst'
  | error cause s' =>
    rw [hs] at hends
    cases ht : first' t with
    | ok value t' =>
      rw [ht] at hends
      cases hends
    | error cause' t' =>
      rw [ht] at hends
      cases hends with
      | error related =>
        rw [Action.bind_error hs, Action.bind_error ht]
        exact .error related

end Simulates

end BringUp.Action
