import BringUp.Code

/-!
# Code among others

Between any two steps of some code, others may change the state it works on. What they may do,
and what is to hold meanwhile, are the terms on which the state is shared. Code that keeps to its
terms finds what it relied on at every step, and leaves what it promised.
-/

namespace BringUp

set_option autoImplicit false

/-- Terms on which a state is shared. -/
structure Terms (σ : Type) where
  /-- What others may make of the state between two steps. -/
  others : σ → σ → Prop
  /-- What holds between any two steps. -/
  holds : σ → Prop
  /-- What a step may be made to wait for. -/
  waits : (σ → Bool) → σ → Prop
  others_refl : ∀ s, others s s
  others_trans : ∀ {s s' s''}, others s s' → others s' s'' → others s s''

namespace Code

variable {σ α β : Type} {terms : Terms σ}

/-- From a state on, code keeps to its terms and, when it is done, has reached what it promised. -/
def Keeps (terms : Terms σ) : Code σ α → (α → σ → Prop) → σ → Prop
  | done value, post, s => ∀ s', terms.others s s' → terms.holds s' ∧ post value s'
  | stop _, _, s => ∀ s', terms.others s s' → terms.holds s'
  | step ready act next, post, s => ∀ s', terms.others s s' →
      terms.holds s' ∧ terms.waits ready s' ∧ Keeps terms (next s') post (act s')

theorem Keeps.holds {code : Code σ α} {post : α → σ → Prop} {s : σ}
    (h : code.Keeps terms post s) : terms.holds s := by
  cases code with
  | done value => exact (h s (terms.others_refl s)).1
  | stop cause => exact h s (terms.others_refl s)
  | step ready act next => exact (h s (terms.others_refl s)).1

/-- What others may do does not disturb code that keeps to its terms. -/
theorem Keeps.others {code : Code σ α} {post : α → σ → Prop} {s s' : σ}
    (h : code.Keeps terms post s) (ho : terms.others s s') : code.Keeps terms post s' := by
  cases code with
  | done value => exact fun t ht => h t (terms.others_trans ho ht)
  | stop cause => exact fun t ht => h t (terms.others_trans ho ht)
  | step ready act next => exact fun t ht => h t (terms.others_trans ho ht)

theorem Keeps.weaken {code : Code σ α} {post post' : α → σ → Prop} {s : σ}
    (h : code.Keeps terms post s) (hp : ∀ value t, post value t → post' value t) :
    code.Keeps terms post' s := by
  induction code generalizing s with
  | done value => exact fun t ht => ⟨(h t ht).1, hp value t (h t ht).2⟩
  | stop cause => exact h
  | step ready act next ih =>
    intro t ht
    obtain ⟨hh, hw, hn⟩ := h t ht
    exact ⟨hh, hw, ih t hn⟩

/-- Code in sequence keeps to its terms if the second part does from wherever the first may end. -/
theorem Keeps.bind {code : Code σ α} {next : α → Code σ β} {post : β → σ → Prop} {s : σ}
    (h : code.Keeps terms (fun value t => (next value).Keeps terms post t) s) :
    (code >>= next).Keeps terms post s := by
  show (code.bind next).Keeps terms post s
  induction code generalizing s with
  | done value => exact (h s (terms.others_refl s)).2
  | stop cause => exact h
  | step ready act rest ih =>
    intro t ht
    obtain ⟨hh, hw, hn⟩ := h t ht
    exact ⟨hh, hw, ih t hn⟩

/-- A step that code takes on its terms leaves the rest of it on the same terms. -/
theorem Keeps.next {ready : σ → Bool} {act : σ → σ} {next : σ → Code σ α}
    {post : α → σ → Prop} {s : σ} (h : (step ready act next).Keeps terms post s) :
    (next s).Keeps terms post (act s) := (h s (terms.others_refl s)).2.2

theorem Keeps.result {value : α} {post : α → σ → Prop} {s : σ}
    (h : (done value).Keeps terms post s) : post value s := (h s (terms.others_refl s)).2

/-- The condition that the step to come waits for, if there is one to come. -/
def condition : Code σ α → Option (σ → Bool)
  | step ready _ _ => some ready
  | done _ | stop _ => none

theorem Keeps.waits {code : Code σ α} {post : α → σ → Prop} {s : σ} {ready : σ → Bool}
    (h : code.Keeps terms post s) (hc : code.condition = some ready) : terms.waits ready s := by
  cases code with
  | done value => cases hc
  | stop cause => cases hc
  | step ready' act next =>
    cases hc
    exact (h s (terms.others_refl s)).2.1

end Code

end BringUp
