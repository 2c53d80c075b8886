import BringUp.Fault

/-!
# Parts of a state

A table lies in a context, a context in the memory of a machine, a console beside it. Code written
for such a part runs on the whole in place: what it leaves in the part is what the whole has there
from then on, whether the code returns or not.
-/

namespace BringUp

set_option autoImplicit false

/-- States of which a part is a `τ`. -/
class HasPart (τ σ : Type) where
  part (s : σ) : τ
  withPart (t : τ) (s : σ) : σ

/-- A part of the part `τ` is a part of the whole. -/
@[reducible]
def HasPart.through (τ : Type) {ρ σ : Type} [HasPart ρ τ] [HasPart τ σ] : HasPart ρ σ where
  part s := part (part s : τ)
  withPart r s := withPart (withPart r (part s : τ)) s

namespace Action

variable {σ τ α : Type}

/-- Runs code for a part where the part lies. `view` finds the part and `update` puts it back. -/
def within (view : σ → τ) (update : τ → σ → σ) (body : Action τ α) : Action σ α := fun s =>
  match body (view s) with
  | .ok value t => .ok value (update t s)
  | .error stop t => .error stop (update t s)

def inPlace [HasPart τ σ] (body : Action τ α) : Action σ α :=
  within HasPart.part HasPart.withPart body

/-- Reads a part. -/
def read [HasPart τ σ] : Action σ τ := fun s => .ok (HasPart.part s) s

/-- One store to a state. The check of what is stored comes first, and nothing is stored if it
fails. -/
def store (change : τ → Except Fault τ) : Action τ Unit := do
  let t ← get
  set (← ofExcept (change t))

theorem within_ok {view : σ → τ} {update : τ → σ → σ} {body : Action τ α} {s : σ} {t : τ}
    {value : α} (h : body (view s) = .ok value t) :
    within view update body s = .ok value (update t s) := by
  rw [within, h]

theorem inPlace_ok [HasPart τ σ] {body : Action τ α} {s : σ} {t : τ} {value : α}
    (h : body (HasPart.part s) = .ok value t) :
    inPlace body s = .ok value (HasPart.withPart t s) := within_ok h

theorem store_ok {change : τ → Except Fault τ} {t t' : τ} (h : change t = .ok t') :
    store change t = .ok () t' := by
  rw [store, bind_get, h]
  rfl

theorem store_error {change : τ → Except Fault τ} {t : τ} {cause : Fault}
    (h : change t = .error cause) : store change t = .error (.fault cause) t := by
  rw [store, bind_get, h]
  rfl

end Action

end BringUp
