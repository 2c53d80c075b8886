/-!
# Severity of log records

Five levels, from errors to traces. A threshold lets records pass up to its level; no threshold
at all lets nothing pass.
-/

namespace BringUp

set_option autoImplicit false

inductive Level where
  | error
  | warn
  | info
  | debug
  | trace
  deriving DecidableEq

namespace Level

def name : Level → String
  | error => "ERROR"
  | warn => "WARN"
  | info => "INFO"
  | debug => "DEBUG"
  | trace => "TRACE"

def rank : Level → Nat
  | error => 1
  | warn => 2
  | info => 3
  | debug => 4
  | trace => 5

/-- Whether a record of this level passes the threshold. -/
def passes (level : Level) : Option Level → Bool
  | none => false
  | some most => level.rank ≤ most.rank

/-- The threshold in force until another is set. -/
def default : Level := debug

theorem passes_none (level : Level) : level.passes none = false := rfl

/-- A threshold that lets a record pass lets every graver one pass. -/
theorem passes_of_le {graver level : Level} (h : graver.rank ≤ level.rank)
    {threshold : Option Level} (hp : level.passes threshold = true) :
    graver.passes threshold = true := by
  cases threshold with
  | none => exact hp
  | some most =>
    simp only [passes, decide_eq_true_eq] at hp ⊢
    exact Nat.le_trans h hp

end Level

end BringUp
