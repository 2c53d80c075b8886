import BringUp.Text.Hexadecimal

/-!
# Ways not to return

Code on the machine may fail to return in three ways: it breaks a rule that is checked while it
runs, it waits for a lock that nobody will give back, or it stops the processor for good. An
`Action` is code over a machine state that keeps the state it reached in each of these cases, so
what was done before a fault stays done.

Whether a sum overflows is checked where the sum picks a vector: an overflow there is a fault, and a
caller can reach it. The counters of acknowledgements, of unhandled interrupts and of ticks are only
ever increased by one, and they wrap around. What is said of a counter is said modulo its width, or
for runs that stay below it.
-/

namespace BringUp

set_option autoImplicit false

/-- A rule that was found broken while the code ran. -/
inductive Fault where
  /-- A controller range starts inside the exception vectors. -/
  | rangeInExceptions
  | rangePastVectors
  | rangesOverlap
  /-- There are sixteen lines, and this is none of them. -/
  | lineOutOfRange (line : UInt8)
  | sumTooLarge
  | differenceNegative
  | indexOutOfBounds (length index : Nat)
  /-- The segment table has no room for one of the flat descriptors. -/
  | flatLayoutRefused (index : UInt64)
  /-- A page frame starts inside a page. -/
  | frameUnaligned (frame : UInt32)
  | printFailed
  | loggerPresent
  | settingUnset
  | handlerFailed (vector : UInt32)
  /-- A handler found the dispatcher taken. -/
  | dispatcherHeld
  deriving DecidableEq

def Fault.message : Fault → String
  | rangeInExceptions => "controller vectors must not overlap CPU exceptions"
  | rangePastVectors => "controller vectors must fit in the vector space"
  | rangesOverlap => "master and slave vector ranges overlap"
  | lineOutOfRange line => "IRQ line " ++ toString line ++ " out of range"
  | sumTooLarge => "attempt to add with overflow"
  | differenceNegative => "attempt to subtract with overflow"
  | indexOutOfBounds length index =>
      "index out of bounds: the len is " ++ toString length ++ " but the index is " ++
        toString index
  | flatLayoutRefused index =>
      "flat GDT layout must fit the descriptor table: DescriptorIndexOutOfRange \x7b index: " ++
        toString index ++ " \x7d"
  | frameUnaligned frame =>
      "assertion `left == right` failed: frame " ++ Text.hex frame.toNat ++
        " is not page aligned\n  left: " ++ toString (frame.toNat % 4096) ++ "\n right: 0"
  | printFailed => "Printing to serial failed: Error"
  | loggerPresent => "Logger initialization failed: SetLoggerError(())"
  | settingUnset => "called `Result::unwrap()` on an `Err` value: NotPresent"
  | handlerFailed vector => "handler failed on vector " ++ toString vector
  | dispatcherHeld => "dispatcher lock held while handler runs"

/-- Why code did not return. -/
inductive Stop where
  | fault (cause : Fault)
  /-- It waits for a lock that is never given back. -/
  | blocked
  | halted
  deriving DecidableEq

/-- Code over a state `σ`. The state reached is kept whether or not it returns. -/
abbrev Action (σ : Type) : Type → Type := EStateM Stop σ

namespace Action

variable {σ α : Type}

/-- A check made ahead of any effect. -/
def ofExcept : Except Fault α → Action σ α
  | .ok value => pure value
  | .error cause => throw (.fault cause)

/-- Runs `body` and gives back what it held, also when it does not return. -/
def releasing (release : σ → σ) (body : Action σ α) : Action σ α := fun s =>
  match body s with
  | .ok value s' => .ok value (release s')
  | .error stop s' => .error stop (release s')

theorem bind_ok {β : Type} {first : Action σ α} {next : α → Action σ β} {s s' : σ} {value : α}
    (h : first s = .ok value s') : (first >>= next) s = next value s' := by
  show EStateM.bind first next s = _
  rw [EStateM.bind, h]

theorem bind_error {β : Type} {first : Action σ α} {next : α → Action σ β} {s s' : σ}
    {stop : Stop} (h : first s = .error stop s') : (first >>= next) s = .error stop s' := by
  show EStateM.bind first next s = _
  rw [EStateM.bind, h]

theorem bind_get {β : Type} (next : σ → Action σ β) (s : σ) : (get >>= next) s = next s s := rfl

theorem bind_set {β : Type} (s' : σ) (next : PUnit → Action σ β) (s : σ) :
    (set s' >>= next) s = next ⟨⟩ s' := rfl

theorem releasing_ok {release : σ → σ} {body : Action σ α} {s s' : σ} {value : α}
    (h : body s = .ok value s') : releasing release body s = .ok value (release s') := by
  simp only [releasing, h]

theorem releasing_error {release : σ → σ} {body : Action σ α} {s s' : σ} {stop : Stop}
    (h : body s = .error stop s') : releasing release body s = .error stop (release s') := by
  simp only [releasing, h]

end Action

end BringUp
