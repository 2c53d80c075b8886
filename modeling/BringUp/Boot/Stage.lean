import BringUp.Text.Outline

/-!
# Stages of bring-up

The machine is brought up in five steps. Each leads from one stage to the next, and a step that
is tried at any other stage is refused.
-/

namespace BringUp.Boot

set_option autoImplicit false

inductive Stage where
  | reset
  | segmented
  | paged
  | vectorsInstalled
  | controllerRemapped
  | interruptsEnabled
  deriving DecidableEq

namespace Stage

def rank : Stage → Nat
  | reset => 0
  | segmented => 1
  | paged => 2
  | vectorsInstalled => 3
  | controllerRemapped => 4
  | interruptsEnabled => 5

def name : Stage → String
  | reset => "Reset"
  | segmented => "Segmented"
  | paged => "Paged"
  | vectorsInstalled => "VectorsInstalled"
  | controllerRemapped => "ControllerRemapped"
  | interruptsEnabled => "InterruptsEnabled"

def all : List Stage :=
  [reset, segmented, paged, vectorsInstalled, controllerRemapped, interruptsEnabled]

def ofName? (name : String) : Option Stage := all.find? fun stage => stage.name = name

theorem rank_inj {a b : Stage} : a.rank = b.rank → a = b := by
  cases a <;> cases b <;> decide

end Stage

/-- A step was tried at a stage that is not the one it requires. -/
structure OutOfOrder where
  expected : Stage
  found : Stage
  deriving DecidableEq

namespace OutOfOrder

def message (e : OutOfOrder) : String :=
  "bring-up step out of order: requires " ++ e.expected.name ++ ", machine is at " ++
    e.found.name

def outline (e : OutOfOrder) : Text.Outline :=
  .record "OutOfOrder" [
    .part "expected" (.text e.expected.name),
    .part "found" (.text e.found.name)]

end OutOfOrder

end BringUp.Boot
