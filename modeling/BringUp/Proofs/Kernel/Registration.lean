import BringUp.Kernel.Dispatch
import BringUp.Proofs.Console.Logging

/-!
# Changing the handler table

While nobody prints, installing and removing a handler change one slot and, at most, log about
it.
-/

namespace BringUp.Kernel

set_option autoImplicit false

variable {M H E : Type}

/-- The kernel with `content` in the slot of `vector`. -/
def withSlot (vector : UInt8) (content : Option H) (k : Kernel M H E) : Kernel M H E :=
  { k with
    dispatcher := { k.dispatcher with handlers := k.dispatcher.handlers.put vector content } }

theorem get_withSlot (vector other : UInt8) (content : Option H) (k : Kernel M H E) :
    (k.withSlot vector content).dispatcher.handlers.get other =
      if other = vector then content else k.dispatcher.handlers.get other :=
  HandlerTable.get_put k.dispatcher.handlers vector other content

/-- The console once a handler was installed on `vector`, in a slot that was taken or not. -/
def consoleAdded (vector : UInt8) (taken : Bool) (c : Console) : Console :=
  (c.loggedIf (vector < Controller.exceptionVectors) .warn
      ("Handler registered on exception vector " ++ toString vector ++
        "; exceptions are always fatal")).loggedIf
    taken .debug ("Replaced handler for vector " ++ toString vector)

theorem free_consoleAdded {c : Console} (h : c.Free) (vector : UInt8) (taken : Bool) :
    (consoleAdded vector taken c).Free :=
  Console.free_loggedIf (Console.free_loggedIf h _ _ _) _ _ _

/-- The kernel once `handler` has been installed on `vector`. -/
def added (vector : UInt8) (handler : H) (k : Kernel M H E) : Kernel M H E :=
  { k.withSlot vector (some handler) with
    console := consoleAdded vector (k.dispatcher.handlers.get vector).isSome k.console }

theorem replaceHandler_free {k : Kernel M H E} (h : k.console.Free) (vector : UInt8)
    (handler : H) :
    replaceHandler vector handler k =
      .ok () { k.withSlot vector (some handler) with
        console := k.console.loggedIf (k.dispatcher.handlers.get vector).isSome .debug
          ("Replaced handler for vector " ++ toString vector) } := by
  have hlog := Console.log_if_free (s := k.withSlot vector (some handler)) h rfl
    ((k.dispatcher.handlers.get vector).isSome = true) .debug
    ("Replaced handler for vector " ++ toString vector)
  rw [Bool.decide_eq_true] at hlog
  exact hlog

theorem addHandler_free {k : Kernel M H E} (h : k.console.Free) (vector : UInt8) (handler : H) :
    addHandler vector handler k = .ok () (k.added vector handler) := by
  unfold addHandler
  rw [added, consoleAdded]
  by_cases hv : vector < Controller.exceptionVectors
  · rw [if_pos hv, Action.bind_ok (Console.log_free h _ _), decide_eq_true hv, Console.loggedIf_true]
    exact replaceHandler_free (Console.free_logged h _ _) vector handler
  · rw [if_neg hv, decide_eq_false hv, Console.loggedIf_false]
    exact replaceHandler_free h vector handler

theorem removeHandler_eq (vector : UInt8) (k : Kernel M H E) :
    removeHandler vector k = .ok () (k.withSlot vector none) := rfl

end BringUp.Kernel
