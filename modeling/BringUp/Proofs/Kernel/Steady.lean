import BringUp.Kernel.Interrupts
import BringUp.Proofs.Kernel.Routing
import BringUp.Proofs.Machine.Flag

/-!
# Actions that leave the lock and the flag alone

What is done under the dispatcher's lock neither gives the lock back nor lets interrupts in. This
holds whether the action returns or not, and whatever the console is doing.
-/

namespace BringUp

set_option autoImplicit false

namespace Kernel

variable {M H E α β : Type} [Cpu M]

/-- Whether an interrupt may arrive. -/
def interruptible (k : Kernel M H E) : Bool := Cpu.interruptsEnabled k.machine

/-- The lock is as before, and the flag has not been set. -/
structure Steady (before after : Kernel M H E) : Prop where
  held : after.held = before.held
  flag : before.interruptible = false → after.interruptible = false

theorem Steady.refl (k : Kernel M H E) : Steady k k := ⟨rfl, id⟩

theorem Steady.trans {a b c : Kernel M H E} (hab : Steady a b) (hbc : Steady b c) : Steady a c :=
  ⟨hbc.held.trans hab.held, fun h => hbc.flag (hab.flag h)⟩

/-- An action that leaves a steady state behind, from any state. -/
def StaysSteady (action : Action (Kernel M H E) α) : Prop :=
  ∀ k, Steady k (Code.after action k)

theorem staysSteady_pure (value : α) :
    StaysSteady (pure value : Action (Kernel M H E) α) := fun k => .refl k

theorem staysSteady_bind {action : Action (Kernel M H E) α}
    {next : α → Action (Kernel M H E) β} (ha : StaysSteady action)
    (hn : ∀ value, StaysSteady (next value)) : StaysSteady (action >>= next) := by
  intro k
  have hk := ha k
  unfold Code.after at hk ⊢
  cases hrun : action k with
  | ok value k' =>
    rw [Action.bind_ok hrun]
    rw [hrun] at hk
    exact hk.trans (hn value k')
  | error stop k' =>
    rw [Action.bind_error hrun]
    rw [hrun] at hk
    exact hk

theorem staysSteady_console (body : Action Console α) :
    StaysSteady (Action.inPlace body : Action (Kernel M H E) α) := by
  intro k
  unfold Code.after Action.inPlace Action.within
  cases body (HasConsole.console k) <;> exact ⟨rfl, id⟩

theorem staysSteady_log (level : Level) (shown : String) :
    StaysSteady (Console.log level shown : Action (Kernel M H E) Unit) :=
  staysSteady_console _

theorem staysSteady_replaceHandler (vector : UInt8) (handler : H) :
    StaysSteady (replaceHandler vector handler : Action (Kernel M H E) Unit) := by
  intro k
  have hrest : StaysSteady
      (if (k.dispatcher.handlers.get vector).isSome then
        Console.log .debug ("Replaced handler for vector " ++ toString vector)
      else pure () : Action (Kernel M H E) Unit) := by
    split
    · exact staysSteady_log _ _
    · exact staysSteady_pure _
  have hput : Steady k { k with
      dispatcher := { k.dispatcher with
        handlers := k.dispatcher.handlers.put vector (some handler) } } := ⟨rfl, id⟩
  exact hput.trans (hrest _)

theorem staysSteady_addHandler (vector : UInt8) (handler : H) :
    StaysSteady (addHandler vector handler : Action (Kernel M H E) Unit) := by
  unfold addHandler
  split
  · exact staysSteady_bind (staysSteady_log _ _) fun _ => staysSteady_replaceHandler vector handler
  · exact staysSteady_replaceHandler vector handler

theorem staysSteady_removeHandler (vector : UInt8) :
    StaysSteady (removeHandler vector : Action (Kernel M H E) Unit) := fun _ => ⟨rfl, id⟩

variable [PortSpace M] [LawfulFlag M]

theorem staysSteady_write (port : UInt16) (value : UInt8) :
    StaysSteady (Port.write port value : Action (Kernel M H E) Unit) :=
  fun k => ⟨rfl, fun h => (LawfulFlag.output port value k.machine).trans h⟩

theorem staysSteady_acknowledge (line : Option UInt8) :
    StaysSteady (acknowledge line : Action (Kernel M H E) Unit) := by
  cases line with
  | none => exact staysSteady_pure ()
  | some line =>
    show StaysSteady (Controller.Pair.endOfInterrupt line)
    unfold Controller.Pair.endOfInterrupt
    split
    · exact staysSteady_bind (staysSteady_write _ _) fun _ => staysSteady_write _ _
    · exact staysSteady_write _ _

theorem staysSteady_faultAddress (frame : Frame) :
    StaysSteady (Exception.Report.faultAddress frame : Action (Kernel M H E) UInt32) := by
  intro k
  unfold Code.after
  rw [faultAddress_eq]
  show Steady k (k.faultRead frame).2
  unfold faultRead
  split
  · exact ⟨rfl, fun h => (LawfulFlag.readCr2 k.machine).trans h⟩
  · exact ⟨rfl, id⟩

theorem staysSteady_printFatal (frame : Frame) :
    StaysSteady
      (Exception.Report.printFatal frame : Action (Kernel M H E) (Option Exception.Report)) := by
  refine staysSteady_bind (staysSteady_faultAddress frame) fun address => ?_
  cases Exception.Report.classify frame address with
  | none => exact staysSteady_pure _
  | some report =>
    refine staysSteady_bind (staysSteady_log _ _) fun _ => ?_
    refine staysSteady_bind (staysSteady_log _ _) fun _ => ?_
    exact staysSteady_bind (staysSteady_log _ _) fun _ => staysSteady_pure _

theorem staysSteady_route (frame : Frame) :
    StaysSteady (route frame : Action (Kernel M H E) (Route H)) := by
  refine staysSteady_bind (staysSteady_printFatal frame) fun report => ?_
  cases report with
  | some report => exact staysSteady_pure _
  | none =>
    intro k
    cases hh : k.dispatcher.handlers.get frame.vectorByte with
    | some handler =>
      unfold Code.after
      simp only [Action.bind_get, hh]
      exact ⟨rfl, id⟩
    | none =>
      have hcount : Steady k { k with
          dispatcher := { k.dispatcher with unhandled := k.dispatcher.unhandled + 1 } } := ⟨rfl, id⟩
      have hlog := staysSteady_log (M := M) (H := H) (E := E) .debug
        ("Unhandled interrupt: " ++ toString frame.vectorByte)
      have hrest : StaysSteady (Console.log .debug
            ("Unhandled interrupt: " ++ toString frame.vectorByte) >>= fun _ =>
          pure (.run none (k.dispatcher.pair.lineFor frame.vectorByte)) :
          Action (Kernel M H E) (Route H)) :=
        staysSteady_bind hlog fun _ => staysSteady_pure _
      unfold Code.after
      simp only [Action.bind_get, hh]
      exact hcount.trans (hrest _)

end Kernel

end BringUp
