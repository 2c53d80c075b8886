import BringUp.Proofs.Kernel.Delivery

/-!
# Blind to the lock

Routing and acknowledging are done under the dispatcher's lock, but they never look at it. So it
makes no difference to them whether somebody holds it, and taking the lock around them changes
nothing but the lock.
-/

namespace BringUp

set_option autoImplicit false

namespace Action

def mapState {σ τ α : Type} (change : σ → τ) : EStateM.Result Stop σ α → EStateM.Result Stop τ α
  | .ok value s => .ok value (change s)
  | .error stop s => .error stop (change s)

end Action

open BringUp.Action (mapState)

namespace Kernel

variable {M H E α β : Type}

def withHeld (held : Bool) (k : Kernel M H E) : Kernel M H E := { k with held }

theorem withHeld_self {held : Bool} {k : Kernel M H E} (h : k.held = held) :
    k.withHeld held = k := by
  rw [withHeld, ← h]

/-- An action that neither looks at the lock nor changes it. -/
def Blind (action : Action (Kernel M H E) α) : Prop :=
  ∀ (held : Bool) (k : Kernel M H E),
    action (k.withHeld held) = mapState (withHeld held) (action k)

theorem blind_pure (value : α) : Blind (pure value : Action (Kernel M H E) α) := fun _ _ => rfl

theorem blind_bind {action : Action (Kernel M H E) α} {next : α → Action (Kernel M H E) β}
    (ha : Blind action) (hn : ∀ value, Blind (next value)) : Blind (action >>= next) := by
  intro held k
  have hk := ha held k
  cases hrun : action k with
  | ok value k' =>
    rw [hrun] at hk
    rw [Action.bind_ok hk, Action.bind_ok hrun]
    exact hn value held k'
  | error stop k' =>
    rw [hrun] at hk
    rw [Action.bind_error hk, Action.bind_error hrun]
    rfl

theorem blind_atomic {action : Action (Kernel M H E) α} (h : Blind action) :
    Blind (Code.atomic action).run := by
  intro held k
  rw [Code.run_atomic, Code.run_atomic]
  exact h held k

theorem blind_console (body : Action Console α) :
    Blind (Action.inPlace body : Action (Kernel M H E) α) := by
  intro held k
  have hconsole : (HasPart.part (k.withHeld held) : Console) = HasPart.part k := rfl
  unfold Action.inPlace Action.within
  rw [hconsole]
  cases body (HasPart.part k) <;> rfl

theorem blind_log (level : Level) (shown : String) :
    Blind (Console.log level shown : Action (Kernel M H E) Unit) := blind_console _

theorem Blind.held {action : Action (Kernel M H E) α} (h : Blind action) {k k' : Kernel M H E}
    {value : α} (hrun : action k = .ok value k') : k'.held = k.held := by
  have hself := h k.held k
  rw [withHeld_self rfl, hrun] at hself
  have hk' : k' = k'.withHeld k.held := (EStateM.Result.ok.inj hself).2
  rw [hk']
  rfl

/-- Taking the lock around a blind action makes no difference. -/
theorem Blind.around {action : Action (Kernel M H E) α} (h : Blind action) {k : Kernel M H E}
    (hfree : k.held = false) : mapState release (action k.hold) = action k :=
  calc mapState release (action k.hold)
      = mapState (withHeld false) (mapState (withHeld true) (action k)) := by rw [← h true k]; rfl
    _ = mapState (withHeld false) (action k) := by cases action k <;> rfl
    _ = action (k.withHeld false) := (h false k).symm
    _ = action k := by rw [withHeld_self hfree]

theorem run_releasing_atomic (action : Action (Kernel M H E) α) (k : Kernel M H E) :
    ((Code.atomic action).releasing release).run k = mapState release (action k) := by
  rw [Code.atomic, Code.releasing, Code.run_step_ready rfl, Code.after]
  cases action k <;> rfl

theorem run_exclusively_blind {action : Action (Kernel M H E) α} (h : Blind action)
    {k : Kernel M H E} (hfree : k.held = false) :
    (exclusively (Code.atomic action)).run k = action k := by
  rw [exclusively, Code.run_bind_ok (run_take hfree), run_releasing_atomic, h.around hfree]

theorem blind_acknowledge [PortSpace M] (line : Option UInt8) :
    Blind (acknowledge line : Action (Kernel M H E) Unit) := by
  intro held k
  rw [acknowledge_eq, acknowledge_eq]
  rfl

variable [Cpu M]

theorem blind_faultAddress (frame : Frame) :
    Blind (Exception.Report.faultAddress frame : Action (Kernel M H E) UInt32) := by
  intro held k
  rw [faultAddress_eq, faultAddress_eq]
  unfold faultRead
  split <;> rfl

theorem blind_printFatal (frame : Frame) :
    Blind (Exception.Report.printFatal frame :
      Action (Kernel M H E) (Option Exception.Report)) := by
  refine blind_bind (blind_faultAddress frame) fun address => ?_
  cases Exception.Report.classify frame address with
  | none => exact blind_pure _
  | some report =>
    refine blind_bind (blind_log _ _) fun _ => ?_
    refine blind_bind (blind_log _ _) fun _ => ?_
    exact blind_bind (blind_log _ _) fun _ => blind_pure _

theorem blind_route (frame : Frame) : Blind (route frame : Action (Kernel M H E) (Route H)) := by
  refine blind_bind (blind_printFatal frame) fun report => ?_
  cases report with
  | some report => exact blind_pure _
  | none =>
    intro held k
    have hhandlers : (k.withHeld held).dispatcher = k.dispatcher := rfl
    simp only [Action.bind_get, hhandlers]
    cases k.dispatcher.handlers.get frame.vectorByte with
    | some handler => rfl
    | none =>
      have hrest : Blind (Console.log .debug
            ("Unhandled interrupt: " ++ toString frame.vectorByte) >>= fun _ =>
          pure (.run none (k.dispatcher.pair.lineFor frame.vectorByte)) :
          Action (Kernel M H E) (Route H)) :=
        blind_bind (blind_log _ _) fun _ => blind_pure _
      exact hrest held { k with
        dispatcher := { k.dispatcher with unhandled := k.dispatcher.unhandled + 1 } }

end Kernel

end BringUp
