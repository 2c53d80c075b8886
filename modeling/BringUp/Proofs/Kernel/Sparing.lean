import BringUp.Proofs.Code.Passage
import BringUp.Proofs.Kernel.Registration
import BringUp.Proofs.Kernel.Steady

/-!
# Code that leaves the flag alone

Changing the handler table and driving the controller pair leave the dispatcher's lock and the
interrupt flag as they found them, and nothing is done to the flag on the way. Somebody who prints
may keep them waiting, and nothing else does.
-/

namespace BringUp.Kernel

set_option autoImplicit false

variable {M H E α β : Type} [Cpu M] {k : Kernel M H E}

/-- How code ends that puts the flag back as it found it: it returns, and then `post` holds, or it
waits for good for somebody who was printing. Neither of the two lets interrupts in. -/
inductive Ends (k : Kernel M H E) (post : α → Kernel M H E → Prop) :
    EStateM.Result Stop (Kernel M H E) α → Prop where
  | returns {value : α} {k' : Kernel M H E} (flag : k'.interruptible = k.interruptible)
      (console : k.console.Free → k'.console.Free) (there : post value k') :
      Ends k post (.ok value k')
  | waits {stuck : Kernel M H E} (flag : k.interruptible = false → stuck.interruptible = false)
      (printing : ¬ k.console.Free) : Ends k post (.error .blocked stuck)

namespace Ends

variable {post : α → Kernel M H E → Prop} {result : EStateM.Result Stop (Kernel M H E) α}

theorem imp {post' : α → Kernel M H E → Prop} (h : Ends k post result)
    (hpost : ∀ value k', post value k' → post' value k') : Ends k post' result := by
  cases h with
  | returns flag console there => exact .returns flag console (hpost _ _ there)
  | waits flag printing => exact .waits flag printing

/-- What has led from one kernel to another without a trace comes before the end. -/
theorem behind {first : Kernel M H E} (h : Ends k post result)
    (flag : k.interruptible = first.interruptible) (console : first.console.Free → k.console.Free) :
    Ends first post result := by
  cases h with
  | returns flag' console' there =>
    exact .returns (flag'.trans flag) (fun hfree => console' (console hfree)) there
  | waits flag' printing =>
    exact .waits (fun hquiet => flag' (flag.trans hquiet)) fun hfree => printing (console hfree)

theorem of_ok {value : α} {k' : Kernel M H E} (h : Ends k post result)
    (hok : result = .ok value k') : k'.interruptible = k.interruptible ∧ post value k' := by
  cases h with
  | returns flag console there =>
    cases hok
    exact ⟨flag, there⟩
  | waits flag printing => cases hok

theorem action_bind {action : Action (Kernel M H E) α} {next : α → Action (Kernel M H E) β}
    {post' : β → Kernel M H E → Prop} (first : Ends k post (action k))
    (rest : ∀ value k', k'.interruptible = k.interruptible → post value k' →
      Ends k' post' (next value k')) :
    Ends k post' ((action >>= next) k) := by
  cases hrun : action k with
  | ok value k' =>
    rw [hrun] at first
    rw [Action.bind_ok hrun]
    cases first with
    | returns flag console there => exact (rest value k' flag there).behind flag console
  | error cause stuck =>
    rw [hrun] at first
    rw [Action.bind_error hrun]
    cases first with
    | waits flag printing => exact .waits flag printing

theorem run_bind {code : Code (Kernel M H E) α} {next : α → Code (Kernel M H E) β}
    {post' : β → Kernel M H E → Prop} (first : Ends k post (code.run k))
    (rest : ∀ value k', k'.interruptible = k.interruptible → post value k' →
      Ends k' post' ((next value).run k')) :
    Ends k post' ((code >>= next).run k) := by
  rw [Code.run_bind_eq]
  exact first.action_bind rest

end Ends

variable [PortSpace M] [FlagRecord M]

/-- What has been done to the flag, oldest first. -/
def flagRecord (k : Kernel M H E) : List FlagOperation := FlagRecord.record k.machine

/-- The lock is as before, and nothing was done to the flag. -/
structure Spared (before after : Kernel M H E) : Prop where
  held : after.held = before.held
  record : after.flagRecord = before.flagRecord

theorem Spared.refl (k : Kernel M H E) : Spared k k := ⟨rfl, rfl⟩

theorem Spared.trans {a b c : Kernel M H E} (hab : Spared a b) (hbc : Spared b c) : Spared a c :=
  ⟨hbc.held.trans hab.held, hbc.record.trans hab.record⟩

/-- Unless it waits for somebody who prints, the action returns and spares lock and flag. -/
def Sparing (action : Action (Kernel M H E) α) : Prop :=
  ∀ k, Ends k (fun _ => Spared k) (action k)

namespace Sparing

theorem pure (value : α) : Sparing (pure value : Action (Kernel M H E) α) :=
  fun k => .returns rfl id (.refl k)

theorem bind {action : Action (Kernel M H E) α} {next : α → Action (Kernel M H E) β}
    (first : Sparing action) (rest : ∀ value, Sparing (next value)) : Sparing (action >>= next) :=
  fun k => (first k).action_bind fun value k' _ hspared =>
    (rest value k').imp fun _ _ => hspared.trans

theorem log (level : Level) (shown : String) :
    Sparing (Console.log level shown : Action (Kernel M H E) Unit) := by
  intro k
  have hends := Console.logging_put_or_waits level shown (HasConsole.console k)
  rw [Console.log, Action.inPlace, Action.within]
  rcases hends with hdone | ⟨hprinting, stuck, hwaits⟩
  · rw [hdone]
    exact .returns rfl (fun hfree => Console.free_logged hfree level shown) ⟨rfl, rfl⟩
  · rw [hwaits]
    exact .waits id hprinting

theorem replaceHandler (vector : UInt8) (handler : H) :
    Sparing (replaceHandler vector handler : Action (Kernel M H E) Unit) := by
  intro k
  have hlog : Sparing
      (if (k.dispatcher.handlers.get vector).isSome then
        Console.log .debug ("Replaced handler for vector " ++ toString vector)
      else Pure.pure () : Action (Kernel M H E) Unit) := by
    split
    · exact log _ _
    · exact pure ()
  have hspared : Spared k (k.withSlot vector (some handler)) := ⟨rfl, rfl⟩
  exact ((hlog _).imp fun _ _ => hspared.trans).behind rfl id

theorem addHandler (vector : UInt8) (handler : H) :
    Sparing (addHandler vector handler : Action (Kernel M H E) Unit) := by
  unfold Kernel.addHandler
  split
  · exact (log _ _).bind fun _ => replaceHandler vector handler
  · exact replaceHandler vector handler

theorem removeHandler (vector : UInt8) :
    Sparing (removeHandler vector : Action (Kernel M H E) Unit) :=
  fun _ => .returns rfl id ⟨rfl, rfl⟩

section Ports

theorem read (port : UInt16) : Sparing (Port.read port : Action (Kernel M H E) UInt8) :=
  fun k => .returns (FlagRecord.input port k.machine) id
    ⟨rfl, FlagRecord.record_input port k.machine⟩

theorem write (port : UInt16) (value : UInt8) :
    Sparing (Port.write port value : Action (Kernel M H E) Unit) :=
  fun k => .returns (LawfulFlag.output port value k.machine) id
    ⟨rfl, FlagRecord.record_output port value k.machine⟩

theorem readMasks :
    Sparing (Controller.Pair.readMasks : Action (Kernel M H E) Controller.Masks) :=
  (read _).bind fun _ => (read _).bind fun _ => pure _

theorem writeMasks (masks : Controller.Masks) :
    Sparing (Controller.Pair.writeMasks masks : Action (Kernel M H E) Unit) :=
  (write _ _).bind fun _ => write _ _

theorem setUpWord (port : UInt16) (value : UInt8) :
    Sparing (Controller.Pair.setUpWord port value : Action (Kernel M H E) Unit) :=
  (write port value).bind fun _ => write _ 0

theorem remap (pair : Controller.Pair) : Sparing (pair.remap : Action (Kernel M H E) Unit) := by
  have hsetUp : Sparing (pair.setUp : Action (Kernel M H E) Unit) := by
    unfold Controller.Pair.setUp
    refine (setUpWord _ _).bind fun _ => (setUpWord _ _).bind fun _ => ?_
    refine (setUpWord _ _).bind fun _ => (setUpWord _ _).bind fun _ => ?_
    refine (setUpWord _ _).bind fun _ => (setUpWord _ _).bind fun _ => ?_
    exact (setUpWord _ _).bind fun _ => setUpWord _ _
  exact readMasks.bind fun masks => hsetUp.bind fun _ => (writeMasks masks).bind fun _ => log _ _

theorem endOfInterrupt (line : UInt8) :
    Sparing (Controller.Pair.endOfInterrupt line : Action (Kernel M H E) Unit) := by
  unfold Controller.Pair.endOfInterrupt
  split
  · exact (write _ _).bind fun _ => write _ _
  · exact write _ _

/-- A line that exists is found, so what is done with its register decides. -/
theorem located {line : UInt8} (inside : line < Controller.totalLines)
    {next : UInt16 × UInt8 → Action (Kernel M H E) α} (rest : ∀ found, Sparing (next found)) :
    Sparing (Action.ofExcept (Controller.Pair.locate line) >>= next) := by
  refine Sparing.bind ?_ rest
  unfold Controller.Pair.locate
  rw [if_pos inside]
  split
  · exact pure _
  · exact pure _

theorem enableLine {line : UInt8} (inside : line < Controller.totalLines) :
    Sparing (Controller.Pair.enableLine line : Action (Kernel M H E) Unit) :=
  located inside fun found => (read found.1).bind fun _ => write found.1 _

theorem disableLine {line : UInt8} (inside : line < Controller.totalLines) :
    Sparing (Controller.Pair.disableLine line : Action (Kernel M H E) Unit) :=
  located inside fun found => (read found.1).bind fun _ => write found.1 _

theorem isLineMasked {line : UInt8} (inside : line < Controller.totalLines) :
    Sparing (Controller.Pair.isLineMasked line : Action (Kernel M H E) Bool) :=
  located inside fun found => (read found.1).bind fun _ => pure _

end Ports

end Sparing

/-- Code that spares lock and flag unless it waits for somebody who prints. While the flag is clear,
it is clear at every step. -/
structure Discreet (code : Code (Kernel M H E) α) : Prop where
  ends : ∀ k, Ends k (fun _ => Spared k) (code.run k)
  quiet : ∀ k, k.interruptible = false →
    code.Throughout (fun t => t.interruptible = false) k

namespace Discreet

theorem done (value : α) : Discreet (.done value : Code (Kernel M H E) α) where
  ends k := .returns rfl id (.refl k)
  quiet _ h := h

theorem bind {code : Code (Kernel M H E) α} {next : α → Code (Kernel M H E) β}
    (first : Discreet code) (rest : ∀ value, Discreet (next value)) : Discreet (code >>= next) where
  ends k := (first.ends k).run_bind fun value k' _ hspared =>
    ((rest value).ends k').imp fun _ _ => hspared.trans
  quiet k hquiet := by
    refine (first.quiet k hquiet).bind fun value k' hrun => ?_
    obtain ⟨hflag, -⟩ := (first.ends k).of_ok hrun
    exact (rest value).quiet k' (hflag.trans hquiet)

theorem observe (view : Kernel M H E → α) : Discreet (Code.observe view) where
  ends k := .returns rfl id (.refl k)
  quiet _ h := Code.throughout_observe h

theorem atomic {action : Action (Kernel M H E) α} (h : Sparing action) :
    Discreet (Code.atomic action) where
  ends k := by
    rw [Code.run_atomic]
    exact h k
  quiet k hquiet := by
    refine Code.throughout_atomic hquiet ?_
    have hends := h k
    unfold Code.after
    cases hrun : action k with
    | ok value k' => exact (hends.of_ok hrun).1.trans hquiet
    | error cause stuck =>
      rw [hrun] at hends
      cases hends with
      | waits flag printing => exact flag hquiet

end Discreet

end BringUp.Kernel
