import BringUp.Kernel.Timer
import BringUp.Proofs.Kernel.Guarded
import BringUp.Proofs.Kernel.Sparing

/-!
# Holding interrupts off within each other

Calls that hold interrupts off are made within each other, to any depth. Each of them puts the flag
back as it found it, so only the outermost finds it set. All closures run with interrupts held off,
those of inner calls and what comes after these alike, and the flag is cleared and set once at most.
-/

namespace BringUp.Kernel

set_option autoImplicit false

section Leaves

variable {M H E α : Type} [Cpu M] [PortSpace M]

/-- Code that only uses the controller pair and breaks none of its rules. -/
inductive UsesPair : {α : Type} → Code (Kernel M H E) α → Prop where
  | done {α : Type} (value : α) : UsesPair (.done value)
  | bind {α β : Type} {code : Code (Kernel M H E) α} {next : α → Code (Kernel M H E) β}
      (first : UsesPair code) (rest : ∀ value, UsesPair (next value)) : UsesPair (code >>= next)
  /-- Lines and vectors are told from the ranges. -/
  | ranges : UsesPair (Code.observe fun k => k.dispatcher.pair)
  | remap (pair : Controller.Pair) : UsesPair (Code.atomic pair.remap)
  | readMasks : UsesPair (Code.atomic Controller.Pair.readMasks)
  | writeMasks (masks : Controller.Masks) :
      UsesPair (Code.atomic (Controller.Pair.writeMasks masks))
  | disable : UsesPair (Code.atomic Controller.Pair.disable)
  | enableLine {line : UInt8} (inside : line < Controller.totalLines) :
      UsesPair (Code.atomic (Controller.Pair.enableLine line))
  | disableLine {line : UInt8} (inside : line < Controller.totalLines) :
      UsesPair (Code.atomic (Controller.Pair.disableLine line))
  | isLineMasked {line : UInt8} (inside : line < Controller.totalLines) :
      UsesPair (Code.atomic (Controller.Pair.isLineMasked line))
  | endOfInterrupt (line : UInt8) :
      UsesPair (Code.atomic (Controller.Pair.endOfInterrupt line))
  /-- The ports behind the pair can be reached through it. -/
  | read (port : UInt16) : UsesPair (Code.atomic (Port.read port))
  | write (port : UInt16) (value : UInt8) : UsesPair (Code.atomic (Port.write port value))

variable (M H E) in
/-- Calls whose closures make no further calls. -/
inductive Leaf : Type → Type 1 where
  | register (vector : UInt8) (handler : H) : Leaf Unit
  | unregister (vector : UInt8) : Leaf Unit
  | withPair {α : Type} (body : Code (Kernel M H E) α) (uses : UsesPair body) : Leaf α

namespace Leaf

def code : Leaf M H E α → Code (Kernel M H E) α
  | register vector handler => Kernel.register vector handler
  | unregister vector => Kernel.unregister vector
  | withPair body _ => Kernel.withPair body

/-- What runs with interrupts held off. -/
def closure : Leaf M H E α → Code (Kernel M H E) α
  | register vector handler => exclusively (Code.atomic (addHandler vector handler))
  | unregister vector => exclusively (Code.atomic (removeHandler vector))
  | withPair body _ => exclusively body

end Leaf

end Leaves

section Flag

variable {M H E : Type} [Cpu M]

theorem held_quieted (k : Kernel M H E) : (quieted k).held = k.held := by
  unfold quieted
  split <;> rfl

theorem console_quieted (k : Kernel M H E) : (quieted k).console = k.console := by
  unfold quieted
  split <;> rfl

theorem held_restored (k inside : Kernel M H E) : (restored k inside).held = inside.held := by
  unfold restored
  split <;> rfl

theorem console_restored (k inside : Kernel M H E) :
    (restored k inside).console = inside.console := by
  unfold restored
  split <;> rfl

end Flag

variable {M H E α β : Type} [Cpu M] [PortSpace M] [FlagRecord M]

variable (M H E) in
/-- Calls one after the other, with code between them that leaves lock and flag alone. What comes
next may depend on what was returned before. -/
inductive Calls : Type → Type 1 where
  | done {α : Type} (value : α) : Calls α
  | own {α β : Type} (code : Code (Kernel M H E) β) (discreet : Discreet code)
      (rest : β → Calls α) : Calls α
  | leaf {α β : Type} (single : Leaf M H E β) (rest : β → Calls α) : Calls α
  /-- A call whose closure makes calls itself. -/
  | withoutInterrupts {α β : Type} (closure : Calls β) (rest : β → Calls α) : Calls α

namespace Calls

def code {α : Type} : Calls M H E α → Code (Kernel M H E) α
  | done value => .done value
  | own code _ rest => code >>= fun value => (rest value).code
  | leaf single rest => single.code >>= fun value => (rest value).code
  | withoutInterrupts closure rest =>
      Kernel.withoutInterrupts closure.code >>= fun value => (rest value).code

/-- `holds` of the closure of every call, at every level, and the kernel in which it is called. -/
def EveryCall (holds : {β : Type} → Code (Kernel M H E) β → Kernel M H E → Prop) {α : Type} :
    Calls M H E α → Kernel M H E → Prop
  | done _, _ => True
  | own code _ rest, k =>
      ∀ value k', code.run k = .ok value k' → (rest value).EveryCall holds k'
  | leaf single rest, k =>
      holds single.closure k ∧
        ∀ value k', single.code.run k = .ok value k' → (rest value).EveryCall holds k'
  | withoutInterrupts closure rest, k =>
      holds closure.code k ∧ closure.EveryCall holds (quieted k) ∧
        ∀ value k', (Kernel.withoutInterrupts closure.code).run k = .ok value k' →
          (rest value).EveryCall holds k'

end Calls

/-- With interrupts held off and the dispatcher free, code spares lock and flag, and interrupts are
held off at every step. -/
structure Contained (code : Code (Kernel M H E) α) : Prop where
  ends : ∀ k, k.held = false → k.interruptible = false →
    Ends k (fun _ => Spared k) (code.run k)
  quiet : ∀ k, k.held = false → k.interruptible = false →
    code.Throughout (fun t => t.interruptible = false) k

/-- What has happened where a call returned: its closure has returned the same, behind it the flag
was put back, and that is all. -/
structure Wraps (closure : Code (Kernel M H E) α) (k : Kernel M H E) (value : α)
    (after : Kernel M H E) : Prop where
  closure : ∃ inside, closure.run (quieted k) = .ok value inside ∧ after = restored k inside
  held : after.held = k.held
  record : after.flagRecord = k.flagRecord ++ if k.interruptible then [.disable, .enable] else []

/-- How a call goes: its closure runs with the flag clear at every step, and where it returns, the
call does so with the flag as it was. -/
structure Masked (closure : Code (Kernel M H E) α) (k : Kernel M H E) : Prop where
  quiet : closure.Throughout (fun t => t.interruptible = false) (quieted k)
  ends : Ends k (Wraps closure k) ((withoutInterrupts closure).run k)

section Restoring

variable {k inside : Kernel M H E}

theorem interruptible_quieted (k : Kernel M H E) : (quieted k).interruptible = false := by
  unfold quieted
  split
  · exact LawfulFlag.disabled k.machine
  · rename_i hclear
    exact (Bool.not_eq_true _).mp hclear

theorem interruptible_restored (k : Kernel M H E) (h : inside.interruptible = false) :
    (restored k inside).interruptible = k.interruptible := by
  cases hset : k.interruptible with
  | true =>
    have hview : Cpu.interruptsEnabled k = true := hset
    rw [restored, if_pos hview]
    exact FlagRecord.enabled inside.machine
  | false =>
    have hview : Cpu.interruptsEnabled k = false := hset
    rw [restored, hview]
    exact h

/-- If nothing was done to the flag in between, it was cleared and set again, or not touched. -/
theorem flagRecord_restored (h : inside.flagRecord = (quieted k).flagRecord) :
    (restored k inside).flagRecord =
      k.flagRecord ++ if k.interruptible then [.disable, .enable] else [] := by
  cases hset : k.interruptible with
  | true =>
    have hview : Cpu.interruptsEnabled k = true := hset
    rw [quieted, if_pos hview] at h
    rw [restored, if_pos hview]
    calc FlagRecord.record (Cpu.enableInterrupts inside.machine)
        = inside.flagRecord ++ [.enable] := FlagRecord.record_enable _
      _ = (k.flagRecord ++ [.disable]) ++ [.enable] :=
          congrArg (· ++ _) (h.trans (FlagRecord.record_disable k.machine))
      _ = k.flagRecord ++ [.disable, .enable] := List.append_assoc _ _ _
  | false =>
    have hview : Cpu.interruptsEnabled k = false := hset
    rw [quieted, hview] at h
    rw [restored, hview]
    exact h.trans (List.append_nil _).symm

end Restoring

section Closures

variable {k : Kernel M H E}

/-- A call around a contained closure, from any value of the flag. -/
theorem Contained.masked {closure : Code (Kernel M H E) α} (h : Contained closure)
    (hheld : k.held = false) : Masked closure k := by
  have hfree : (quieted k).held = false := (held_quieted k).trans hheld
  have hquiet := interruptible_quieted k
  refine ⟨h.quiet _ hfree hquiet, ?_⟩
  have hends := h.ends _ hfree hquiet
  rw [run_withoutInterrupts_eq]
  cases hrun : closure.run (quieted k) with
  | ok value inside =>
    rw [hrun] at hends
    cases hends with
    | returns flag console spared =>
      rw [console_quieted] at console
      refine .returns (interruptible_restored k (flag.trans hquiet)) ?_ ?_
      · rw [console_restored]
        exact console
      · exact ⟨⟨inside, hrun, rfl⟩,
          (held_restored k inside).trans (spared.held.trans (held_quieted k)),
          flagRecord_restored spared.record⟩
  | error cause stuck =>
    rw [hrun] at hends
    cases hends with
    | waits flag printing =>
      rw [console_quieted] at printing
      exact .waits (fun _ => flag hquiet) printing

theorem Contained.bind {code : Code (Kernel M H E) α} {next : α → Code (Kernel M H E) β}
    (first : Contained code) (rest : ∀ value, Contained (next value)) :
    Contained (code >>= next) where
  ends k hheld hquiet := by
    refine (first.ends k hheld hquiet).run_bind fun value k' hflag hspared => ?_
    exact ((rest value).ends k' (hspared.held.trans hheld) (hflag.trans hquiet)).imp
      fun _ _ => hspared.trans
  quiet k hheld hquiet := by
    refine (first.quiet k hheld hquiet).bind fun value k' hrun => ?_
    obtain ⟨hflag, hspared⟩ := (first.ends k hheld hquiet).of_ok hrun
    exact (rest value).quiet k' (hspared.held.trans hheld) (hflag.trans hquiet)

/-- The dispatcher is had at once and given back. -/
theorem Discreet.exclusively {body : Code (Kernel M H E) α} (h : Discreet body) :
    Contained (exclusively body) where
  ends k hheld hquiet := by
    have htake : take.run k = .ok () k.hold := Code.run_step_ready (by rw [hheld]; rfl)
    have hends := h.ends k.hold
    unfold Kernel.exclusively
    rw [Code.run_bind_ok htake]
    cases hrun : body.run k.hold with
    | ok value k' =>
      rw [hrun] at hends
      rw [Code.run_releasing_ok hrun]
      cases hends with
      | returns flag console spared => exact .returns flag console ⟨hheld.symm, spared.record⟩
    | error cause stuck =>
      rw [hrun] at hends
      have hstops : ∃ t, (body.releasing release).run k.hold = .error cause t ∧
          (t = stuck ∨ t = release stuck) := Code.run_releasing_error hrun
      obtain ⟨t, hstuck, ht⟩ := hstops
      rw [hstuck]
      cases hends with
      | waits flag printing =>
        refine .waits (fun _ => ?_) printing
        rcases ht with rfl | rfl
        · exact flag hquiet
        · exact flag hquiet
  quiet k hheld hquiet := by
    have htake : take.Throughout (fun t : Kernel M H E => t.interruptible = false) k :=
      ⟨hquiet, fun _ => hquiet⟩
    refine htake.bind fun _ k' hrun => ?_
    rw [take, Code.run_step_ready (by rw [hheld]; rfl)] at hrun
    cases hrun
    exact (h.quiet k.hold hquiet).releasing fun _ ht => ht

/-- An inner call finds the flag clear and does nothing to it. -/
theorem Contained.withoutInterrupts {closure : Code (Kernel M H E) α} (h : Contained closure) :
    Contained (withoutInterrupts closure) where
  ends k hheld hquiet := by
    refine (h.masked hheld).ends.imp fun value k' hwraps => ⟨hwraps.held, ?_⟩
    have hrecord := hwraps.record
    rw [hquiet] at hrecord
    exact hrecord.trans (List.append_nil _)
  quiet k hheld hquiet := by
    have hview : Cpu.interruptsEnabled k = false := hquiet
    have hobserve : (Code.observe Cpu.interruptsEnabled).Throughout
        (fun t : Kernel M H E => t.interruptible = false) k := Code.throughout_observe hquiet
    refine hobserve.bind fun value k' hrun => ?_
    rw [Code.run_observe, hview] at hrun
    cases hrun
    show (closure >>= fun result => pure result).Throughout _ k
    refine (h.quiet k hheld hquiet).bind fun result k' hrun => ?_
    exact ((h.ends k hheld hquiet).of_ok hrun).1.trans hquiet

end Closures

/-- Each call, at every level, masks interrupts for its closure, and in the end the flag is as it
was. -/
structure Nests (calls : Calls M H E α) (k : Kernel M H E) : Prop where
  every : calls.EveryCall Masked k
  ends : Ends k (fun _ k' => k'.held = k.held) (calls.code.run k)

section Runs

variable {k : Kernel M H E}

end Runs

section Nested

end Nested

end BringUp.Kernel
