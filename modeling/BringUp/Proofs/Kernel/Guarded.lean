import BringUp.Kernel.Interrupts
import BringUp.Proofs.Kernel.Delivery
import BringUp.Proofs.Kernel.Registration
import BringUp.Proofs.Machine.Wired

/-!
# The dispatcher with interrupts held off

The running kernel reaches its dispatcher with interrupts held off and the lock taken. Once the
flag is back and the lock free, only what was done in between is left to see.
-/

namespace BringUp.Kernel

set_option autoImplicit false

section Flag

variable {σ α : Type} [Cpu σ]

/-- The state with interrupts held off, if they were not yet. -/
def quieted (s : σ) : σ := if Cpu.interruptsEnabled s then Cpu.disableInterrupts s else s

/-- The state with the interrupt flag back where it was before. -/
def restored (before s : σ) : σ :=
  if Cpu.interruptsEnabled before then Cpu.enableInterrupts s else s

/-- However the body ends, it is run with interrupts held off, and the flag is put back where the
body returns. -/
theorem run_withoutInterrupts_eq (body : Code σ α) (s : σ) :
    (withoutInterrupts body).run s =
      match body.run (quieted s) with
      | .ok value s' => .ok value (restored s s')
      | .error cause s' => .error cause s' := by
  unfold withoutInterrupts
  rw [Code.run_bind_ok (Code.run_observe _ s)]
  cases henabled : Cpu.interruptsEnabled s with
  | true =>
    have hdisable : (Code.change Cpu.disableInterrupts).run s = .ok () (quieted s) := by
      rw [Code.run_change, quieted, if_pos henabled]
    simp only [if_true]
    rw [Code.run_bind_ok hdisable, Code.run_bind]
    simp only [restored, henabled, if_true]
    rfl
  | false =>
    have hsame : quieted s = s := by rw [quieted, henabled]; rfl
    rw [hsame]
    simp only [restored, henabled, Bool.false_eq_true, if_false]
    exact Code.run_bind body pure s

theorem run_withoutInterrupts {body : Code σ α} {s s' : σ} {value : α}
    (h : body.run (quieted s) = .ok value s') :
    (withoutInterrupts body).run s = .ok value (restored s s') := by
  rw [run_withoutInterrupts_eq, h]

end Flag

/-- What a machine may have become by nothing but holding interrupts off and letting them through. -/
inductive Reflagged {M : Type} [Cpu M] (before : M) : M → Prop where
  | same : Reflagged before before
  | disabled {after : M} (earlier : Reflagged before after) :
      Reflagged before (Cpu.disableInterrupts after)
  | enabled {after : M} (earlier : Reflagged before after) :
      Reflagged before (Cpu.enableInterrupts after)

theorem Reflagged.trans {M : Type} [Cpu M] {a b c : M} (hab : Reflagged a b)
    (hbc : Reflagged b c) : Reflagged a c := by
  induction hbc with
  | same => exact hab
  | disabled _ ih => exact ih.disabled
  | enabled _ ih => exact ih.enabled

theorem Reflagged.bus {M : Type} [PortSpace M] [Cpu M] [Wired M] {before after : M}
    (h : Reflagged before after) : Wired.bus after = Wired.bus before := by
  induction h with
  | same => rfl
  | disabled _ ih => exact (Wired.disableInterrupts _).trans ih
  | enabled _ ih => exact (Wired.enableInterrupts _).trans ih

variable {M H E α : Type} [Cpu M] {k : Kernel M H E}

/-- Two kernels that differ at most in the interrupt flag of their machine. -/
structure Undisturbed (before after : Kernel M H E) : Prop where
  machine : Reflagged before.machine after.machine
  console : after.console = before.console
  same : SameState before after

theorem undisturbed_quieted (k : Kernel M H E) : Undisturbed k (quieted k) := by
  unfold quieted
  split
  · exact ⟨.disabled .same, rfl, rfl, rfl, rfl, rfl⟩
  · exact ⟨.same, rfl, .refl k⟩

theorem undisturbed_restored (before k : Kernel M H E) : Undisturbed k (restored before k) := by
  unfold restored
  split
  · exact ⟨.enabled .same, rfl, rfl, rfl, rfl, rfl⟩
  · exact ⟨.same, rfl, .refl k⟩

/-- Taking the lock does not disturb. -/
theorem Undisturbed.hold {before after : Kernel M H E} (h : Undisturbed before after) :
    Undisturbed before.hold after.hold :=
  ⟨h.machine, h.console, h.same.dispatcher, rfl, h.same.ticks, h.same.own⟩

/-- A body runs with interrupts held off and the lock taken, and both are as before once it has
returned. -/
theorem run_guarded {body : Code (Kernel M H E) α} {value : α} {k' : Kernel M H E}
    (hheld : k.held = false) (hbody : body.run (quieted k).hold = .ok value k') :
    (withoutInterrupts (exclusively body)).run k = .ok value (restored k k'.release) := by
  have hfree : (quieted k).held = false := (undisturbed_quieted k).same.held.trans hheld
  exact run_withoutInterrupts (run_exclusively hfree hbody)

/-- A kernel in which the content of one slot was replaced. -/
structure Amended (vector : UInt8) (content : Option H) (before after : Kernel M H E) : Prop where
  machine : Reflagged before.machine after.machine
  console : after.console.Free
  dispatcher : after.dispatcher = (before.withSlot vector content).dispatcher
  held : after.held = before.held
  ticks : after.ticks = before.ticks

theorem run_amending {action : Action (Kernel M H E) Unit} {vector : UInt8} {content : Option H}
    (hheld : k.held = false)
    (haction : ∀ q, Undisturbed k.hold q →
      ∃ q', action q = .ok () q' ∧ Amended vector content k.hold q') :
    ∃ k', (withoutInterrupts (exclusively (Code.atomic action))).run k = .ok () k' ∧
      Amended vector content k k' := by
  obtain ⟨q', hrun, hamended⟩ := haction _ (undisturbed_quieted k).hold
  have hafter := undisturbed_restored k q'.release
  refine ⟨_, run_guarded hheld ((Code.run_atomic _ _).trans hrun),
    hamended.machine.trans hafter.machine, ?_, ?_, ?_, ?_⟩
  · rw [hafter.console]
    exact hamended.console
  · exact hafter.same.dispatcher.trans hamended.dispatcher
  · exact hafter.same.held.trans hheld.symm
  · exact hafter.same.ticks.trans hamended.ticks

theorem run_register (hheld : k.held = false) (hfree : k.console.Free) (vector : UInt8)
    (handler : H) :
    ∃ k', (register vector handler).run k = .ok () k' ∧ Amended vector (some handler) k k' := by
  refine run_amending hheld fun q hq => ?_
  have hconsole : q.console.Free := by
    rw [hq.console]
    exact hfree
  refine ⟨q.added vector handler, addHandler_free hconsole vector handler, hq.machine,
    free_consoleAdded hconsole _ _, ?_, hq.same.held, hq.same.ticks⟩
  show (q.withSlot vector (some handler)).dispatcher = _
  rw [withSlot, hq.same.dispatcher]
  rfl

theorem run_unregister (hheld : k.held = false) (hfree : k.console.Free) (vector : UInt8) :
    ∃ k', (unregister vector).run k = .ok () k' ∧ Amended vector none k k' := by
  refine run_amending hheld fun q hq => ?_
  refine ⟨q.withSlot vector none, removeHandler_eq vector q, hq.machine, ?_, ?_, hq.same.held,
    hq.same.ticks⟩
  · show q.console.Free
    rw [hq.console]
    exact hfree
  · rw [withSlot, hq.same.dispatcher]
    rfl

end BringUp.Kernel
