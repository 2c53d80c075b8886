import BringUp.Proofs.Kernel.Discipline

/-!
# Interrupts between any two steps

The running kernel performs its operations one atomic step at a time, and an interrupt may arrive
between any two of them while the flag is set. Nobody designed a protocol between the lock and
the flag, but there is one: the dispatcher is never held while interrupts are let in. A delivery
therefore always finds the dispatcher free, and nobody ever waits for it.
-/

namespace BringUp.Kernel

set_option autoImplicit false

variable {M H E : Type}

/-- Where execution stands between two steps. -/
structure Moment (M H E : Type) where
  state : Kernel M H E
  /-- What is left of the kernel's current operation. -/
  main : Code (Kernel M H E) Unit
  /-- What is left of the deliveries under way, the innermost first. -/
  deliveries : List (Code (Kernel M H E) Frame)

/-- The condition that the next step waits for. -/
def Moment.condition (moment : Moment M H E) : Option (Kernel M H E → Bool) :=
  match moment.deliveries with
  | [] => moment.main.condition
  | delivery :: _ => delivery.condition

/-- The next step takes the dispatcher's lock and would wait for it. -/
def Moment.AboutToTake (moment : Moment M H E) : Prop :=
  moment.condition = some fun k => !k.held

theorem condition_take {α : Type} (next : Unit → Code (Kernel M H E) α) :
    (take >>= next).condition = some fun k => !k.held := rfl

variable [Cpu M]

/-- All code under way keeps to its terms. A delivery runs with interrupts held off, so there is
never a second one inside it; what it interrupted is resumed with interrupts let in. -/
inductive Sound : Moment M H E → Prop where
  | main {k : Kernel M H E} {main : Code (Kernel M H E) Unit}
      (keeps : main.Keeps (sharing true) (fun _ => Calm true) k) : Sound ⟨k, main, []⟩
  | delivery {k : Kernel M H E} {main : Code (Kernel M H E) Unit}
      {delivery : Code (Kernel M H E) Frame}
      (keeps : delivery.Keeps (sharing false) (fun _ => Calm false) k)
      (resumes : ∀ k' : Kernel M H E, k'.interruptible = true → k'.held = false →
        main.Keeps (sharing true) (fun _ => Calm true) k') :
      Sound ⟨k, main, [delivery]⟩

section

variable {moment : Moment M H E}

theorem Sound.holds (h : Sound moment) :
    moment.state.held = true → moment.state.interruptible = false := by
  cases h with
  | main keeps => exact keeps.holds.1
  | delivery keeps _ => exact fun _ => keeps.holds.2 rfl

/-- The lock keeps no step waiting. -/
theorem Sound.waits (h : Sound moment) {ready : Kernel M H E → Bool}
    (hc : moment.condition = some ready) : ready moment.state.release = ready moment.state := by
  cases h with
  | main keeps => exact keeps.waits hc
  | delivery keeps _ => exact keeps.waits hc

theorem Sound.free (h : Sound moment) (hon : moment.state.interruptible = true) :
    moment.state.held = false := by
  cases hheld : moment.state.held with
  | false => rfl
  | true => exact absurd (hon.symm.trans (h.holds hheld)) (by decide)

end

variable [PortSpace M]

/-- A controller's interrupt arrives: the machine clears the flag and enters the delivery. -/
inductive Arrives (service : Service H (Kernel M H E)) (frame : Frame) :
    Moment M H E → Moment M H E → Prop where
  | mk {k : Kernel M H E} {main : Code (Kernel M H E) Unit}
      {deliveries : List (Code (Kernel M H E) Frame)} (machine : M)
      (enabled : k.interruptible = true) (hardware : 32 ≤ frame.vectorByte)
      (cleared : Cpu.interruptsEnabled machine = false) :
      Arrives service frame ⟨k, main, deliveries⟩
        ⟨{ k with machine }, main, deliver service frame :: deliveries⟩

/-- One step of the running kernel. -/
inductive Step (service : Service H (Kernel M H E)) : Moment M H E → Moment M H E → Prop where
  /-- The kernel goes on to another operation. -/
  | call {k : Kernel M H E} {code : Code (Kernel M H E) Unit} (orderly : Orderly true code) :
      Step service ⟨k, .done (), []⟩ ⟨k, code, []⟩
  | main {k : Kernel M H E} {ready : Kernel M H E → Bool} {act : Kernel M H E → Kernel M H E}
      {next : Kernel M H E → Code (Kernel M H E) Unit} (hready : ready k = true) :
      Step service ⟨k, .step ready act next, []⟩ ⟨act k, next k, []⟩
  /-- The innermost delivery goes on. -/
  | inner {k : Kernel M H E} {main : Code (Kernel M H E) Unit} {ready : Kernel M H E → Bool}
      {act : Kernel M H E → Kernel M H E} {next : Kernel M H E → Code (Kernel M H E) Frame}
      {below : List (Code (Kernel M H E) Frame)} (hready : ready k = true) :
      Step service ⟨k, main, .step ready act next :: below⟩ ⟨act k, main, next k :: below⟩
  | arrive {frame : Frame} {moment moment' : Moment M H E}
      (arrives : Arrives service frame moment moment') : Step service moment moment'
  /-- The innermost delivery returns, and the machine puts the flag back. -/
  | leave {k : Kernel M H E} {main : Code (Kernel M H E) Unit} {frame : Frame}
      {below : List (Code (Kernel M H E) Frame)} (machine : M)
      (restored : Cpu.interruptsEnabled machine = true) :
      Step service ⟨k, main, .done frame :: below⟩ ⟨{ k with machine }, main, below⟩

/-- What may come of a kernel that starts out with nothing to do. -/
inductive Reachable (service : Service H (Kernel M H E)) (start : Kernel M H E) :
    Moment M H E → Prop where
  | start : Reachable service start ⟨start, .done (), []⟩
  | step {moment moment' : Moment M H E} (before : Reachable service start moment)
      (step : Step service moment moment') : Reachable service start moment'

section Soundness

variable {service : Service H (Kernel M H E)} {moment moment' : Moment M H E}

/-- With interrupts held off, the innermost delivery alone goes on. -/
theorem step_inner_iff {k : Kernel M H E} {main : Code (Kernel M H E) Unit}
    {ready : Kernel M H E → Bool} {act : Kernel M H E → Kernel M H E}
    {next : Kernel M H E → Code (Kernel M H E) Frame} {below : List (Code (Kernel M H E) Frame)}
    (hoff : k.interruptible = false) (hready : ready k = true) :
    Step service ⟨k, main, .step ready act next :: below⟩ moment' ↔
      moment' = ⟨act k, main, next k :: below⟩ := by
  constructor
  · intro hstep
    cases hstep with
    | inner _ => rfl
    | arrive arrives =>
      cases arrives with
      | mk machine enabled hardware cleared =>
        exact absurd (enabled.symm.trans hoff) (by decide)
  · rintro rfl
    exact .inner hready

/-- A delivery sets out to take the dispatcher, and finds out whether it was free. -/
theorem deliver_eq (frame : Frame) :
    deliver service frame = .step (fun _ => true) hold fun k =>
      (if !k.held then dispatchTaken service frame
        else do
          let disposition ← Code.atomic (dispatchBusy frame)
          return (disposition, frame)) >>= conclude := rfl

variable [LawfulFlag M]

theorem sound_arrive (hservice : ∀ handler frame, Orderly false (service handler frame))
    {frame : Frame} (h : Sound moment) (ha : Arrives service frame moment moment') :
    Sound moment' := by
  cases ha with
  | mk machine enabled hardware cleared =>
    have hfree := h.free enabled
    cases h with
    | main keeps =>
      refine .delivery (keeps_deliver hservice frame ⟨hfree, fun _ => cleared⟩) ?_
      intro k' hon hfree'
      exact keeps.others (.inr ⟨enabled, hfree, hon, hfree'⟩)
    | delivery keeps _ => exact absurd (enabled.symm.trans (keeps.holds.2 rfl)) (by decide)

theorem sound_step (hservice : ∀ handler frame, Orderly false (service handler frame))
    (h : Sound moment) (hstep : Step service moment moment') : Sound moment' := by
  cases hstep with
  | call orderly =>
    cases h with
    | main keeps => exact .main (keeps_orderly orderly keeps.result)
  | main hready =>
    cases h with
    | main keeps => exact .main keeps.next
  | inner hready =>
    cases h with
    | delivery keeps resumes => exact .delivery keeps.next resumes
  | arrive arrives => exact sound_arrive hservice h arrives
  | leave machine restored =>
    cases h with
    | delivery keeps resumes => exact .main (resumes _ restored keeps.result.free)

theorem sound_reachable (hservice : ∀ handler frame, Orderly false (service handler frame))
    {start : Kernel M H E} (hfree : start.held = false) (h : Reachable service start moment) :
    Sound moment := by
  induction h with
  | start =>
    have hcalm : Calm true start := ⟨hfree, fun h => by cases h⟩
    exact .main (keeps_done hcalm fun _ h => h)
  | step before step ih => exact sound_step hservice ih step

end Soundness

variable [LawfulFlag M]

/-- Whatever the kernel does and whenever interrupts arrive: the dispatcher is held only with
interrupts held off; an interrupt that arrives finds it free, so the one step that can follow takes
it and goes on to route the interrupt; and nobody who is about to take it has to wait. -/
theorem dispatcher_uncontended {service : Service H (Kernel M H E)}
    (hservice : ∀ handler frame, Orderly false (service handler frame)) {start : Kernel M H E}
    (hfree : start.held = false) {moment : Moment M H E}
    (hreach : Reachable service start moment) :
    (moment.state.held = true → moment.state.interruptible = false) ∧
    (∀ frame moment', Arrives service frame moment moment' →
      moment'.state.held = false ∧
      ∀ moment'', Step service moment' moment'' ↔
        moment'' = ⟨moment'.state.hold, moment.main,
          (dispatchTaken service frame >>= conclude) :: moment.deliveries⟩) ∧
    (moment.AboutToTake → moment.state.held = false) := by
  have hsound := sound_reachable hservice hfree hreach
  refine ⟨hsound.holds, ?_, ?_⟩
  · intro frame moment' harrives
    cases harrives with
    | @mk k main deliveries machine enabled hardware cleared =>
      have hheld : k.held = false := hsound.free enabled
      have hoff : ({ k with machine } : Kernel M H E).interruptible = false := cleared
      refine ⟨hheld, fun moment'' => ?_⟩
      rw [deliver_eq, step_inner_iff hoff rfl]
      simp only [hheld]
      rfl
  · intro htake
    have hwaits := hsound.waits htake
    simpa [release] using hwaits

section MovingOn

/-- A handler that moves its registration from vector 33 to vector 34. -/
def moveOn : Service Unit (Kernel Processor Unit Unit) := fun handler frame => do
  register 34 handler
  unregister 33
  return frame

theorem orderly_moveOn (handler : Unit) (frame : Frame) : Orderly false (moveOn handler frame) :=
  .bind (.register 34 handler) fun _ => .bind (.unregister 33) fun _ => .done frame

/-- A kernel on a processor that lets interrupts in. -/
def listening : Kernel Processor Unit Unit :=
  start { Processor.reset with interrupts := true } .default ()

/-- An interrupt that arrives when a registration has read the flag, but has not yet cleared it,
takes the dispatcher first. -/
theorem arrival_amid_registration :
    ∃ moment moment' : Moment Processor Unit Unit,
      Reachable moveOn listening moment ∧ Arrives moveOn (.ofVector 33) moment moment' ∧
      moment'.state.held = false ∧
      Step moveOn moment' ⟨moment'.state.hold, moment.main,
        (dispatchTaken moveOn (.ofVector 33) >>= conclude) :: moment.deliveries⟩ := by
  have hcalled : Reachable moveOn listening ⟨listening, register 33 (), []⟩ :=
    .step .start (.call (.register 33 ()))
  have hreach := Reachable.step hcalled (.main rfl)
  obtain ⟨-, harrival, -⟩ := dispatcher_uncontended orderly_moveOn rfl hreach
  obtain ⟨hheld, hstep⟩ :=
    harrival (.ofVector 33) _ (.mk Processor.reset rfl (by decide) rfl)
  exact ⟨_, _, hreach, .mk Processor.reset rfl (by decide) rfl, hheld, (hstep _).mpr rfl⟩

end MovingOn

end BringUp.Kernel
