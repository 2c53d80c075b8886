import BringUp.Kernel.Timer
import BringUp.Proofs.Controller.Vectors
import BringUp.Proofs.Kernel.Entries
import BringUp.Proofs.Kernel.Guarded

/-!
# Ticks among other interrupts

Once the timer's handler is in its slot, nothing that callers or other handlers do takes it out
again. Each interrupt of the timer is one tick, each interrupt of any line is acknowledged once,
and the two counts tell the same story whatever comes in between.
-/

namespace BringUp.Kernel

set_option autoImplicit false

open Controller (Bus Pair)

variable {M H E : Type} [PortSpace M] [Cpu M] [Wired M]

/-- The chips as the machine shows them. -/
def bus (k : Kernel M H E) : Bus := Wired.bus k.machine

/-- A kernel that is ready for the timer: nobody holds a lock, the lines are on their usual
vectors, the timer's handler is in its slot and every other handler is a quiet one. -/
structure Armed (timer : H) (quiet : H → Prop) (k : Kernel M H E) : Prop where
  held : k.held = false
  console : k.console.Free
  pair : k.dispatcher.pair = .default
  timer : k.dispatcher.handlers.get Gate.timerVector = some timer
  others : ∀ vector handler, vector ≠ Gate.timerVector →
    k.dispatcher.handlers.get vector = some handler → quiet handler

/-- Quiet handlers return, with the timer still armed, and have neither driven the controllers nor
counted a tick. They may change their frame, and install and remove quiet handlers. -/
def Quietly (service : Service H (Kernel M H E)) (timer : H) (quiet : H → Prop) : Prop :=
  ∀ (handler : H) (frame : Frame) (k : Kernel M H E), quiet handler → Armed timer quiet k →
    ∃ left k', (service handler frame).run k = .ok left k' ∧ Armed timer quiet k' ∧
      k'.bus = k.bus ∧ k'.ticks = k.ticks

/-- The timer's handler counts a tick. -/
def Ticks (service : Service H (Kernel M H E)) (timer : H) : Prop :=
  ∀ frame, service timer frame = do
    Code.atomic Timer.tick
    return frame

/-- Whether a vector is delivered for one of the sixteen lines, on their usual vectors. -/
def OnLine (vector : UInt8) : Prop := 32 ≤ vector.toNat ∧ vector.toNat < 48

instance : DecidablePred OnLine := fun _ => inferInstanceAs (Decidable (_ ∧ _))

/-- What deliveries of these vectors, in this order, have added to the counts. -/
structure Counted (vectors : List UInt8) (before after : Kernel M H E) : Prop where
  ticks : after.ticks = before.ticks + UInt64.ofNat (vectors.count Gate.timerVector)
  acknowledged : after.bus.master.endOfInterrupts =
    before.bus.master.endOfInterrupts + UInt32.ofNat (vectors.countP (OnLine ·))
  masks : after.bus.masks = before.bus.masks

theorem counted_none {before after : Kernel M H E} (hbus : after.bus = before.bus)
    (hticks : after.ticks = before.ticks) : Counted [] before after where
  ticks := hticks.trans (UInt64.add_zero _).symm
  acknowledged := by
    rw [hbus]
    exact (UInt32.add_zero _).symm
  masks := by rw [hbus]

theorem Counted.append {first second : List UInt8} {a b c : Kernel M H E}
    (hab : Counted first a b) (hbc : Counted second b c) : Counted (first ++ second) a c where
  ticks := by
    rw [hbc.ticks, hab.ticks, List.count_append, UInt64.ofNat_add, UInt64.add_assoc]
  acknowledged := by
    rw [hbc.acknowledged, hab.acknowledged, List.countP_append, UInt32.ofNat_add,
      UInt32.add_assoc]
  masks := hbc.masks.trans hab.masks

theorem isSome_lineFor_default (vector : UInt8) :
    (Pair.default.lineFor vector).isSome = decide (OnLine vector) := by
  have hmaster : Pair.default.master.toNat = 32 := rfl
  have hslave : Pair.default.slave.toNat = 40 := rfl
  rw [Pair.isSome_lineFor, Bool.eq_iff_iff, Pair.handles_iff, decide_eq_true_iff]
  unfold Controller.Covers OnLine
  omega

theorem bus_acknowledged (line : Option UInt8) (machine : M) :
    Wired.bus (machineAcknowledged line machine) =
      match line with
      | none => Wired.bus machine
      | some line => (Wired.bus machine).acknowledged line := by
  cases line with
  | none => rfl
  | some line =>
    simp only [machineAcknowledged, Bus.acknowledged]
    rw [Wired.output _ _ _ (by decide)]
    split
    · rw [Wired.output _ _ _ (by decide)]
      rfl
    · rfl

/-- Acknowledging what was found for a vector counts once if a line is delivered on it. -/
theorem count_acknowledged (vector : UInt8) (machine : M) :
    (Wired.bus (machineAcknowledged (Pair.default.lineFor vector) machine)).master.endOfInterrupts =
        (Wired.bus machine).master.endOfInterrupts +
          UInt32.ofNat ([vector].countP (OnLine ·)) ∧
      (Wired.bus (machineAcknowledged (Pair.default.lineFor vector) machine)).masks =
        (Wired.bus machine).masks := by
  have hline := isSome_lineFor_default vector
  rw [List.countP_singleton, ← hline, bus_acknowledged]
  cases Pair.default.lineFor vector with
  | none => exact ⟨(UInt32.add_zero _).symm, rfl⟩
  | some line =>
    have hsame := Bus.sameSetUp_acknowledged line (Wired.bus machine)
    refine ⟨Bus.masterCount_acknowledged line _, ?_⟩
    rw [Bus.masks, Bus.masks, hsame.master.mask, hsame.slave.mask]

section Deliveries

variable {service : Service H (Kernel M H E)} {timer : H} {quiet : H → Prop} {k : Kernel M H E}
  {frame : Frame}

/-- Routing finds what is in the slot, and leaves the kernel armed. -/
theorem Armed.route (harmed : Armed timer quiet k) (hv : ¬ frame.vectorByte < 32) :
    ∃ k1, Kernel.route frame k =
        .ok (.run (k.dispatcher.handlers.get frame.vectorByte)
          (Pair.default.lineFor frame.vectorByte)) k1 ∧
      Armed timer quiet k1 ∧ k1.dispatcher.handlers = k.dispatcher.handlers ∧ k1.bus = k.bus ∧
      k1.ticks = k.ticks := by
  cases hslot : k.dispatcher.handlers.get frame.vectorByte with
  | some handler =>
    have hroute := route_found hv hslot
    rw [harmed.pair] at hroute
    exact ⟨k, hroute, harmed, rfl, rfl, rfl⟩
  | none =>
    have hroute := route_missing hv harmed.console hslot
    rw [harmed.pair] at hroute
    exact ⟨_, hroute, ⟨harmed.held, Console.free_logged harmed.console _ _, harmed.pair,
      harmed.timer, harmed.others⟩, rfl, rfl, rfl⟩

/-- Whatever is in the slot, serving an interrupt leaves the kernel armed. Only the timer's own
counts. -/
theorem Armed.serve (harmed : Armed timer quiet k) (hticks : Ticks service timer)
    (hquiet : Quietly service timer quiet) (frame : Frame) :
    ∃ left k', (serve service (k.dispatcher.handlers.get frame.vectorByte) frame).run k =
        .ok left k' ∧
      Armed timer quiet k' ∧ k'.bus = k.bus ∧
      k'.ticks = k.ticks + UInt64.ofNat ([frame.vectorByte].count Gate.timerVector) := by
  -- The timer's handler need not be a quiet one, so its slot is a case of its own.
  by_cases hvector : frame.vectorByte = Gate.timerVector
  · rw [hvector, harmed.timer, List.count_singleton_self]
    refine ⟨frame, { k with ticks := k.ticks + 1 }, ?_, ?_, rfl, rfl⟩
    · show (service timer frame).run k = _
      rw [hticks frame]
      rfl
    · exact ⟨harmed.held, harmed.console, harmed.pair, harmed.timer, harmed.others⟩
  · rw [List.count_singleton, beq_false_of_ne hvector]
    cases hslot : k.dispatcher.handlers.get frame.vectorByte with
    | none => exact ⟨frame, k, rfl, harmed, rfl, (UInt64.add_zero _).symm⟩
    | some handler =>
      obtain ⟨left, k', hrun, harmed', hbus, hsame⟩ :=
        hquiet handler frame k (harmed.others _ _ hvector hslot) harmed
      exact ⟨left, k', hrun, harmed', hbus, hsame.trans (UInt64.add_zero _).symm⟩

/-- One delivery by an owner. -/
theorem Armed.dispatch (harmed : Armed timer quiet k) (hticks : Ticks service timer)
    (hquiet : Quietly service timer quiet) (hv : ¬ frame.vectorByte < 32) :
    ∃ left k', (Kernel.dispatch service frame).run k = .ok (.resume, left) k' ∧
      Armed timer quiet k' ∧ Counted [frame.vectorByte] k k' := by
  obtain ⟨k1, hroute, harmed1, hhandlers, hbus1, hticks1⟩ := harmed.route hv
  obtain ⟨left, k2, hserve, harmed2, hbus2, hticks2⟩ := harmed1.serve hticks hquiet frame
  rw [hhandlers] at hserve
  obtain ⟨hcount, hmasks⟩ := count_acknowledged frame.vectorByte k2.machine
  refine ⟨left, _, run_dispatch_resume hroute hserve (acknowledge_eq _ _), ?_, ?_, ?_, ?_⟩
  · exact ⟨harmed2.held, harmed2.console, harmed2.pair, harmed2.timer, harmed2.others⟩
  · rw [← hticks1]
    exact hticks2
  · rw [← hbus1, ← hbus2]
    exact hcount
  · rw [← hbus1, ← hbus2]
    exact hmasks

/-- A shared delivery goes as an owner's. -/
theorem Armed.run_dispatchShared (harmed : Armed timer quiet k) (hticks : Ticks service timer)
    (hquiet : Quietly service timer quiet) (hv : ¬ frame.vectorByte < 32) :
    (Kernel.dispatchShared service frame).run k = (Kernel.dispatch service frame).run k := by
  apply run_dispatchShared_eq harmed.held
  intro handler line k1 left k2 hroute hserve
  -- Routing and serving have one outcome each, and that one leaves the lock free.
  obtain ⟨k1', hroute', harmed1, hhandlers, -, -⟩ := harmed.route hv
  obtain ⟨left', k2', hserve', harmed2, -, -⟩ := harmed1.serve hticks hquiet frame
  rw [hroute] at hroute'
  obtain ⟨hfound, rfl⟩ := EStateM.Result.ok.inj hroute'
  rw [hhandlers, ← (Route.run.inj hfound).1] at hserve'
  rw [Kernel.serve, hserve] at hserve'
  obtain ⟨-, rfl⟩ := EStateM.Result.ok.inj hserve'
  exact harmed2.held

omit [PortSpace M] [Wired M] in
/-- Content that a quiet caller may put into another slot than the timer's. -/
theorem Armed.amended (harmed : Armed timer quiet k) {vector : UInt8} {content : Option H}
    (hvector : vector ≠ Gate.timerVector) (hcontent : ∀ handler, content = some handler →
      quiet handler) {k' : Kernel M H E} (h : Amended vector content k k') :
    Armed timer quiet k' := by
  have hget (other : UInt8) : k'.dispatcher.handlers.get other =
      if other = vector then content else k.dispatcher.handlers.get other := by
    rw [h.dispatcher, get_withSlot]
  refine ⟨h.held.trans harmed.held, h.console, ?_, ?_, fun other handler hother hslot => ?_⟩
  · rw [h.dispatcher]
    exact harmed.pair
  · rw [hget, if_neg hvector.symm]
    exact harmed.timer
  · rw [hget] at hslot
    split at hslot
    · exact hcontent handler hslot
    · exact harmed.others other handler hother hslot

end Deliveries

/-- What happens to a running kernel: callers install and remove handlers, and interrupts are
delivered, to an owner of the dispatcher, through the shared one, or by the entry code. -/
inductive Turn (H : Type) where
  | register (vector : UInt8) (handler : H)
  | unregister (vector : UInt8)
  | dispatch (frame : Frame)
  | dispatchShared (frame : Frame)
  | deliver (frame : Frame)

namespace Turn

/-- The vectors that a turn delivers: one or none. -/
def vectors : Turn H → List UInt8
  | register _ _ | unregister _ => []
  | dispatch frame | dispatchShared frame | deliver frame => [frame.vectorByte]

/-- The timer's slot is left alone, other slots get quiet handlers only, and no delivery is that of
an exception. -/
def Allowed (quiet : H → Prop) : Turn H → Prop
  | register vector handler => vector ≠ Gate.timerVector ∧ quiet handler
  | unregister vector => vector ≠ Gate.timerVector
  | dispatch frame | dispatchShared frame | deliver frame => ¬ frame.vectorByte < 32

instance (quiet : H → Prop) [DecidablePred quiet] : DecidablePred (Allowed quiet)
  | register _ _ => inferInstanceAs (Decidable (_ ∧ _))
  | unregister _ => inferInstanceAs (Decidable (_ ≠ _))
  | dispatch _ | dispatchShared _ | deliver _ => inferInstanceAs (Decidable (¬ _))

/-- A turn, with how its delivery was disposed of. The entry code comes back to the interrupted code
only from a delivery that resumes. -/
def code (service : Service H (Kernel M H E)) : Turn H → Code (Kernel M H E) (List Disposition)
  | register vector handler => do
      Kernel.register vector handler
      return []
  | unregister vector => do
      Kernel.unregister vector
      return []
  | dispatch frame => do
      let (disposition, _) ← Kernel.dispatch service frame
      return [disposition]
  | dispatchShared frame => do
      let (disposition, _) ← Kernel.dispatchShared service frame
      return [disposition]
  | deliver frame => do
      let _ ← Kernel.deliver service frame
      return [.resume]

end Turn

/-- Turns one after the other. -/
def takeTurns (service : Service H (Kernel M H E)) :
    List (Turn H) → Code (Kernel M H E) (List Disposition)
  | [] => pure []
  | turn :: rest => do
      let first ← turn.code service
      let others ← takeTurns service rest
      return first ++ others

section Turns

variable {service : Service H (Kernel M H E)} {timer : H} {quiet : H → Prop} {k : Kernel M H E}

/-- Every turn returns with the timer still armed, a delivery resumes, and the counts have grown by
what it delivered. -/
theorem Armed.turn (harmed : Armed timer quiet k) (hticks : Ticks service timer)
    (hquiet : Quietly service timer quiet) (turn : Turn H) (hallowed : turn.Allowed quiet) :
    ∃ k', (turn.code service).run k = .ok (turn.vectors.map fun _ => .resume) k' ∧
      Armed timer quiet k' ∧ Counted turn.vectors k k' := by
  cases turn with
  | register vector handler =>
    obtain ⟨k', hrun, hamended⟩ := run_register harmed.held harmed.console vector handler
    refine ⟨k', Code.run_bind_ok hrun, ?_, counted_none hamended.machine.bus hamended.ticks⟩
    refine harmed.amended hallowed.1 (fun other hother => ?_) hamended
    cases hother
    exact hallowed.2
  | unregister vector =>
    obtain ⟨k', hrun, hamended⟩ := run_unregister harmed.held harmed.console vector
    refine ⟨k', Code.run_bind_ok hrun, ?_, counted_none hamended.machine.bus hamended.ticks⟩
    refine harmed.amended hallowed (fun other hother => ?_) hamended
    cases hother
  | dispatch frame =>
    obtain ⟨left, k', hrun, harmed', hcounted⟩ := harmed.dispatch hticks hquiet hallowed
    exact ⟨k', Code.run_bind_ok hrun, harmed', hcounted⟩
  | dispatchShared frame =>
    obtain ⟨left, k', hrun, harmed', hcounted⟩ := harmed.dispatch hticks hquiet hallowed
    rw [← harmed.run_dispatchShared hticks hquiet hallowed] at hrun
    exact ⟨k', Code.run_bind_ok hrun, harmed', hcounted⟩
  | deliver frame =>
    obtain ⟨left, k', hrun, harmed', hcounted⟩ := harmed.dispatch hticks hquiet hallowed
    rw [← harmed.run_dispatchShared hticks hquiet hallowed] at hrun
    have hdeliver : (deliver service frame).run k = .ok left k' := Code.run_bind_ok hrun
    exact ⟨k', Code.run_bind_ok hdeliver, harmed', hcounted⟩

/-- The timer stays armed through any number of turns, and each of them counts for itself. -/
theorem Armed.takeTurns (harmed : Armed timer quiet k) (hticks : Ticks service timer)
    (hquiet : Quietly service timer quiet) (turns : List (Turn H))
    (hallowed : ∀ turn ∈ turns, turn.Allowed quiet) :
    ∃ k', (Kernel.takeTurns service turns).run k =
        .ok ((turns.flatMap Turn.vectors).map fun _ => .resume) k' ∧
      Armed timer quiet k' ∧ Counted (turns.flatMap Turn.vectors) k k' := by
  induction turns generalizing k with
  | nil => exact ⟨k, rfl, harmed, counted_none rfl rfl⟩
  | cons turn rest ih =>
    obtain ⟨k1, hfirst, harmed1, hcounted1⟩ :=
      harmed.turn hticks hquiet turn (hallowed turn List.mem_cons_self)
    obtain ⟨k2, hrest, harmed2, hcounted2⟩ :=
      ih harmed1 fun other hother => hallowed other (List.mem_cons_of_mem turn hother)
    refine ⟨k2, ?_, harmed2, hcounted1.append hcounted2⟩
    rw [Kernel.takeTurns, Code.run_bind_ok hfirst, Code.run_bind_ok hrest, List.flatMap_cons,
      List.map_append]
    rfl

end Turns

end BringUp.Kernel
