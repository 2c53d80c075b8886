import BringUp.Proofs.Kernel.Fatal
import BringUp.Proofs.Kernel.HandlerTable

/-!
# Routing and what went before

An owner registers handlers, removes them and delivers interrupts, in any order. Where a delivery
goes is settled by what went before it: to the handler registered last on its vector, unless that
one was removed since, and to nobody if the vector is an exception. The handler table and the
count of missed deliveries say the same about the past at any time.
-/

namespace BringUp.Kernel

set_option autoImplicit false

variable {M H E : Type}

inductive Event (H : Type) where
  | register (vector : UInt8) (handler : H)
  | unregister (vector : UInt8)
  | dispatch (frame : Frame)

/-- What went before, the latest first. -/
abbrev History (H : Type) := List (Event H)

/-- Whether an event decides what is registered on a vector. -/
def Event.Settles (vector : UInt8) : Event H → Prop
  | register other _ | unregister other => other = vector
  | dispatch _ => False

namespace History

/-- The handler was the last to be registered on the vector and has not been removed since. -/
def InForce (history : History H) (vector : UInt8) (handler : H) : Prop :=
  ∃ later earlier, history = later ++ .register vector handler :: earlier ∧
    ∀ event ∈ later, ¬ event.Settles vector

/-- The handler in force on a vector, if there is one. -/
def current (vector : UInt8) : History H → Option H
  | [] => none
  | .register other handler :: earlier =>
      if other = vector then some handler else current vector earlier
  | .unregister other :: earlier => if other = vector then none else current vector earlier
  | .dispatch _ :: earlier => current vector earlier

end History

/-- The call that an event leads to: a handler and the frame it is given. -/
def Event.call (earlier : History H) : Event H → Option (H × Frame)
  | register _ _ | unregister _ => none
  | dispatch frame =>
      if frame.vectorByte < 32 then none
      else (earlier.current frame.vectorByte).map fun handler => (handler, frame)

/-- Whether an event is a delivery that looks for a handler and finds none. -/
def Event.misses (earlier : History H) : Event H → Bool
  | register _ _ | unregister _ => false
  | dispatch frame =>
      decide (¬ frame.vectorByte < 32) && (earlier.current frame.vectorByte).isNone

namespace History

/-- The calls that a history has led to, in the order in which they came. -/
def calls : History H → List (H × Frame)
  | [] => []
  | event :: earlier => calls earlier ++ (event.call earlier).toList

def missed : History H → Nat
  | [] => 0
  | event :: earlier => missed earlier + (event.misses earlier).toNat

theorem inForce_cons_of_settles {event : Event H} {earlier : History H} {vector : UInt8}
    {handler : H} (hs : event.Settles vector) :
    InForce (event :: earlier) vector handler ↔ event = .register vector handler := by
  constructor
  · rintro ⟨later, before, heq, hlater⟩
    cases later with
    | nil => exact (List.cons.inj heq).1
    | cons first rest =>
      obtain rfl := (List.cons.inj heq).1
      exact absurd hs (hlater event List.mem_cons_self)
  · rintro rfl
    exact ⟨[], earlier, rfl, by simp⟩

theorem inForce_cons_of_not_settles {event : Event H} {earlier : History H} {vector : UInt8}
    {handler : H} (hs : ¬ event.Settles vector) :
    InForce (event :: earlier) vector handler ↔ InForce earlier vector handler := by
  constructor
  · rintro ⟨later, before, heq, hlater⟩
    cases later with
    | nil =>
      obtain rfl := (List.cons.inj heq).1
      exact absurd rfl hs
    | cons first rest =>
      exact ⟨rest, before, (List.cons.inj heq).2,
        fun other hother => hlater other (List.mem_cons_of_mem first hother)⟩
  · rintro ⟨later, before, rfl, hlater⟩
    exact ⟨event :: later, before, rfl, List.forall_mem_cons.mpr ⟨hs, hlater⟩⟩

theorem current_eq_some_iff (history : History H) (vector : UInt8) (handler : H) :
    history.current vector = some handler ↔ history.InForce vector handler := by
  induction history with
  | nil => simp [current, InForce]
  | cons event earlier ih =>
    by_cases hs : event.Settles vector
    · rw [inForce_cons_of_settles hs]
      cases event with
      | register other handler' =>
        obtain rfl : other = vector := hs
        simp [current]
      | unregister other =>
        obtain rfl : other = vector := hs
        simp [current]
      | dispatch frame => exact hs.elim
    · rw [inForce_cons_of_not_settles hs, ← ih]
      cases event with
      | register other handler' =>
        have hne : other ≠ vector := hs
        rw [current, if_neg hne]
      | unregister other =>
        have hne : other ≠ vector := hs
        rw [current, if_neg hne]
      | dispatch frame => rw [current]

end History

section Handlers

variable (service : Service H (Kernel M H E))

/-- Handlers that return, with the dispatcher left to its owner and nobody left printing. -/
def Returning : Prop :=
  ∀ (handler : H) (frame : Frame) (k : Kernel M H E), k.console.Free →
    ∃ left k', (service handler frame).run k = .ok left k' ∧
      k'.dispatcher = k.dispatcher ∧ k'.console.Free

/-- A diary in which each handler enters itself and the frame it was called with. -/
def Diary (diary : E → List (H × Frame)) : Prop :=
  ∀ (handler : H) (frame left : Frame) (k k' : Kernel M H E),
    (service handler frame).run k = .ok left k' → diary k'.own = diary k.own ++ [(handler, frame)]

variable {service}

theorem Returning.of_run (hreturning : Returning service) {k k' : Kernel M H E}
    (hfree : k.console.Free) {handler : H} {frame left : Frame}
    (hran : (service handler frame).run k = .ok left k') :
    k'.dispatcher = k.dispatcher ∧ k'.console.Free := by
  obtain ⟨left', between, hran', hdispatcher, hconsole⟩ := hreturning handler frame k hfree
  rw [hran] at hran'
  cases hran'
  exact ⟨hdispatcher, hconsole⟩

end Handlers

section Memory

variable {history : History H} {k : Kernel M H E}

/-- What holds of a kernel after a history. -/
structure Follows (history : History H) (k : Kernel M H E) : Prop where
  get : ∀ vector, k.dispatcher.handlers.get vector = history.current vector
  unhandled : k.dispatcher.unhandled = UInt64.ofNat history.missed
  console : k.console.Free

/-- What can be asked of a dispatcher is settled by the history. -/
structure Remembers (history : History H) (k : Kernel M H E) : Prop where
  get : ∀ vector handler,
    k.dispatcher.handlers.get vector = some handler ↔ history.InForce vector handler
  /-- One list of vectors, in increasing order, is both what is shown and what is counted. -/
  listed : ∃ vectors : List UInt8, vectors.Pairwise (· < ·) ∧
    (∀ vector, vector ∈ vectors ↔ ∃ handler, history.InForce vector handler) ∧
    k.dispatcher.handlers.outline = .sequence (vectors.map fun vector => .number vector.toNat) ∧
    k.dispatcher.handlers.count = vectors.length
  unhandled : history.missed < 0x10000000000000000 → k.dispatcher.unhandled.toNat = history.missed

theorem Follows.remembers (h : Follows history k) : Remembers history k := by
  have hget (vector : UInt8) (handler : H) :
      k.dispatcher.handlers.get vector = some handler ↔ history.InForce vector handler := by
    rw [h.get, History.current_eq_some_iff]
  refine ⟨hget, ⟨k.dispatcher.handlers.vectors, ?_, fun vector => ?_, ?_, ?_⟩, fun hlt => ?_⟩
  · exact HandlerTable.pairwise_vectors _
  · rw [HandlerTable.mem_vectors, Option.isSome_iff_exists]
    exact exists_congr (hget vector)
  · exact HandlerTable.outline_eq _
  · exact HandlerTable.count_eq _
  · rw [h.unhandled]
    exact UInt64.toNat_ofNat_of_lt' hlt

end Memory

variable [Cpu M] [PortSpace M]

section Events

variable (service : Service H (Kernel M H E))

def Event.code : Event H → Code (Kernel M H E) Unit
  | register vector handler => Code.atomic (addHandler vector handler)
  | unregister vector => Code.atomic (removeHandler vector)
  | dispatch frame => do
      let _ ← Kernel.dispatch service frame

def History.code : History H → Code (Kernel M H E) Unit
  | [] => pure ()
  | event :: earlier => do
      History.code earlier
      event.code service

/-- How a delivery goes when `found` is registered on its vector, by how it comes back and the
kernel it leaves. -/
inductive Goes (found : Option H) (frame : Frame) (k : Kernel M H E) :
    Disposition × Frame → Kernel M H E → Prop where
  | halted {report : Exception.Report} {k' : Kernel M H E} (exception : frame.vectorByte < 32)
      (after : Reported report frame k k') : Goes found frame k (.halt report, frame) k'
  | unhandled (ordinary : ¬ frame.vectorByte < 32) (empty : found = none) :
      Goes found frame k (.resume, frame)
        { k.missed frame.vectorByte with
          machine := machineAcknowledged (k.dispatcher.pair.lineFor frame.vectorByte) k.machine }
  /-- The handler is called once, with the frame as it came. -/
  | handled {handler : H} {left : Frame} {between : Kernel M H E}
      (ordinary : ¬ frame.vectorByte < 32) (registered : found = some handler)
      (ran : (service handler frame).run k = .ok left between) :
      Goes found frame k (.resume, left)
        { between with
          machine :=
            machineAcknowledged (k.dispatcher.pair.lineFor frame.vectorByte) between.machine }

end Events

section Step

variable {service : Service H (Kernel M H E)} {history : History H} {k k' : Kernel M H E}

/-- Each delivery by an owner goes the way that the handler table says. -/
theorem dispatch_goes (hreturning : Returning service) (hfree : k.console.Free) (frame : Frame) :
    ∃ outcome k', (dispatch service frame).run k = .ok outcome k' ∧
      Goes service (k.dispatcher.handlers.get frame.vectorByte) frame k outcome k' := by
  by_cases hv : frame.vectorByte < 32
  · obtain ⟨report, hr⟩ := Exception.Report.classify_eq_some hv (k.faultRead frame).1
    exact ⟨_, _, run_dispatch_halt (route_exception hr), .halted hv (reported_reported hr)⟩
  · cases hslot : k.dispatcher.handlers.get frame.vectorByte with
    | none =>
      have hroute := route_missing hv hfree hslot
      exact ⟨_, _, run_dispatch_resume hroute rfl (acknowledge_eq _ _), .unhandled hv rfl⟩
    | some handler =>
      obtain ⟨left, between, hran, -, -⟩ := hreturning handler frame k hfree
      have hroute := route_found hv hslot
      exact ⟨_, _, run_dispatch_resume hroute hran (acknowledge_eq _ _), .handled hv rfl hran⟩

variable {frame : Frame} {outcome : Disposition × Frame}

theorem Goes.follows (hreturning : Returning service) (h : Follows history k)
    (hgoes : Goes service (history.current frame.vectorByte) frame k outcome k') :
    Follows (.dispatch frame :: history) k' := by
  cases hgoes with
  | @halted report _ exception after =>
    have hmissed : Event.misses history (.dispatch frame) = false := by
      simp [Event.misses, exception]
    refine ⟨?_, ?_, ?_⟩
    · rw [after.dispatcher]
      exact h.get
    · rw [after.dispatcher, h.unhandled, History.missed, hmissed]
      rfl
    · rw [after.console]
      exact ⟨h.console.record, h.console.port⟩
  | unhandled ordinary empty =>
    have hmissed : Event.misses history (.dispatch frame) = true := by
      simp [Event.misses, ordinary, empty]
    refine ⟨h.get, ?_, Console.free_logged h.console _ _⟩
    show k.dispatcher.unhandled + 1 = _
    rw [h.unhandled, History.missed, hmissed, UInt64.ofNat_add]
    rfl
  | handled ordinary registered ran =>
    have hmissed : Event.misses history (.dispatch frame) = false := by
      simp [Event.misses, registered]
    obtain ⟨hdispatcher, hconsole⟩ := hreturning.of_run h.console ran
    refine ⟨?_, ?_, hconsole⟩
    · rw [hdispatcher]
      exact h.get
    · rw [hdispatcher, h.unhandled, History.missed, hmissed]
      rfl

theorem Goes.diary {diary : E → List (H × Frame)} (hdiary : Diary service diary)
    (hgoes : Goes service (history.current frame.vectorByte) frame k outcome k') :
    diary k'.own = diary k.own ++ (Event.call history (.dispatch frame)).toList := by
  cases hgoes with
  | @halted report _ exception after =>
    rw [after.own, Event.call, if_pos exception, Option.toList_none, List.append_nil]
  | unhandled ordinary empty =>
    rw [Event.call, if_neg ordinary, empty, Option.map_none, Option.toList_none, List.append_nil]
    rfl
  | handled ordinary registered ran =>
    rw [Event.call, if_neg ordinary, registered, Option.map_some, Option.toList_some]
    have hentry := hdiary _ _ _ _ _ ran
    exact hentry

/-- One more event goes as the history says, and leaves a kernel that follows the longer one. -/
theorem Follows.event (hreturning : Returning service) (h : Follows history k) (event : Event H) :
    ∃ k', (event.code service).run k = .ok () k' ∧ Follows (event :: history) k' ∧
      ∀ diary : E → List (H × Frame), Diary service diary →
        diary k'.own = diary k.own ++ (event.call history).toList := by
  cases event with
  | register vector handler =>
    refine ⟨k.added vector handler, ?_, ⟨fun other => ?_, h.unhandled, ?_⟩, fun diary _ => ?_⟩
    · exact (Code.run_atomic _ _).trans (addHandler_free h.console vector handler)
    · show (k.dispatcher.handlers.put vector (some handler)).get other = _
      rw [HandlerTable.get_put, h.get, History.current]
      simp only [eq_comm]
    · exact free_consoleAdded h.console _ _
    · exact (List.append_nil _).symm
  | unregister vector =>
    refine ⟨k.withSlot vector none, ?_, ⟨fun other => ?_, h.unhandled, h.console⟩, fun diary _ => ?_⟩
    · exact (Code.run_atomic _ _).trans (removeHandler_eq vector k)
    · show (k.dispatcher.handlers.put vector none).get other = _
      rw [HandlerTable.get_put, h.get, History.current]
      simp only [eq_comm]
    · exact (List.append_nil _).symm
  | dispatch frame =>
    obtain ⟨outcome, k', hrun, hgoes⟩ := dispatch_goes hreturning h.console frame
    rw [h.get] at hgoes
    refine ⟨k', ?_, hgoes.follows hreturning h, fun diary hdiary => hgoes.diary hdiary⟩
    exact Code.run_bind_ok hrun

theorem run_history (hreturning : Returning service) {pair : Controller.Pair}
    (hfresh : k.dispatcher = .ofPair pair) (hfree : k.console.Free) (history : History H) :
    ∃ k', (history.code service).run k = .ok () k' ∧ Follows history k' ∧
      ∀ diary : E → List (H × Frame), Diary service diary →
        diary k'.own = diary k.own ++ history.calls := by
  -- The latest event comes last, so the induction is on what went before it.
  induction history with
  | nil =>
    refine ⟨k, rfl, ⟨fun vector => ?_, ?_, hfree⟩, fun diary _ => (List.append_nil _).symm⟩
    · rw [hfresh]
      exact HandlerTable.get_empty vector
    · rw [hfresh]
      rfl
  | cons event earlier ih =>
    obtain ⟨k1, hrun1, hfollows, hdiary1⟩ := ih
    obtain ⟨k2, hrun2, hfollows2, hdiary2⟩ := hfollows.event hreturning event
    refine ⟨k2, ?_, hfollows2, fun diary hdiary => ?_⟩
    · rw [History.code, Code.run_bind_ok hrun1, hrun2]
    · rw [hdiary2 diary hdiary, hdiary1 diary hdiary, List.append_assoc, History.calls]

/-- From a fresh dispatcher, any history comes to pass. Afterwards the dispatcher remembers it,
handlers have been called as it says and not otherwise, the next registration notes an exception
vector and a replaced handler and nothing else, and the next delivery goes to the handler in
force. -/
theorem routing_follows_history (hreturning : Returning service) {pair : Controller.Pair}
    (hfresh : k.dispatcher = .ofPair pair) (hfree : k.console.Free) (history : History H) :
    ∃ k', (history.code service).run k = .ok () k' ∧ Remembers history k' ∧
      (∀ diary : E → List (H × Frame), Diary service diary →
        diary k'.own = diary k.own ++ history.calls) ∧
      (∀ vector handler, ∃ k'', (Event.code service (.register vector handler)).run k' = .ok () k'' ∧
        k''.console =
          (k'.console.loggedIf (vector < 32) .warn
            ("Handler registered on exception vector " ++ toString vector ++
              "; exceptions are always fatal")).loggedIf
            (history.current vector).isSome .debug
              ("Replaced handler for vector " ++ toString vector)) ∧
      ∀ frame, ∃ outcome k'', (dispatch service frame).run k' = .ok outcome k'' ∧
        Goes service (history.current frame.vectorByte) frame k' outcome k'' := by
  obtain ⟨k', hrun, hfollows, hdiary⟩ := run_history hreturning hfresh hfree history
  refine ⟨k', hrun, hfollows.remembers, hdiary, fun vector handler => ?_, fun frame => ?_⟩
  · refine ⟨k'.added vector handler, ?_, ?_⟩
    · exact (Code.run_atomic _ _).trans (addHandler_free hfollows.console vector handler)
    · rw [← hfollows.get vector]
      rfl
  · rw [← hfollows.get frame.vectorByte]
    exact dispatch_goes hreturning hfollows.console frame

/-- Handlers that enter themselves into a diary and change the frame. -/
def entering : Service Bool (Kernel Bench Bool (List (Bool × Frame))) := fun handler frame => do
  Code.change fun k => { k with own := k.own ++ [(handler, frame)] }
  return { frame with eax := 1, vector := 200 }

theorem returning_entering : Returning entering :=
  fun _ _ _ hfree => ⟨_, _, rfl, rfl, hfree⟩

theorem diary_entering : Diary entering id := by
  intro handler frame left k k' h
  cases h
  rfl

/-- The second of two handlers on one vector is called until it is removed; the one on an
exception vector never is. -/
theorem entering_follows :
    ∃ k', (History.code entering
        [.dispatch (.ofVector 34), .unregister 34, .dispatch (.ofVector 34), .dispatch (.ofVector 6),
          .register 6 true, .register 34 false, .register 34 true]).run
            (start Bench.reset .default []) = .ok () k' ∧
      k'.own = [(false, .ofVector 34)] ∧ k'.dispatcher.unhandled.toNat = 1 := by
  obtain ⟨k', hrun, hremembers, hdiary, -⟩ := routing_follows_history
    (k := start Bench.reset .default []) returning_entering rfl Console.free_ready
    [.dispatch (.ofVector 34), .unregister 34, .dispatch (.ofVector 34), .dispatch (.ofVector 6),
      .register 6 true, .register 34 false, .register 34 true]
  refine ⟨k', hrun, ?_, ?_⟩
  · exact (hdiary id diary_entering).trans (by decide)
  · exact (hremembers.unhandled (by decide)).trans (by decide)

end Step

end BringUp.Kernel
