import BringUp.Proofs.Kernel.Delivery

/-!
# Acknowledgement over whole runs

Callers install and remove handlers and deliver interrupts in any order. Handlers may change the
frame they were given and the very table they were found in. What reaches the controllers is
nevertheless fixed in advance: each delivery adds the bytes that acknowledge the vector it came
in with, after its handler, and nothing else is ever written.
-/

namespace BringUp.Kernel

set_option autoImplicit false

open Controller (acknowledgement Bus)

variable {H E : Type}

/-- Nobody holds a lock. -/
structure Idle (k : Kernel Bench H E) : Prop where
  dispatcher : k.held = false
  console : k.console.Free

/-- What a handler must leave as it was: the controllers, their ranges and the dispatcher's lock.
Nobody may be left printing. -/
structure Unobtrusive (before after : Kernel Bench H E) : Prop where
  bus : after.machine.bus = before.machine.bus
  pair : after.dispatcher.pair = before.dispatcher.pair
  held : after.held = before.held
  console : after.console.Free

/-- Handlers that return unobtrusively when they are called with the dispatcher `taken` or not.
They may change their frame in any way, and the handler table too. -/
def Courteous (service : Service H (Kernel Bench H E)) (taken : Bool) : Prop :=
  ∀ (handler : H) (frame : Frame) (k : Kernel Bench H E), k.held = taken → k.console.Free →
    ∃ left k', (service handler frame).run k = .ok left k' ∧ Unobtrusive k k'

/-- What callers ask of a dispatcher behind its lock. -/
inductive Request (H : Type) where
  | register (vector : UInt8) (handler : H)
  | unregister (vector : UInt8)
  /-- A delivery by an owner who needs no lock. -/
  | dispatch (frame : Frame)
  /-- A delivery by an owner who keeps the lock throughout. -/
  | dispatchLocked (frame : Frame)
  /-- A delivery that gives up the lock while the handler runs. -/
  | dispatchShared (frame : Frame)

namespace Request

variable (service : Service H (Kernel Bench H E))

def code : Request H → Code (Kernel Bench H E) Unit
  | register vector handler => exclusively (Code.atomic (addHandler vector handler))
  | unregister vector => exclusively (Code.atomic (removeHandler vector))
  | dispatch frame => do
      let _ ← Kernel.dispatch service frame
  | dispatchLocked frame => do
      let _ ← exclusively (Kernel.dispatch service frame)
  | dispatchShared frame => do
      let _ ← Kernel.dispatchShared service frame

/-- The handlers cope with how this request calls them. -/
def Served : Request H → Prop
  | register _ _ | unregister _ => True
  | dispatch _ | dispatchShared _ => Courteous service false
  | dispatchLocked _ => Courteous service true

/-- The bytes that acknowledge what a request delivers. -/
def bytes (master slave : UInt8) : Request H → List (UInt16 × UInt8)
  | register _ _ | unregister _ => []
  | dispatch frame | dispatchLocked frame | dispatchShared frame =>
      acknowledgement master slave frame.vectorByte

end Request

/-- Requests one after the other. -/
def performAll (service : Service H (Kernel Bench H E)) :
    List (Request H) → Code (Kernel Bench H E) Unit
  | [] => pure ()
  | request :: rest => do
      request.code service
      performAll service rest

/-- The kernel once the bytes that acknowledge `vector` have been written. -/
def acknowledged (vector : UInt8) (k : Kernel Bench H E) : Kernel Bench H E :=
  { k with
    machine := { k.machine with
      bus := k.machine.bus.writeAll
        (acknowledgement k.dispatcher.pair.master k.dispatcher.pair.slave vector) } }

/-- How a delivery went from `k` to `k'`, with the dispatcher `taken` or not while the handler
ran. -/
inductive Delivered (service : Service H (Kernel Bench H E)) (taken : Bool) (frame : Frame)
    (k k' : Kernel Bench H E) : Prop where
  /-- An exception was reported. -/
  | halted (report : Exception.Report) (exception : frame.vectorByte < 32)
      (after : k' = { k with console := consoleReported report frame k.console })
  /-- There was no handler, and the vector was acknowledged all the same. -/
  | unhandled (ordinary : ¬ frame.vectorByte < 32)
      (slot : k.dispatcher.handlers.get frame.vectorByte = none)
      (after : k' = (k.missed frame.vectorByte).acknowledged frame.vectorByte)
  /-- The handler ran on untouched controllers, and the vector was acknowledged once it had
  returned. -/
  | handled (handler : H) (left : Frame) (between : Kernel Bench H E)
      (ordinary : ¬ frame.vectorByte < 32)
      (slot : k.dispatcher.handlers.get frame.vectorByte = some handler)
      (ran : (service handler frame).run { k with held := taken } = .ok left between)
      (quiet : Unobtrusive { k with held := taken } between)
      (after : k' = { between.acknowledged frame.vectorByte with held := false })

/-- How a request went from `k` to `k'`. -/
def Request.Went (service : Service H (Kernel Bench H E)) (k k' : Kernel Bench H E) :
    Request H → Prop
  | .register vector handler => k' = k.added vector handler
  | .unregister vector => k' = k.withSlot vector none
  | .dispatch frame | .dispatchShared frame => Delivered service false frame k k'
  | .dispatchLocked frame => Delivered service true frame k k'

/-- How requests went one after the other. -/
inductive Trail (service : Service H (Kernel Bench H E)) :
    List (Request H) → Kernel Bench H E → Kernel Bench H E → Prop where
  | nil (k : Kernel Bench H E) : Trail service [] k k
  | cons {request : Request H} {rest : List (Request H)} {k k1 k' : Kernel Bench H E}
      (first : request.Went service k k1) (others : Trail service rest k1 k') :
      Trail service (request :: rest) k k'

section Parts

variable {service : Service H (Kernel Bench H E)} {frame : Frame} {k k' : Kernel Bench H E}

/-- The line that was found for a vector is acknowledged with the bytes of its range. -/
theorem acknowledge_lineFor {vector : UInt8} (hv : ¬ vector < 32) (k : Kernel Bench H E) :
    acknowledge (k.dispatcher.pair.lineFor vector) k = .ok () (k.acknowledged vector) := by
  unfold acknowledged acknowledgement
  rw [if_neg hv]
  by_cases hm : Controller.Covers k.dispatcher.pair.master vector
  · obtain ⟨line, hline, hlt⟩ := Controller.Pair.lineFor_of_master hm
    rw [if_pos hm, hline]
    have hn : ¬ Controller.linesPerChip ≤ line := by
      rw [UInt8.not_le]
      exact hlt
    show Controller.Pair.endOfInterrupt line k = _
    rw [Controller.Pair.endOfInterrupt, if_neg hn]
    rfl
  · rw [if_neg hm]
    by_cases hs : Controller.Covers k.dispatcher.pair.slave vector
    · obtain ⟨line, hline, hle⟩ := Controller.Pair.lineFor_of_slave hm hs
      rw [if_pos hs, hline]
      show Controller.Pair.endOfInterrupt line k = _
      rw [Controller.Pair.endOfInterrupt, if_pos hle]
      rfl
    · rw [if_neg hs, Controller.Pair.lineFor_of_neither hm hs]
      rfl

/-- Reading the fault address leaves the bench as it is. -/
theorem faultRead_bench (frame : Frame) (k : Kernel Bench H E) : (k.faultRead frame).2 = k := by
  unfold faultRead
  split <;> rfl

/-- The first part of a delivery on the bench: an exception, a vector without a handler, or a
handler to run. -/
theorem route_cases (hfree : k.console.Free) (frame : Frame) :
    (∃ report, frame.vectorByte < 32 ∧
      route frame k =
        .ok (.halt report) { k with console := consoleReported report frame k.console }) ∨
    (¬ frame.vectorByte < 32 ∧ k.dispatcher.handlers.get frame.vectorByte = none ∧
      route frame k =
        .ok (.run none (k.dispatcher.pair.lineFor frame.vectorByte))
          (k.missed frame.vectorByte)) ∨
    (∃ handler, ¬ frame.vectorByte < 32 ∧
      k.dispatcher.handlers.get frame.vectorByte = some handler ∧
      route frame k =
        .ok (.run (some handler) (k.dispatcher.pair.lineFor frame.vectorByte)) k) := by
  by_cases hv : frame.vectorByte < 32
  · obtain ⟨report, hr⟩ := Exception.Report.classify_eq_some hv (k.faultRead frame).1
    have hroute := route_exception hr
    rw [faultRead_bench] at hroute
    exact .inl ⟨report, hv, hroute⟩
  · cases hh : k.dispatcher.handlers.get frame.vectorByte with
    | none => exact .inr (.inl ⟨hv, rfl, route_missing hv hfree hh⟩)
    | some handler => exact .inr (.inr ⟨handler, hv, rfl, route_found hv hh⟩)

/-- The last part of a delivery, whatever its handler made of the handler table. -/
theorem acknowledge_after {vector : UInt8} (hv : ¬ vector < 32) {pair : Controller.Pair}
    {after : Kernel Bench H E} (hpair : after.dispatcher.pair = pair) :
    acknowledge (pair.lineFor vector) after = .ok () (after.acknowledged vector) := by
  rw [← hpair]
  exact acknowledge_lineFor hv after

end Parts

section Deliveries

variable {service : Service H (Kernel Bench H E)} {k : Kernel Bench H E}

/-- An owner's delivery, with the lock free or kept. -/
theorem dispatch_delivers (hfree : k.console.Free) (hcourteous : Courteous service k.held)
    (frame : Frame) :
    ∃ outcome k', (dispatch service frame).run k = .ok outcome k' ∧
      Delivered service k.held frame k.release k'.release ∧ k'.held = k.held := by
  rcases route_cases hfree frame with
    ⟨report, hv, hroute⟩ | ⟨hv, hslot, hroute⟩ | ⟨handler, hv, hslot, hroute⟩
  · exact ⟨_, _, run_dispatch_halt hroute, .halted report hv rfl, rfl⟩
  · have hack : acknowledge (k.dispatcher.pair.lineFor frame.vectorByte)
        (k.missed frame.vectorByte) = .ok () ((k.missed frame.vectorByte).acknowledged
          frame.vectorByte) := acknowledge_after hv rfl
    exact ⟨_, _, run_dispatch_resume hroute rfl hack, .unhandled hv hslot rfl, rfl⟩
  · obtain ⟨left, between, hran, hquiet⟩ := hcourteous handler frame k rfl hfree
    have hack := acknowledge_after hv hquiet.pair
    exact ⟨_, _, run_dispatch_resume hroute hran hack,
      .handled handler left between hv hslot hran hquiet rfl, hquiet.held⟩

/-- A delivery through the shared dispatcher. -/
theorem dispatchShared_delivers (hidle : k.Idle) (hcourteous : Courteous service false)
    (frame : Frame) :
    ∃ outcome k', (dispatchShared service frame).run k = .ok outcome k' ∧
      Delivered service false frame k k' := by
  obtain ⟨system, dispatcher, held, ticks, own⟩ := k
  obtain rfl : held = false := hidle.dispatcher
  rcases route_cases (k := hold ⟨system, dispatcher, false, ticks, own⟩) hidle.console frame with
    ⟨report, hv, hroute⟩ | ⟨hv, hslot, hroute⟩ | ⟨handler, hv, hslot, hroute⟩
  · exact ⟨_, _, run_dispatchShared_halt rfl hroute, .halted report hv rfl⟩
  · exact ⟨_, _, run_dispatchShared_resume rfl hroute rfl rfl (acknowledge_after hv rfl),
      .unhandled hv hslot rfl⟩
  · obtain ⟨left, between, hran, hquiet⟩ := hcourteous handler frame _ rfl hidle.console
    have hpair : between.hold.dispatcher.pair = dispatcher.pair := hquiet.pair
    have hack := acknowledge_after hv hpair
    exact ⟨_, _, run_dispatchShared_resume rfl hroute hran hquiet.held hack,
      .handled handler left between hv hslot hran hquiet rfl⟩

end Deliveries

section Requests

variable {service : Service H (Kernel Bench H E)} {k k' : Kernel Bench H E}

/-- Every request is carried out, and in the way it should. -/
theorem run_request (hidle : k.Idle) (request : Request H) (hserved : request.Served service) :
    ∃ k', (request.code service).run k = .ok () k' ∧ request.Went service k k' := by
  obtain ⟨system, dispatcher, held, ticks, own⟩ := k
  obtain rfl : held = false := hidle.dispatcher
  cases request with
  | register vector handler =>
    have hadd : (Code.atomic (addHandler vector handler)).run
          (hold ⟨system, dispatcher, false, ticks, own⟩) =
        .ok () (added vector handler (hold ⟨system, dispatcher, false, ticks, own⟩)) := by
      rw [Code.run_atomic]
      exact addHandler_free (k := hold _) hidle.console vector handler
    exact ⟨_, run_exclusively rfl hadd, rfl⟩
  | unregister vector =>
    exact ⟨_, run_exclusively rfl (Code.run_atomic _ _), rfl⟩
  | dispatch frame =>
    obtain ⟨outcome, k', hrun, hwent, hheld⟩ :=
      dispatch_delivers (k := ⟨system, dispatcher, false, ticks, own⟩) hidle.console hserved frame
    rw [release_of_free hheld] at hwent
    exact ⟨k', Code.run_bind_ok hrun, hwent⟩
  | dispatchLocked frame =>
    obtain ⟨outcome, k', hrun, hwent, -⟩ :=
      dispatch_delivers (k := hold ⟨system, dispatcher, false, ticks, own⟩) hidle.console hserved
        frame
    exact ⟨k'.release, Code.run_bind_ok (run_exclusively rfl hrun), hwent⟩
  | dispatchShared frame =>
    obtain ⟨outcome, k', hrun, hwent⟩ := dispatchShared_delivers hidle hserved frame
    exact ⟨k', Code.run_bind_ok hrun, hwent⟩

theorem Delivered.idle {taken : Bool} {frame : Frame}
    (hwent : Delivered service taken frame k k') (hidle : k.Idle) : k'.Idle := by
  cases hwent with
  | halted report _ after =>
    rw [after]
    exact ⟨hidle.dispatcher, free_consoleReported hidle.console report frame⟩
  | unhandled _ _ after =>
    rw [after]
    exact ⟨hidle.dispatcher, Console.free_logged hidle.console _ _⟩
  | handled _ _ between _ _ _ quiet after =>
    rw [after]
    exact ⟨rfl, quiet.console⟩

theorem Delivered.pair {taken : Bool} {frame : Frame}
    (hwent : Delivered service taken frame k k') : k'.dispatcher.pair = k.dispatcher.pair := by
  cases hwent with
  | halted _ _ after => rw [after]
  | unhandled _ _ after => rw [after]; rfl
  | handled _ _ _ _ _ _ quiet after => rw [after]; exact quiet.pair

theorem Delivered.bus {taken : Bool} {frame : Frame}
    (hwent : Delivered service taken frame k k') :
    k'.machine.bus = k.machine.bus.writeAll
      (acknowledgement k.dispatcher.pair.master k.dispatcher.pair.slave frame.vectorByte) := by
  cases hwent with
  | halted _ exception after =>
    rw [after, acknowledgement, if_pos exception]
    rfl
  | unhandled _ _ after =>
    rw [after]
    rfl
  | handled _ _ between _ _ _ quiet after =>
    have hbus : between.machine.bus = k.machine.bus := quiet.bus
    have hpair : between.dispatcher.pair = k.dispatcher.pair := quiet.pair
    rw [after, ← hbus, ← hpair]
    rfl

/-- No request leaves a lock held. -/
theorem Request.Went.idle {request : Request H} (hwent : request.Went service k k')
    (hidle : k.Idle) : k'.Idle := by
  cases request with
  | register vector handler =>
    obtain rfl : k' = k.added vector handler := hwent
    exact ⟨hidle.dispatcher, free_consoleAdded hidle.console _ _⟩
  | unregister vector =>
    obtain rfl : k' = k.withSlot vector none := hwent
    exact ⟨hidle.dispatcher, hidle.console⟩
  | dispatch frame => exact Delivered.idle hwent hidle
  | dispatchLocked frame => exact Delivered.idle hwent hidle
  | dispatchShared frame => exact Delivered.idle hwent hidle

/-- The ranges stay where they are. -/
theorem Request.Went.pair {request : Request H} (hwent : request.Went service k k') :
    k'.dispatcher.pair = k.dispatcher.pair := by
  cases request with
  | register vector handler =>
    obtain rfl : k' = k.added vector handler := hwent
    rfl
  | unregister vector =>
    obtain rfl : k' = k.withSlot vector none := hwent
    rfl
  | dispatch frame => exact Delivered.pair hwent
  | dispatchLocked frame => exact Delivered.pair hwent
  | dispatchShared frame => exact Delivered.pair hwent

/-- A request writes the bytes that acknowledge what it delivers. -/
theorem Request.Went.bus {request : Request H} (hwent : request.Went service k k') :
    k'.machine.bus = k.machine.bus.writeAll
      (request.bytes k.dispatcher.pair.master k.dispatcher.pair.slave) := by
  cases request with
  | register vector handler =>
    obtain rfl : k' = k.added vector handler := hwent
    rfl
  | unregister vector =>
    obtain rfl : k' = k.withSlot vector none := hwent
    rfl
  | dispatch frame => exact Delivered.bus hwent
  | dispatchLocked frame => exact Delivered.bus hwent
  | dispatchShared frame => exact Delivered.bus hwent

theorem sameSetUp_bytes (bus : Bus) (master slave : UInt8) (request : Request H) :
    Bus.SameSetUp bus (bus.writeAll (request.bytes master slave)) := by
  cases request with
  | register vector handler => exact .refl bus
  | unregister vector => exact .refl bus
  | dispatch frame => exact Bus.sameSetUp_writeAll bus master slave _
  | dispatchLocked frame => exact Bus.sameSetUp_writeAll bus master slave _
  | dispatchShared frame => exact Bus.sameSetUp_writeAll bus master slave _

/-- Requests in a row are carried out one after the other. -/
theorem run_performAll (requests : List (Request H)) (hidle : k.Idle)
    (hserved : ∀ request ∈ requests, request.Served service) :
    ∃ k', (performAll service requests).run k = .ok () k' ∧ Trail service requests k k' := by
  induction requests generalizing k with
  | nil => exact ⟨k, rfl, .nil k⟩
  | cons request rest ih =>
    obtain ⟨k1, hrun, hwent⟩ := run_request hidle request (hserved request List.mem_cons_self)
    obtain ⟨k', hrest, htrail⟩ := ih (hwent.idle hidle)
      fun other hother => hserved other (List.mem_cons_of_mem request hother)
    refine ⟨k', ?_, .cons hwent htrail⟩
    rw [performAll, Code.run_bind_ok hrun, hrest]

/-- What a trail has written is settled by the vectors that came in. -/
theorem Trail.bus {requests : List (Request H)} (htrail : Trail service requests k k') :
    k'.machine.bus.log = k.machine.bus.log ++
        (requests.flatMap (Request.bytes k.dispatcher.pair.master k.dispatcher.pair.slave)).map
          (fun byte => .write byte.1 byte.2) ∧
      Bus.SameSetUp k.machine.bus k'.machine.bus := by
  induction htrail with
  | nil k => exact ⟨by simp, .refl _⟩
  | cons first others ih =>
    obtain ⟨hlog, hsame⟩ := ih
    rw [first.pair, first.bus, Bus.log_writeAll] at hlog
    rw [first.bus] at hsame
    refine ⟨?_, (sameSetUp_bytes _ _ _ _).trans hsame⟩
    rw [hlog, List.flatMap_cons, List.map_append, List.append_assoc]

theorem Trail.idle {requests : List (Request H)} (htrail : Trail service requests k k')
    (hidle : k.Idle) : k'.Idle := by
  induction htrail with
  | nil k => exact hidle
  | cons first others ih => exact ih (first.idle hidle)

/-- For any two ranges that are accepted and any requests with courteous handlers: all requests
are carried out, each delivery on its own terms, and the port accesses they add are the
acknowledgements of the vectors that came in, in order. Masks, vectors and the state of a set-up
sequence stay as they were. -/
theorem requests_acknowledge {master slave : UInt8} (service : Service H (Kernel Bench H E))
    (requests : List (Request H))
    (haccepted : Controller.Pair.ofOffsets master slave = .ok k.dispatcher.pair)
    (hidle : k.Idle) (hserved : ∀ request ∈ requests, request.Served service) :
    ∃ k', (performAll service requests).run k = .ok () k' ∧ k'.Idle ∧
      Trail service requests k k' ∧
      k'.machine.bus.log = k.machine.bus.log ++
        (requests.flatMap (Request.bytes master slave)).map
          (fun byte => .write byte.1 byte.2) ∧
      Bus.SameSetUp k.machine.bus k'.machine.bus := by
  obtain ⟨hm, hs⟩ := Controller.Pair.ofOffsets_ok haccepted
  obtain ⟨k', hrun, htrail⟩ := run_performAll requests hidle hserved
  obtain ⟨hlog, hsame⟩ := htrail.bus
  rw [hm, hs] at hlog
  exact ⟨k', hrun, htrail.idle hidle, htrail, hlog, hsame⟩

end Requests

section HandingOver

/-- Two handlers that spoil their frame. The first also moves its registration on vector 33 over
to the second on vector 34. -/
def handOver : Service Bool (Kernel Bench Bool Unit) := fun first frame => do
  if first then
    exclusively (Code.atomic do
      addHandler 34 false
      removeHandler 33)
  return { frame with vector := 200 }

theorem courteous_handOver : Courteous handOver false := by
  intro first frame k hheld hfree
  cases first with
  | false => exact ⟨_, k, rfl, rfl, rfl, rfl, hfree⟩
  | true =>
    have hmove : (Code.atomic (do addHandler 34 false; removeHandler 33)).run k.hold =
        .ok () ((k.hold.added 34 false).withSlot 33 none) := by
      rw [Code.run_atomic, Action.bind_ok (addHandler_free (k := k.hold) hfree 34 false),
        removeHandler_eq]
    refine ⟨_, _, Code.run_bind_ok (run_exclusively hheld hmove), ?_⟩
    exact ⟨rfl, rfl, hheld.symm, free_consoleAdded hfree _ _⟩

/-- The second handler is found on the vector it was moved to, and each line is acknowledged once
however the frames were spoiled. -/
theorem handOver_acknowledges :
    ∃ k', (performAll handOver
        [.register 33 true, .dispatchShared (.ofVector 33), .dispatchShared (.ofVector 34),
          .dispatch (.ofVector 44), .dispatchShared (.ofVector 13), .unregister 34,
          .dispatchShared (.ofVector 200)]).run (start .reset .default ()) = .ok () k' ∧
      k'.machine.bus.log =
        [.write 0x20 0x20, .write 0x20 0x20, .write 0xA0 0x20, .write 0x20 0x20] := by
  obtain ⟨k', hrun, -, -, hlog, -⟩ := requests_acknowledge (k := start .reset .default ()) handOver
    [.register 33 true, .dispatchShared (.ofVector 33), .dispatchShared (.ofVector 34),
      .dispatch (.ofVector 44), .dispatchShared (.ofVector 13), .unregister 34,
      .dispatchShared (.ofVector 200)]
    (Controller.Pair.ofOffsets_self .default) ⟨rfl, Console.free_ready⟩
    (by simp [Request.Served, courteous_handOver])
  exact ⟨k', hrun, hlog.trans (by decide)⟩

end HandingOver

end BringUp.Kernel
