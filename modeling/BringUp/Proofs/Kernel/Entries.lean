import BringUp.Proofs.Kernel.Blind
import BringUp.Proofs.Kernel.History

/-!
# The two ways in

An owner's delivery keeps the dispatcher from beginning to end. A shared one gives it up while the
handler runs and takes it again to acknowledge. A handler that leaves the dispatcher alone cannot
tell the two apart, and neither can anybody else afterwards. One that edits the handler table
always gets the lock, and its edits fall between the routing and the acknowledgement.
-/

namespace BringUp.Kernel

set_option autoImplicit false

open BringUp.Action (mapState)

variable {M H E : Type}

section Errands

inductive Edit (H : Type) where
  | register (vector : UInt8) (handler : H)
  | unregister (vector : UInt8)

namespace Edit

def action : Edit H → Action (Kernel M H E) Unit
  | register vector handler => addHandler vector handler
  | unregister vector => removeHandler vector

def apply (table : HandlerTable H) : Edit H → HandlerTable H
  | register vector handler => table.put vector (some handler)
  | unregister vector => table.put vector none

def result (k : Kernel M H E) : Edit H → Kernel M H E
  | register vector handler => k.added vector handler
  | unregister vector => k.withSlot vector none

def actions : List (Edit H) → Action (Kernel M H E) Unit
  | [] => pure ()
  | edit :: rest => do
      edit.action
      actions rest

end Edit

/-- What a handler does with everything but the dispatcher and its lock. It leaves nobody
printing. -/
structure Aside (M H E : Type) where
  act : Kernel M H E → Kernel M H E
  dispatcher : ∀ k, (act k).dispatcher = k.dispatcher
  held : ∀ k, (act k).held = k.held
  console : ∀ k, k.console.Free → (act k).console.Free

/-- How a handler takes the lock: it waits for it, or it tries once and does something else when
it is refused. -/
inductive Taking (M H E : Type) where
  | wait
  | attempt (refused : Code (Kernel M H E) Frame)

/-- What a handler does that reaches the dispatcher through its lock, to edit the handler table. -/
inductive Errand (M H E : Type) where
  | leave (frame : Frame)
  | aside (change : Aside M H E) (next : Kernel M H E → Errand M H E)
  /-- Edits are made under the lock, all at once. -/
  | edit (taking : Taking M H E) (edits : List (Edit H)) (next : Errand M H E)

namespace Errand

def code : Errand M H E → Code (Kernel M H E) Frame
  | leave frame => .done frame
  | aside change next => .step (fun _ => true) change.act fun k => (next k).code
  | edit .wait edits next => do
      exclusively (Code.atomic (Edit.actions edits))
      next.code
  | edit (.attempt refused) edits next => do
      if ← tryTake then
        (Code.atomic (Edit.actions edits)).releasing release
        next.code
      else refused

/-- The frame and the kernel at the end of an errand, as if there were no lock. -/
def finish : Errand M H E → Kernel M H E → Frame × Kernel M H E
  | leave frame, k => (frame, k)
  | aside change next, k => (next k).finish (change.act k)
  | edit _ edits next, k => next.finish (edits.foldl Edit.result k)

def edits : Errand M H E → Kernel M H E → List (Edit H)
  | leave _, _ => []
  | aside change next, k => (next k).edits (change.act k)
  | edit _ edits next, k => edits ++ next.edits (edits.foldl Edit.result k)

end Errand

def errands (conduct : H → Frame → Errand M H E) : Service H (Kernel M H E) :=
  fun handler frame => (conduct handler frame).code

variable {k : Kernel M H E}

theorem Edit.run_action (hfree : k.console.Free) (edit : Edit H) :
    edit.action k = .ok () (edit.result k) ∧ (edit.result k).console.Free := by
  cases edit with
  | register vector handler =>
    exact ⟨addHandler_free hfree vector handler, free_consoleAdded hfree _ _⟩
  | unregister vector => exact ⟨removeHandler_eq vector k, hfree⟩

theorem Edit.run_actions (hfree : k.console.Free) (edits : List (Edit H)) :
    Edit.actions edits k = .ok () (edits.foldl Edit.result k) ∧
      (edits.foldl Edit.result k).console.Free := by
  induction edits generalizing k with
  | nil => exact ⟨rfl, hfree⟩
  | cons edit rest ih =>
    obtain ⟨hrun, hconsole⟩ := Edit.run_action hfree edit
    rw [Edit.actions, Action.bind_ok hrun]
    exact ih hconsole

theorem Edit.foldl_hold (edits : List (Edit H)) (k : Kernel M H E) :
    edits.foldl Edit.result k.hold = (edits.foldl Edit.result k).hold := by
  induction edits generalizing k with
  | nil => rfl
  | cons edit rest ih =>
    have hedit : edit.result k.hold = (edit.result k).hold := by cases edit <;> rfl
    rw [List.foldl_cons, List.foldl_cons, hedit, ih]

/-- Edits change the handler table only, as far as the dispatcher goes. -/
theorem Edit.foldl_dispatcher (edits : List (Edit H)) (k : Kernel M H E) :
    (edits.foldl Edit.result k).held = k.held ∧
      (edits.foldl Edit.result k).dispatcher = { k.dispatcher with
        handlers := edits.foldl Edit.apply k.dispatcher.handlers } := by
  induction edits generalizing k with
  | nil => exact ⟨rfl, rfl⟩
  | cons edit rest ih =>
    have hedit : (edit.result k).held = k.held ∧ (edit.result k).dispatcher =
        { k.dispatcher with handlers := edit.apply k.dispatcher.handlers } := by
      cases edit <;> exact ⟨rfl, rfl⟩
    obtain ⟨hheld, hdispatcher⟩ := ih (edit.result k)
    refine ⟨hheld.trans hedit.1, ?_⟩
    rw [List.foldl_cons, hdispatcher, hedit.2]
    rfl

theorem Edit.release_hold (hheld : k.held = false) (edits : List (Edit H)) :
    (edits.foldl Edit.result k.hold).release = edits.foldl Edit.result k := by
  have hfree : (edits.foldl Edit.result k).held = false := (foldl_dispatcher edits k).1.trans hheld
  rw [foldl_hold]
  exact release_of_free hfree

/-- An errand gets the lock whenever it asks for it, and gives it back each time. -/
theorem Errand.run_code (errand : Errand M H E) (hheld : k.held = false) (hfree : k.console.Free) :
    errand.code.run k = .ok (errand.finish k).1 (errand.finish k).2 ∧
      (errand.finish k).2.held = false := by
  -- Between two steps of an errand the lock is free: that is what lets the next one take it.
  induction errand generalizing k with
  | leave frame => exact ⟨rfl, hheld⟩
  | aside change next ih =>
    rw [code, finish, Code.run_step_ready rfl]
    exact ih k ((change.held k).trans hheld) (change.console k hfree)
  | edit taking edits next ih =>
    have hedits : (Code.atomic (Edit.actions edits)).run k.hold =
        .ok () (edits.foldl Edit.result k.hold) := by
      rw [Code.run_atomic]
      exact (Edit.run_actions (k := k.hold) hfree edits).1
    have hafter := ih ((Edit.foldl_dispatcher edits k).1.trans hheld) (Edit.run_actions hfree edits).2
    cases taking with
    | wait =>
      have hlocked := run_exclusively hheld hedits
      rw [Edit.release_hold hheld] at hlocked
      rw [code, finish, Code.run_bind_ok hlocked]
      exact hafter
    | attempt refused =>
      have hlocked : ((Code.atomic (Edit.actions edits)).releasing release).run k.hold =
          .ok () (edits.foldl Edit.result k) := by
        rw [Code.run_releasing_ok hedits, Edit.release_hold hheld]
      rw [code, finish, Code.run_bind_ok (run_tryTake_free hheld), if_pos rfl,
        Code.run_bind_ok hlocked]
      exact hafter

theorem Errand.finish_dispatcher (errand : Errand M H E) (k : Kernel M H E) :
    (errand.finish k).2.dispatcher = { k.dispatcher with
      handlers := (errand.edits k).foldl Edit.apply k.dispatcher.handlers } := by
  induction errand generalizing k with
  | leave frame => rfl
  | aside change next ih =>
    rw [finish, edits, ih k, change.dispatcher]
  | edit taking edits next ih =>
    rw [finish, Errand.edits, ih, (Edit.foldl_dispatcher edits k).2, List.foldl_append]

end Errands

variable [Cpu M] [PortSpace M] {service : Service H (Kernel M H E)} {frame : Frame}
  {k k' : Kernel M H E}

section Agreement

/-- A shared delivery that finds the dispatcher free does what an owner's delivery does, whether
or not it returns, if the handler that runs leaves the lock free. -/
theorem run_dispatchShared_eq (hheld : k.held = false)
    (hleaves : ∀ handler line k1 left k2, route frame k = .ok (.run (some handler) line) k1 →
      (service handler frame).run k1 = .ok left k2 → k2.held = false) :
    (dispatchShared service frame).run k = (dispatch service frame).run k := by
  have hroute : ((Code.atomic (route frame)).releasing release).run k.hold =
      (Code.atomic (route frame : Action (Kernel M H E) (Route H))).run k := by
    rw [run_releasing_atomic, (blind_route frame).around hheld, Code.run_atomic]
  rw [run_dispatchShared_taken hheld, dispatchTaken, dispatch, Code.run_bind,
    Code.run_bind (Code.atomic (route frame)), hroute, Code.run_atomic]
  cases hr : (route frame : Action (Kernel M H E) (Route H)) k with
  | error stop k1 => rfl
  | ok r k1 =>
    cases r with
    | halt report => rfl
    | run handler line =>
      -- Routing gave the lock back, and so does the handler: both ways go on from one kernel.
      have hheld1 : k1.held = false := ((blind_route frame).held hr).trans hheld
      simp only []
      rw [Code.run_bind, Code.run_bind (serve service handler frame)]
      cases hs : (serve service handler frame).run k1 with
      | error stop k2 => rfl
      | ok left k2 =>
        have hheld2 : k2.held = false := by
          cases handler with
          | none =>
            cases hs
            exact hheld1
          | some handler => exact hleaves handler line k1 left k2 hr hs
        have hack : (exclusively (Code.atomic (acknowledge line))).run k2 =
            (Code.atomic (acknowledge line)).run k2 := by
          rw [run_exclusively_blind (blind_acknowledge line) hheld2, Code.run_atomic]
        simp only []
        rw [Code.run_bind, Code.run_bind (Code.atomic (acknowledge line)), hack]

/-- Handlers that leave the lock alone, and with it the dispatcher behind it. -/
def Aloof (service : Service H (Kernel M H E)) : Prop :=
  ∀ handler frame, Blind (service handler frame).run

theorem blind_dispatch (haloof : Aloof service) (frame : Frame) :
    Blind (dispatch service frame).run := by
  rw [dispatch, Code.run_bind_eq]
  refine blind_bind (blind_atomic (blind_route frame)) fun route => ?_
  cases route with
  | halt report => exact blind_pure _
  | run handler line =>
    have hserve : Blind (serve service handler frame).run := by
      cases handler with
      | none => exact blind_pure frame
      | some handler => exact haloof handler frame
    simp only [Code.run_bind_eq]
    refine blind_bind hserve fun left => ?_
    exact blind_bind (blind_atomic (blind_acknowledge line)) fun _ => blind_pure _

/-- To handlers that leave the lock alone both ways in are the same, and the owner may keep the
lock meanwhile or not have one. -/
theorem run_dispatch_withHeld (hheld : k.held = false) (haloof : Aloof service) (held : Bool) :
    (dispatch service frame).run (k.withHeld held) =
      mapState (withHeld held) ((dispatchShared service frame).run k) := by
  rw [blind_dispatch haloof frame held k, run_dispatchShared_eq hheld]
  intro handler line k1 left k2 hr hs
  rw [(haloof handler frame).held hs, (blind_route frame).held hr, hheld]

/-- A shared delivery that returns has given the lock back. -/
theorem held_dispatchShared (hheld : k.held = false) {outcome : Disposition × Frame}
    (hrun : (dispatchShared service frame).run k = .ok outcome k') : k'.held = false := by
  rw [run_dispatchShared_taken hheld, dispatchTaken, Code.run_bind, run_releasing_atomic] at hrun
  cases hr : (route frame : Action (Kernel M H E) (Route H)) k.hold with
  | error stop k1 =>
    rw [hr] at hrun
    cases hrun
  | ok r k1 =>
    rw [hr] at hrun
    cases r with
    | halt report =>
      cases hrun
      rfl
    | run handler line =>
      simp only [mapState] at hrun
      rw [Code.run_bind] at hrun
      cases hs : (serve service handler frame).run k1.release with
      | error stop k2 =>
        rw [hs] at hrun
        cases hrun
      | ok left k2 =>
        rw [hs] at hrun
        simp only [] at hrun
        cases hheld2 : k2.held with
        | false =>
          have hack : (exclusively (Code.atomic (acknowledge line))).run k2 =
              .ok () { k2 with machine := machineAcknowledged line k2.machine } := by
            rw [run_exclusively_blind (blind_acknowledge line) hheld2, acknowledge_eq]
          rw [Code.run_bind_ok hack] at hrun
          cases hrun
          exact hheld2
        | true =>
          -- A handler that keeps the lock is never followed by an acknowledgement.
          rw [Code.run_bind, run_exclusively_held _ hheld2] at hrun
          cases hrun

end Agreement

section Editing

variable (conduct : H → Frame → Errand M H E)

/-- How a delivery went whose handlers run errands: it was routed, the errand's edits were made in
order, and then the line that the routing had found was acknowledged. -/
inductive Edited (frame : Frame) (k : Kernel M H E) :
    Disposition × Frame → Kernel M H E → Prop where
  | halted {report : Exception.Report} {k1 : Kernel M H E}
      (routed : route frame k = .ok (.halt report) k1) :
      Edited frame k (.halt report, frame) k1
  | unhandled {line : Option UInt8} {k1 : Kernel M H E}
      (routed : route frame k = .ok (.run none line) k1) :
      Edited frame k (.resume, frame) { k1 with machine := machineAcknowledged line k1.machine }
  | handled {handler : H} {line : Option UInt8} {left : Frame} {k1 k2 : Kernel M H E}
      (routed : route frame k = .ok (.run (some handler) line) k1)
      (finished : (conduct handler frame).finish k1 = (left, k2))
      (edited : k2.dispatcher = { k1.dispatcher with
        handlers :=
          ((conduct handler frame).edits k1).foldl Edit.apply k1.dispatcher.handlers }) :
      Edited frame k (.resume, left) { k2 with machine := machineAcknowledged line k2.machine }

/-- Handlers get the lock for each of their edits, and the delivery goes on once they are done. -/
theorem run_errands (hheld : k.held = false) (hfree : k.console.Free) (frame : Frame) :
    ∃ outcome k', (dispatchShared (errands conduct) frame).run k = .ok outcome k' ∧
      Edited conduct frame k outcome k' := by
  by_cases hv : frame.vectorByte < 32
  · obtain ⟨report, hr⟩ := Exception.Report.classify_eq_some hv (k.faultRead frame).1
    exact ⟨_, _, run_dispatchShared_free hheld hr, .halted (route_exception hr)⟩
  · cases hslot : k.dispatcher.handlers.get frame.vectorByte with
    | none =>
      have hroute := route_missing hv hfree hslot
      refine ⟨_, _, ?_, .unhandled hroute⟩
      rw [run_dispatchShared_eq hheld]
      · exact run_dispatch_resume hroute rfl (acknowledge_eq _ _)
      · intro handler line k1 left k2 hr
        rw [hroute] at hr
        cases hr
    | some handler =>
      have hroute := route_found hv hslot
      obtain ⟨hran, hleft⟩ := (conduct handler frame).run_code hheld hfree
      refine ⟨_, _, ?_, .handled hroute rfl ((conduct handler frame).finish_dispatcher k)⟩
      rw [run_dispatchShared_eq hheld]
      · exact run_dispatch_resume hroute hran (acknowledge_eq _ _)
      · intro handler' line k1 left k2 hr hs
        rw [hroute] at hr
        cases hr
        rw [errands, hran] at hs
        cases hs
        exact hleft

end Editing

/-- From any kernel whose dispatcher is free: with handlers that leave the dispatcher alone a
shared delivery ends as an owner's does, in frame, disposition and the whole kernel, and it
returns if they do; with handlers that edit the table under the lock it never fails to get it,
and the edits fall between routing and acknowledging; and when it returns, with any handlers, the
dispatcher is free again. -/
theorem entries_agree (hheld : k.held = false) (frame : Frame) :
    (∀ service : Service H (Kernel M H E), Aloof service →
      (∀ held, (dispatch service frame).run (k.withHeld held) =
        mapState (withHeld held) ((dispatchShared service frame).run k)) ∧
      (Returning service → k.console.Free →
        ∃ outcome k', (dispatchShared service frame).run k = .ok outcome k')) ∧
    (∀ conduct : H → Frame → Errand M H E, k.console.Free →
      ∃ outcome k', (dispatchShared (errands conduct) frame).run k = .ok outcome k' ∧
        Edited conduct frame k outcome k') ∧
    ∀ (service : Service H (Kernel M H E)) (outcome : Disposition × Frame) (k' : Kernel M H E),
      (dispatchShared service frame).run k = .ok outcome k' → k'.held = false := by
  refine ⟨fun service haloof => ⟨fun held => ?_, fun hreturning hfree => ?_⟩,
    fun conduct hfree => run_errands conduct hheld hfree frame,
    fun service outcome k' hrun => held_dispatchShared hheld hrun⟩
  · exact run_dispatch_withHeld hheld haloof held
  · obtain ⟨outcome, k', hrun, -⟩ := dispatch_goes hreturning hfree frame
    have hsame : (dispatch service frame).run (k.withHeld false) =
        mapState (withHeld false) ((dispatchShared service frame).run k) :=
      run_dispatch_withHeld hheld haloof false
    rw [withHeld_self hheld, hrun] at hsame
    cases hshared : (dispatchShared service frame).run k with
    | ok outcome k' => exact ⟨outcome, k', rfl⟩
    | error stop k' =>
      rw [hshared] at hsame
      cases hsame

/-- A handler that moves its registration on vector 33 over to another on vector 34, and would
give up if it were refused the lock. -/
def moving (first : Bool) (frame : Frame) : Errand Bench Bool Unit :=
  if first then
    .edit (.attempt (.stop (.fault .dispatcherHeld))) [.register 34 false, .unregister 33]
      (.leave frame)
  else .leave frame

/-- The handler on vector 33 is moved while its interrupt is delivered. Had it only changed its
frame, an owner who keeps the lock would have seen the same. -/
theorem moving_edits :
    let armed : Kernel Bench Bool Unit := (start Bench.reset .default ()).withSlot 33 (some true)
    let marking : Service Bool (Kernel Bench Bool Unit) := fun _ frame =>
      pure { frame with eax := 1 }
    (∃ k', (dispatchShared (errands moving) (.ofVector 33)).run armed =
        .ok (.resume, .ofVector 33) k' ∧ k'.held = false ∧
        k'.dispatcher.handlers.get 33 = none ∧ k'.dispatcher.handlers.get 34 = some false) ∧
      (dispatch marking (.ofVector 33)).run (armed.withHeld true) =
        mapState (withHeld true) ((dispatchShared marking (.ofVector 33)).run armed) := by
  intro armed marking
  obtain ⟨haloof, hediting, hreturned⟩ := entries_agree (k := armed) rfl (.ofVector 33)
  obtain ⟨outcome, k', hrun, hedited⟩ := hediting moving Console.free_ready
  have hroute := route_found (k := armed) (by decide : ¬ (Frame.ofVector 33).vectorByte < 32)
    (by decide : armed.dispatcher.handlers.get 33 = some true)
  refine ⟨?_, (haloof marking fun _ _ => blind_pure _).1 true⟩
  cases hedited with
  | halted routed =>
    rw [hroute] at routed
    cases routed
  | unhandled routed =>
    rw [hroute] at routed
    cases routed
  | handled routed finished edited =>
    rw [hroute] at routed
    cases routed
    cases finished
    refine ⟨_, hrun, hreturned _ _ _ hrun, ?_, ?_⟩
    · show HandlerTable.get (Kernel.dispatcher _).handlers 33 = none
      rw [edited]
      decide
    · show HandlerTable.get (Kernel.dispatcher _).handlers 34 = some false
      rw [edited]
      decide

end BringUp.Kernel
