import BringUp.Machine.Bench
import BringUp.Proofs.Controller.Acknowledgement
import BringUp.Proofs.Kernel.Routing

/-!
# One delivery

Each way in runs the same three parts in the same order: the route, the handler, the
acknowledgement. They differ in who holds the dispatcher while the handler runs.
-/

namespace BringUp.Kernel

set_option autoImplicit false

variable {M H E α : Type}

section Locks

theorem run_take {k : Kernel M H E} (h : k.held = false) : take.run k = .ok () k.hold := by
  rw [take, Code.run_step_ready (by rw [h]; rfl)]
  rfl

theorem run_tryTake (k : Kernel M H E) : tryTake.run k = .ok (!k.held) k.hold := rfl

theorem run_tryTake_free {k : Kernel M H E} (h : k.held = false) :
    tryTake.run k = .ok true k.hold := by
  rw [run_tryTake, h]
  rfl

theorem release_of_free {k : Kernel M H E} (h : k.held = false) : k.release = k := by
  rw [release, ← h]

/-- Code that has the dispatcher to itself gives it back. -/
theorem run_exclusively {body : Code (Kernel M H E) α} {k k' : Kernel M H E} {value : α}
    (hfree : k.held = false) (hbody : body.run k.hold = .ok value k') :
    (exclusively body).run k = .ok value k'.release := by
  rw [exclusively, Code.run_bind_ok (run_take hfree), Code.run_releasing_ok hbody]

/-- Code that waits for a dispatcher that is never given back does not get to run. -/
theorem run_exclusively_held (body : Code (Kernel M H E) α) {k : Kernel M H E}
    (hheld : k.held = true) : (exclusively body).run k = .error .blocked k := by
  have htake : take.run k = .error .blocked k := by
    rw [take, Code.run_step_waiting (by rw [hheld]; rfl)]
  rw [exclusively, Code.run_bind, htake]

end Locks

section Acknowledging

variable [PortSpace M]

/-- The machine once a line has been acknowledged, if there was one. -/
def machineAcknowledged (line : Option UInt8) (machine : M) : M :=
  match line with
  | none => machine
  | some line =>
      let told :=
        if Controller.linesPerChip ≤ line then
          PortSpace.output Controller.slaveCommand Controller.acknowledge machine
        else machine
      PortSpace.output Controller.masterCommand Controller.acknowledge told

/-- Acknowledging touches the machine only. -/
theorem acknowledge_eq (line : Option UInt8) (k : Kernel M H E) :
    acknowledge line k = .ok () { k with machine := machineAcknowledged line k.machine } := by
  cases line with
  | none => rfl
  | some line =>
    show Controller.Pair.endOfInterrupt line k = _
    unfold Controller.Pair.endOfInterrupt machineAcknowledged
    by_cases h : Controller.linesPerChip ≤ line
    · simp only [if_pos h]
      rfl
    · simp only [if_neg h]
      rfl

end Acknowledging

section Parts

variable [Cpu M] [PortSpace M] {service : Service H (Kernel M H E)} {frame left : Frame}

theorem run_dispatch_halt {k k' : Kernel M H E} {report : Exception.Report}
    (hroute : route frame k = .ok (.halt report) k') :
    (dispatch service frame).run k = .ok (.halt report, frame) k' := by
  have h1 : (Code.atomic (route frame)).run k = .ok (.halt report) k' := by
    rw [Code.run_atomic, hroute]
  rw [dispatch, Code.run_bind_ok h1]
  rfl

theorem run_dispatch_resume {k k1 k2 k3 : Kernel M H E} {handler : Option H}
    {line : Option UInt8} (hroute : route frame k = .ok (.run handler line) k1)
    (hserve : (serve service handler frame).run k1 = .ok left k2)
    (hack : acknowledge line k2 = .ok () k3) :
    (dispatch service frame).run k = .ok (.resume, left) k3 := by
  have h1 : (Code.atomic (route frame)).run k = .ok (.run handler line) k1 := by
    rw [Code.run_atomic, hroute]
  have h3 : (Code.atomic (acknowledge line)).run k2 = .ok () k3 := by rw [Code.run_atomic, hack]
  rw [dispatch, Code.run_bind_ok h1]
  simp only []
  rw [Code.run_bind_ok hserve, Code.run_bind_ok h3]
  rfl

theorem run_dispatchShared_taken {k : Kernel M H E} (hfree : k.held = false) :
    (dispatchShared service frame).run k = (dispatchTaken service frame).run k.hold := by
  rw [dispatchShared, Code.run_bind_ok (run_tryTake_free hfree), if_pos rfl]

theorem run_dispatchShared_halt {k k' : Kernel M H E} {report : Exception.Report}
    (hfree : k.held = false) (hroute : route frame k.hold = .ok (.halt report) k') :
    (dispatchShared service frame).run k = .ok (.halt report, frame) k'.release := by
  have h1 : ((Code.atomic (route frame)).releasing release).run k.hold =
      .ok (.halt report) k'.release :=
    Code.run_releasing_ok (by rw [Code.run_atomic, hroute])
  rw [run_dispatchShared_taken hfree, dispatchTaken, Code.run_bind_ok h1]
  rfl

theorem run_dispatchShared_resume {k k1 k2 k3 : Kernel M H E} {handler : Option H}
    {line : Option UInt8} (hfree : k.held = false)
    (hroute : route frame k.hold = .ok (.run handler line) k1)
    (hserve : (serve service handler frame).run k1.release = .ok left k2)
    (hfree2 : k2.held = false) (hack : acknowledge line k2.hold = .ok () k3) :
    (dispatchShared service frame).run k = .ok (.resume, left) k3.release := by
  have h1 : ((Code.atomic (route frame)).releasing release).run k.hold =
      .ok (.run handler line) k1.release :=
    Code.run_releasing_ok (by rw [Code.run_atomic, hroute])
  have h3 : (exclusively (Code.atomic (acknowledge line))).run k2 = .ok () k3.release :=
    run_exclusively hfree2 (by rw [Code.run_atomic, hack])
  rw [run_dispatchShared_taken hfree, dispatchTaken, Code.run_bind_ok h1]
  simp only []
  rw [Code.run_bind_ok hserve, Code.run_bind_ok h3]
  rfl

end Parts

end BringUp.Kernel
