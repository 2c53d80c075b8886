import BringUp.Proofs.Kernel.Registration

/-!
# Routing

An exception is always reported, whoever is printing. Any other vector goes to the handler in its
slot, and only a vector without one leaves a mark, in the count and on the console.
-/

namespace BringUp

set_option autoImplicit false

namespace Kernel

open Exception (Report)

variable {M H E : Type} [Cpu M]

/-- The fault address that a report on `frame` uses, and the kernel once it has been read. -/
def faultRead (frame : Frame) (k : Kernel M H E) : UInt32 × Kernel M H E :=
  if frame.vectorByte = Gate.pageFaultVector then Cpu.readCr2 k else (0, k)

theorem faultAddress_eq (frame : Frame) (k : Kernel M H E) :
    Report.faultAddress frame k = .ok (k.faultRead frame).1 (k.faultRead frame).2 := by
  unfold Report.faultAddress faultRead
  split <;> rfl

theorem console_faultRead (frame : Frame) (k : Kernel M H E) :
    (k.faultRead frame).2.console = k.console := by
  unfold faultRead
  split <;> rfl

/-- The console once a fatal report has been printed. -/
def consoleReported (report : Report) (frame : Frame) (c : Console) : Console :=
  ((c.logged .error report.text).logged .error frame.dump).logged .error "System halted"

theorem free_consoleReported {c : Console} (h : c.Free) (report : Report) (frame : Frame) :
    (consoleReported report frame c).Free :=
  Console.free_logged (Console.free_logged (Console.free_logged h _ _) _ _) _ _

/-- The report gets out whoever is printing. -/
theorem printFatal_exception {k : Kernel M H E} {frame : Frame} {report : Report}
    (hr : Report.classify frame (k.faultRead frame).1 = some report) :
    Report.printFatal frame k =
      .ok (some report) { (k.faultRead frame).2 with
        console := consoleReported report frame k.console } := by
  unfold Report.printFatal
  rw [Action.bind_ok (faultAddress_eq frame k), hr]
  show (Console.log .error report.text >>= fun _ => _) (k.faultRead frame).2 = _
  rw [Action.bind_ok (Console.log_error _ _), Action.bind_ok (Console.log_error _ _),
    Action.bind_ok (Console.log_error _ _), consoleReported, ← console_faultRead frame k]
  rfl

theorem printFatal_ordinary {frame : Frame} (h : ¬ frame.vectorByte < 32) (k : Kernel M H E) :
    Report.printFatal frame k = .ok none k := by
  have hread : (k.faultRead frame).2 = k := by
    have hne : frame.vectorByte ≠ Gate.pageFaultVector := by
      intro he
      rw [he] at h
      exact h (by decide)
    rw [faultRead, if_neg hne]
  unfold Report.printFatal
  rw [Action.bind_ok (faultAddress_eq frame k), Report.classify_eq_none h, hread]
  rfl

/-- An exception halts, whatever is in its slot. -/
theorem route_exception {k : Kernel M H E} {frame : Frame} {report : Report}
    (hr : Report.classify frame (k.faultRead frame).1 = some report) :
    route frame k =
      .ok (.halt report) { (k.faultRead frame).2 with
        console := consoleReported report frame k.console } := by
  unfold route
  rw [Action.bind_ok (printFatal_exception hr)]
  rfl

/-- Finding a handler changes nothing. -/
theorem route_found {frame : Frame} (h : ¬ frame.vectorByte < 32) {k : Kernel M H E} {handler : H}
    (hh : k.dispatcher.handlers.get frame.vectorByte = some handler) :
    route frame k =
      .ok (.run (some handler) (k.dispatcher.pair.lineFor frame.vectorByte)) k := by
  unfold route
  rw [Action.bind_ok (printFatal_ordinary h k)]
  simp only [Action.bind_get, hh]
  rfl

/-- The kernel once an interrupt was found to have no handler. -/
def missed (vector : UInt8) (k : Kernel M H E) : Kernel M H E :=
  { k with
    dispatcher := { k.dispatcher with unhandled := k.dispatcher.unhandled + 1 }
    console := k.console.logged .debug ("Unhandled interrupt: " ++ toString vector) }

theorem route_missing {frame : Frame} (h : ¬ frame.vectorByte < 32) {k : Kernel M H E}
    (hf : k.console.Free) (hh : k.dispatcher.handlers.get frame.vectorByte = none) :
    route frame k =
      .ok (.run none (k.dispatcher.pair.lineFor frame.vectorByte))
        (k.missed frame.vectorByte) := by
  have hfree : (HasConsole.console ({ k with
      dispatcher :=
        { k.dispatcher with unhandled := k.dispatcher.unhandled + 1 } } : Kernel M H E)).Free := hf
  unfold route
  rw [Action.bind_ok (printFatal_ordinary h k)]
  simp only [Action.bind_get, hh, Option.isNone_none, if_true, Action.bind_set]
  rw [Action.bind_ok (Console.log_free hfree _ _)]
  rfl

end Kernel

end BringUp
