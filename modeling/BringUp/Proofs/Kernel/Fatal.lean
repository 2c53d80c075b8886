import BringUp.Machine.Bench
import BringUp.Proofs.Exception.Texts
import BringUp.Proofs.Kernel.Delivery

/-!
# The fatal path

The report of a fatal exception is the last thing anybody will learn about the machine. It may
come up while any lock is held, by the very code that was interrupted. So it waits for nobody: it
takes what is free, prints past whoever holds the rest, and changes nothing but what was sent.
-/

namespace BringUp.Kernel

set_option autoImplicit false

open Console (recordText)
open Exception (Report)

/-- What is printed about a fatal exception: three records. -/
def fatalText (report : Report) (frame : Frame) : String :=
  "[ERROR] " ++ report.text ++ "\n" ++ ("[ERROR] " ++ frame.dump ++ "\n") ++
    "[ERROR] System halted\n"

/-- The bytes that a fatal exception puts on the line under a threshold. -/
def fatalBytes (threshold : Option Level) (report : Report) (frame : Frame) : List UInt8 :=
  if Level.error.Within threshold then Text.utf8 (fatalText report frame) else []

theorem plain_errorText {shown : String} (h : Text.Plain shown) :
    Text.Plain ("[ERROR] " ++ shown ++ "\n") :=
  Text.plain_append (Text.plain_append (by decide) h) (by decide)

theorem consoleReported_eq {report : Report} (hplain : Text.Plain report.text) (frame : Frame)
    (c : Console) :
    consoleReported report frame c =
      { c with uart := { c.uart with
        sent := c.uart.sent ++ fatalBytes c.maxLevel report frame } } := by
  unfold consoleReported Console.logged fatalBytes
  by_cases hwithin : Level.error.Within c.maxLevel
  · have hlater (shown : String) : Level.error.Within (c.sent shown).maxLevel := hwithin
    have htext : Text.Plain (fatalText report frame) :=
      Text.plain_append
        (Text.plain_append (plain_errorText hplain) (plain_errorText frame.plain_dump))
        (by decide)
    have hrecords : recordText .error report.text ++ recordText .error frame.dump ++
        recordText .error "System halted" = fatalText report frame := rfl
    rw [if_pos hwithin, if_pos (hlater _), Console.sent_sent, if_pos (hlater _),
      Console.sent_sent, if_pos hwithin, hrecords, Console.sent, Text.blanked_plain htext]
  · rw [if_neg hwithin, if_neg hwithin, if_neg hwithin, if_neg hwithin, List.append_nil]

variable {M H E : Type} [Cpu M] {frame : Frame} {report : Report} {k k' : Kernel M H E}

/-- How a fatal exception leaves the kernel: with more bytes sent, and otherwise as it was, every
lock included. The machine differs at most in what reading the fault address shows of itself. -/
structure Reported (report : Report) (frame : Frame) (k k' : Kernel M H E) : Prop where
  console : k'.console = { k.console with uart := { k.console.uart with
    sent := k.console.uart.sent ++ fatalBytes k.console.maxLevel report frame } }
  dispatcher : k'.dispatcher = k.dispatcher
  held : k'.held = k.held
  ticks : k'.ticks = k.ticks
  own : k'.own = k.own
  machine : ∀ {V : Type} (view : M → V), (∀ m, view (Cpu.readCr2 m).2 = view m) →
    view k'.machine = view k.machine

/-- The kernel once a fatal exception has been reported. -/
def reported (report : Report) (frame : Frame) (k : Kernel M H E) : Kernel M H E :=
  { (k.faultRead frame).2 with console := consoleReported report frame k.console }

theorem reported_reported (hr : Report.classify frame (k.faultRead frame).1 = some report) :
    Reported report frame k (k.reported report frame) := by
  have hconsole := consoleReported_eq (Report.plain_classified hr) frame k.console
  unfold reported faultRead
  split
  · exact ⟨hconsole, rfl, rfl, rfl, rfl, fun _ hview => hview k.machine⟩
  · exact ⟨hconsole, rfl, rfl, rfl, rfl, fun _ _ => rfl⟩

theorem reported_hold (hfree : k.held = false) :
    (k.hold.reported report frame).release = k.reported report frame := by
  obtain ⟨system, dispatcher, held, ticks, own⟩ := k
  obtain rfl : held = false := hfree
  unfold reported faultRead
  split <;> rfl

theorem faultRead_hold (frame : Frame) (k : Kernel M H E) :
    (k.hold.faultRead frame).1 = (k.faultRead frame).1 := by
  unfold faultRead
  split <;> rfl

theorem faultRead_address (frame : Frame) (k : Kernel M H E) :
    (k.faultRead frame).1 =
      if frame.vectorByte = 14 then (Cpu.readCr2 k.machine).1 else 0 :=
  apply_ite Prod.fst _ _ _

variable [PortSpace M] {service : Service H (Kernel M H E)}

theorem run_dispatchShared_free (hfree : k.held = false)
    (hr : Report.classify frame (k.faultRead frame).1 = some report) :
    (dispatchShared service frame).run k = .ok (.halt report, frame) (k.reported report frame) := by
  have hhold : Report.classify frame (k.hold.faultRead frame).1 = some report := by
    rw [faultRead_hold, hr]
  rw [run_dispatchShared_halt hfree (route_exception hhold)]
  exact congrArg _ (reported_hold hfree)

theorem run_dispatchShared_held (hheld : k.held = true)
    (hr : Report.classify frame (k.faultRead frame).1 = some report) :
    (dispatchShared service frame).run k = .ok (.halt report, frame) (k.reported report frame) := by
  have hkeep : k.hold = k := by rw [hold, ← hheld]
  have htry : tryTake.run k = .ok false k := by rw [run_tryTake, hheld, hkeep]; rfl
  have hbusy : (Code.atomic (dispatchBusy frame)).run k =
      .ok (.halt report) (k.reported report frame) := by
    rw [Code.run_atomic, dispatchBusy, Action.bind_ok (printFatal_exception hr)]
    rfl
  rw [dispatchShared, Code.run_bind_ok htry, if_neg (by decide), Code.run_bind_ok hbusy]
  rfl

/-- Whatever handlers there are, whoever holds which lock, and whatever the machine is doing: an
exception is reported at once, through either way in, and no handler is called. Report and bytes
depend on the frame, the fault address and the threshold alone. -/
theorem exceptions_reported (hv : frame.vectorByte < 32) (k : Kernel M H E) :
    ∃ report k',
      Report.classify frame
        (if frame.vectorByte = 14 then (Cpu.readCr2 k.machine).1 else 0) = some report ∧
      Reported report frame k k' ∧
      ∀ service : Service H (Kernel M H E),
        (dispatchShared service frame).run k = .ok (.halt report, frame) k' ∧
        (dispatch service frame).run k = .ok (.halt report, frame) k' := by
  obtain ⟨report, hr⟩ := Report.classify_eq_some hv (k.faultRead frame).1
  refine ⟨report, k.reported report frame, ?_, reported_reported hr, fun service => ⟨?_, ?_⟩⟩
  · rw [← faultRead_address, hr]
  · cases hheld : k.held with
    | false => exact run_dispatchShared_free hheld hr
    | true => exact run_dispatchShared_held hheld hr
  · exact run_dispatch_halt (route_exception hr)

/-- A page fault comes up inside a printer of the dispatcher's owner, under the lowest threshold
that lets errors pass, and its vector has a handler. -/
def faulting : Kernel Bench Unit (List Unit) where
  machine := { Bench.reset with cpu := { TrackedCpu.reset with cr2 := 0x00500000 } }
  console :=
    { maxLevel := some .error, installed := true, recordHeld := true, portHeld := true,
      uart := .idle }
  dispatcher :=
    { handlers := HandlerTable.empty.put 14 (some ()), pair := .default, unhandled := 7 }
  held := true
  ticks := 0
  own := []

def faultingReport : Report :=
  ⟨14, "Page Fault", some 2,
    some ⟨0x00500000, .notPresent, .write, .supervisor, false, false, false⟩, 0, 0, 0⟩

/-- The three records on the line. -/
def faultingText : String :=
  "[ERROR] EXCEPTION: Page Fault (vector 14), error code 0x2 at 0x0000:0x00000000, " ++
    "eflags 0x00000000\n  page fault: non-present page on write at 0x00500000 in " ++
    "supervisor-mode, outside the identity-mapped window\n" ++
  "[ERROR] InterruptFrame \x7b\n    ds: 0x0,\n    edi: 0x0,\n    esi: 0x0,\n    ebp: 0x0,\n" ++
    "    esp: 0x0,\n    ebx: 0x0,\n    edx: 0x0,\n    ecx: 0x0,\n    eax: 0x0,\n" ++
    "    vector: 0xe,\n    error_code: 0x2,\n    eip: 0x0,\n    cs: 0x0,\n    eflags: 0x0,\n\x7d\n" ++
  "[ERROR] System halted\n"

/-- The handler would note that it ran; no note is made, all locks are still held, and the report
tells what the access was. -/
theorem faulting_reported :
    ∃ k', (dispatchShared
        (fun _ frame => do
          Code.change fun k => { k with own := () :: k.own }
          return frame) ((Frame.ofVector 14).withErrorCode 2)).run faulting =
        .ok (.halt faultingReport, (Frame.ofVector 14).withErrorCode 2) k' ∧
      k'.own = [] ∧ k'.machine = faulting.machine ∧
      k'.held = true ∧ k'.console.recordHeld = true ∧ k'.console.portHeld = true ∧
      k'.console.uart.sent = Text.utf8 faultingText := by
  obtain ⟨report, k', hr, hreported, hrun⟩ :=
    exceptions_reported (by decide : ((Frame.ofVector 14).withErrorCode 2).vectorByte < 32) faulting
  obtain rfl : faultingReport = report := Option.some.inj hr
  have hconsole := hreported.console
  have htext : fatalText faultingReport ((Frame.ofVector 14).withErrorCode 2) = faultingText := by
    decide +kernel
  have hbytes := congrArg (fun c => c.uart.sent) hconsole
  refine ⟨k', (hrun _).1, hreported.own, hreported.machine id fun _ => rfl, hreported.held, ?_, ?_,
    hbytes.trans ?_⟩
  · rw [hconsole]
    rfl
  · rw [hconsole]
    rfl
  · rw [fatalBytes, htext, if_pos ⟨.error, rfl, Nat.le_refl _⟩]
    rfl

end BringUp.Kernel
