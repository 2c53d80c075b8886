import BringUp.Exception.Name
import BringUp.Exception.PageFault
import BringUp.Frame
import BringUp.Gate.Table

/-!
# Reports of fatal exceptions

An exception of the processor is always fatal. Before the machine stops, it prints all that is
known: a report in words, the register snapshot, and that it halts.
-/

namespace BringUp.Exception

set_option autoImplicit false

structure Report where
  vector : UInt8
  name : String
  /-- Only for vectors for which the processor supplies one. -/
  errorCode : Option UInt32
  pageFault : Option PageFault
  eip : UInt32
  cs : UInt32
  eflags : UInt32
  deriving DecidableEq

namespace Report

/-- The report on a frame, if its vector is an exception. `faultAddress` counts for page faults
only. -/
def classify (frame : Frame) (faultAddress : UInt32) : Option Report :=
  (name? frame.vectorByte).map fun name =>
    { vector := frame.vectorByte
      name
      errorCode := if pushesErrorCode frame.vectorByte then some frame.errorCode else none
      pageFault :=
        if frame.vectorByte = Gate.pageFaultVector then
          some (.decode frame.errorCode faultAddress)
        else none
      eip := frame.eip
      cs := frame.cs
      eflags := frame.eflags }

theorem classify_eq_none {frame : Frame} (h : ¬ frame.vectorByte < 32) (address : UInt32) :
    classify frame address = none := by
  have hlt : ¬ frame.vectorByte.toNat < 32 := fun hn => h (UInt8.lt_iff_toNat_lt.mpr hn)
  have hname : name? frame.vectorByte = none := by
    rw [← Option.not_isSome_iff_eq_none, name?_isSome]
    simpa using hlt
  rw [classify, hname, Option.map_none]

theorem classify_eq_some {frame : Frame} (h : frame.vectorByte < 32) (address : UInt32) :
    ∃ report, classify frame address = some report := by
  have hlt : frame.vectorByte.toNat < 32 := UInt8.lt_iff_toNat_lt.mp h
  have hname : (name? frame.vectorByte).isSome = true := by
    rw [name?_isSome]
    exact decide_eq_true hlt
  obtain ⟨name, hn⟩ := Option.isSome_iff_exists.mp hname
  exact ⟨_, by rw [classify, hn, Option.map_some]⟩

/-- The clause about the error code. -/
def errorCodeText : Option UInt32 → String
  | none => ""
  | some code => ", error code " ++ Text.hex code.toNat

def pageFaultText : Option PageFault → String
  | none => ""
  | some fault => "\n  page fault: " ++ fault.text

def text (report : Report) : String :=
  "EXCEPTION: " ++ report.name ++ " (vector " ++ toString report.vector ++ ")" ++
    errorCodeText report.errorCode ++ " at " ++ Text.hexFilled 6 report.cs.toNat ++ ":" ++
    Text.hexFilled 10 report.eip.toNat ++ ", eflags " ++ Text.hexFilled 10 report.eflags.toNat ++
    pageFaultText report.pageFault

def outlineOption : Option Text.Outline → Text.Outline
  | none => .text "None"
  | some shown => .wrapped "Some" [shown]

def outline (report : Report) : Text.Outline :=
  .record "ExceptionReport" [
    .part "vector" (.number report.vector.toNat),
    .part "name" (.text ("\"" ++ report.name ++ "\"")),
    .part "error_code" (outlineOption (report.errorCode.map fun code => .number code.toNat)),
    .part "page_fault" (outlineOption (report.pageFault.map PageFault.outline)),
    .part "eip" (.number report.eip.toNat),
    .part "cs" (.number report.cs.toNat),
    .part "eflags" (.number report.eflags.toNat)]

section Operations

variable {σ : Type} [Cpu σ] [HasConsole σ]

/-- The address of the latest page fault, read only when the frame is about one. -/
def faultAddress (frame : Frame) : Action σ UInt32 := fun s =>
  if frame.vectorByte = Gate.pageFaultVector then
    .ok (Cpu.readCr2 s).1 (Cpu.readCr2 s).2
  else .ok 0 s

/-- Prints the report on a frame whose vector is an exception. Other frames have no report and
print nothing. -/
def printFatal (frame : Frame) : Action σ (Option Report) := do
  let address ← faultAddress frame
  match classify frame address with
  | none => return none
  | some report =>
      Console.log .error report.text
      Console.log .error frame.dump
      Console.log .error "System halted"
      return some report

end Operations

end Report

end BringUp.Exception
