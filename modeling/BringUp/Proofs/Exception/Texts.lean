import BringUp.Exception.Report
import BringUp.Proofs.Text.Plain

/-!
# The texts of a fatal exception

Whatever a frame holds, its report and its dump are plain text, so they reach the other end of
the serial line as they were written.
-/

namespace BringUp

set_option autoImplicit false

open Text (Plain plain_append plain_ite)

theorem Frame.plain_dump (frame : Frame) : Plain frame.dump := by
  refine Text.Outline.plain_block_group (by decide) (by decide) (by decide) fun part hpart => ?_
  obtain ⟨name, word, hmem, rfl⟩ : ∃ (name : String) (word : UInt32), name ∈ wordNames ∧
      part = .part name (.text (Text.hex word.toNat)) := by
    rw [List.mem_iff_getElem] at hpart
    obtain ⟨i, hi, rfl⟩ := hpart
    rw [List.getElem_zipWith]
    exact ⟨_, _, List.getElem_mem _, rfl⟩
  have hname : ∀ name ∈ wordNames, Plain name := by decide
  rw [Text.Outline.block, Text.Outline.block]
  exact plain_append (plain_append (hname name hmem) (by decide)) (Text.plain_hex _)

namespace Exception

theorem plain_name {vector : UInt8} {name : String} (h : name? vector = some name) : Plain name := by
  have hnames : ∀ name ∈ names, Plain name := by decide
  exact hnames name (List.mem_of_getElem? h)

theorem PageFault.plain_text (fault : PageFault) : Plain fault.text := by
  have hcause : Plain fault.cause.text := by cases fault.cause <;> decide
  have haccess : Plain fault.access.text := by cases fault.access <;> decide
  have hmode : Plain fault.mode.text := by cases fault.mode <;> decide
  have hwhat : Plain (fault.cause.text ++ " on " ++ fault.access.text) :=
    plain_append (plain_append hcause (by decide)) haccess
  have hwhere := plain_append (plain_append hwhat (t := " at ") (by decide))
    (Text.plain_hexFilled 10 fault.address.toNat)
  have hmain := plain_append (plain_append hwhere (t := " in ") (by decide)) hmode
  refine plain_append (plain_append (plain_append hmain ?_) ?_) ?_
  · exact plain_ite (by decide) (by decide)
  · exact plain_ite (by decide) (by decide)
  · exact plain_ite (by decide) (by decide)

namespace Report

theorem plain_errorCodeText (code : Option UInt32) : Plain (errorCodeText code) := by
  cases code with
  | none => decide
  | some code => exact plain_append (by decide) (Text.plain_hex code.toNat)

theorem plain_pageFaultText (fault : Option PageFault) : Plain (pageFaultText fault) := by
  cases fault with
  | none => decide
  | some fault => exact plain_append (by decide) fault.plain_text

/-- A report is plain if the name in it is. -/
theorem plain_text {report : Report} (hname : Plain report.name) : Plain report.text := by
  have hvector : Plain (toString report.vector) := Text.plain_toString report.vector.toNat
  have hwhat : Plain ("EXCEPTION: " ++ report.name ++ " (vector " ++ toString report.vector ++ ")") :=
    plain_append (plain_append (plain_append (plain_append (by decide) hname) (by decide)) hvector)
      (by decide)
  have hcode := plain_append hwhat (plain_errorCodeText report.errorCode)
  have hcs := plain_append (plain_append hcode (t := " at ") (by decide))
    (Text.plain_hexFilled 6 report.cs.toNat)
  have heip := plain_append (plain_append hcs (t := ":") (by decide))
    (Text.plain_hexFilled 10 report.eip.toNat)
  have heflags := plain_append (plain_append heip (t := ", eflags ") (by decide))
    (Text.plain_hexFilled 10 report.eflags.toNat)
  exact plain_append heflags (plain_pageFaultText report.pageFault)

theorem plain_classified {frame : Frame} {address : UInt32} {report : Report}
    (h : classify frame address = some report) : Plain report.text := by
  obtain ⟨name, hname, rfl⟩ := Option.map_eq_some_iff.mp h
  exact plain_text (plain_name hname)

end Report

end Exception

end BringUp
