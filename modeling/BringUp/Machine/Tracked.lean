import BringUp.Cpu

/-!
# A processor that keeps track

This processor keeps what was loaded into its registers and the order in which the privileged
operations came. It executes nothing, so stopping it changes nothing.
-/

namespace BringUp

set_option autoImplicit false

inductive CpuOperation where
  | loadGdt
  | reloadSegments
  | loadIdt
  | writeCr3
  | enablePaging
  | enableInterrupts
  | disableInterrupts
  deriving DecidableEq

def CpuOperation.name : CpuOperation → String
  | loadGdt => "LoadGdt"
  | reloadSegments => "ReloadSegments"
  | loadIdt => "LoadIdt"
  | writeCr3 => "WriteCr3"
  | enablePaging => "EnablePaging"
  | enableInterrupts => "EnableInterrupts"
  | disableInterrupts => "DisableInterrupts"

structure TrackedCpu where
  /-- The descriptor-table pointers, once loaded. -/
  gdtr : Option TablePointer
  idtr : Option TablePointer
  codeSelector : Selector
  dataSelector : Selector
  cr2 : UInt32
  cr3 : UInt32
  paging : Bool
  interrupts : Bool
  /-- The operations so far, oldest first. -/
  operations : List CpuOperation

namespace TrackedCpu

def reset : TrackedCpu := ⟨none, none, 0, 0, 0, 0, false, false, []⟩

def record (operation : CpuOperation) (cpu : TrackedCpu) : TrackedCpu :=
  { cpu with operations := cpu.operations ++ [operation] }

instance : Cpu TrackedCpu where
  loadGdt pointer cpu := { cpu with gdtr := some pointer }.record .loadGdt
  reloadSegments code data cpu :=
    { cpu with codeSelector := code, dataSelector := data }.record .reloadSegments
  loadIdt pointer cpu := { cpu with idtr := some pointer }.record .loadIdt
  writeCr3 directory cpu := { cpu with cr3 := directory }.record .writeCr3
  enablePaging cpu := { cpu with paging := true }.record .enablePaging
  readCr2 cpu := (cpu.cr2, cpu)
  enableInterrupts cpu := { cpu with interrupts := true }.record .enableInterrupts
  disableInterrupts cpu := { cpu with interrupts := false }.record .disableInterrupts
  interruptsEnabled cpu := cpu.interrupts
  halt cpu := cpu

end TrackedCpu

end BringUp
