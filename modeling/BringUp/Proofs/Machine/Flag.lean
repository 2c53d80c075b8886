import BringUp.Machine.Bench
import BringUp.Proofs.Machine.Processor

/-!
# The interrupt flag

What dispatch relies on: clearing the flag clears it, and of the other operations that dispatch
uses none sets it. The bench and the processor also keep a record from which it can be told how
often the flag was cleared and set, and in what order.
-/

namespace BringUp

set_option autoImplicit false

class LawfulFlag (M : Type) [Cpu M] [PortSpace M] : Prop where
  disabled (m : M) : Cpu.interruptsEnabled (Cpu.disableInterrupts m) = false
  readCr2 (m : M) : Cpu.interruptsEnabled (Cpu.readCr2 m).2 = Cpu.interruptsEnabled m
  output (port : UInt16) (value : UInt8) (m : M) :
    Cpu.interruptsEnabled (PortSpace.output port value m) = Cpu.interruptsEnabled m
  halt (m : M) (h : Cpu.interruptsEnabled m = false) : Cpu.interruptsEnabled (Cpu.halt m) = false

instance : LawfulFlag Bench where
  disabled _ := rfl
  readCr2 _ := rfl
  output _ _ _ := rfl
  halt _ h := h

theorem Processor.interrupts_output (port : UInt16) (value : UInt8) (p : Processor) :
    (p.output port value).interrupts = p.interrupts := by
  unfold Processor.output
  split
  · split <;> rfl
  · rfl

instance : LawfulFlag Processor where
  disabled _ := rfl
  readCr2 _ := rfl
  output := Processor.interrupts_output
  halt _ _ := rfl

/-- The two operations on the flag. -/
inductive FlagOperation where
  | disable
  | enable
  deriving DecidableEq

/-- Machines that record what is done to the flag. Accesses to ports are none of it. -/
class FlagRecord (M : Type) [Cpu M] [PortSpace M] extends LawfulFlag M where
  /-- The operations on the flag so far, oldest first. -/
  record : M → List FlagOperation
  enabled (m : M) : Cpu.interruptsEnabled (Cpu.enableInterrupts m) = true
  input (port : UInt16) (m : M) :
    Cpu.interruptsEnabled (PortSpace.input port m).2 = Cpu.interruptsEnabled m
  record_disable (m : M) : record (Cpu.disableInterrupts m) = record m ++ [.disable]
  record_enable (m : M) : record (Cpu.enableInterrupts m) = record m ++ [.enable]
  record_input (port : UInt16) (m : M) : record (PortSpace.input port m).2 = record m
  record_output (port : UInt16) (value : UInt8) (m : M) :
    record (PortSpace.output port value m) = record m

def CpuOperation.flag? : CpuOperation → Option FlagOperation
  | disableInterrupts => some .disable
  | enableInterrupts => some .enable
  | loadGdt | reloadSegments | loadIdt | writeCr3 | enablePaging => none

theorem Bench.interrupts_enableInterrupts (bench : Bench) :
    Cpu.interruptsEnabled (Cpu.enableInterrupts bench) = true := rfl

instance : FlagRecord Bench where
  record bench := bench.cpu.operations.filterMap CpuOperation.flag?
  enabled := Bench.interrupts_enableInterrupts
  input _ _ := rfl
  record_disable _ := List.filterMap_append
  record_enable _ := List.filterMap_append
  record_input _ _ := rfl
  record_output _ _ _ := rfl

def Instruction.flag? : Instruction → Option FlagOperation
  | clearInterrupts => some .disable
  | setInterrupts => some .enable
  | input _ _ | output _ _ | halt | readControl _ _ | writeControl _ _ | loadGdt _ | loadIdt _
  | loadSegment _ _ | farReturn _ => none

namespace Processor

/-- The operations on the flag among the instructions so far. -/
def flagOperations (p : Processor) : List FlagOperation := p.trace.filterMap Instruction.flag?

theorem flagOperations_executed (instruction : Instruction) (p : Processor) :
    (p.executed instruction).flagOperations = p.flagOperations ++ instruction.flag?.toList :=
  filterMap_executed Instruction.flag? instruction p

theorem flagOperations_input (port : UInt16) (p : Processor) :
    (p.input port).2.flagOperations = p.flagOperations := by
  unfold input
  split
  · rfl
  · exact (flagOperations_executed _ _).trans (List.append_nil _)

theorem flagOperations_output (port : UInt16) (value : UInt8) (p : Processor) :
    (p.output port value).flagOperations = p.flagOperations := by
  unfold output
  split
  · split <;> rfl
  · exact (flagOperations_executed _ _).trans (List.append_nil _)

theorem interrupts_setInterrupts (p : Processor) : p.setInterrupts.interrupts = true := rfl

theorem interrupts_input (port : UInt16) (p : Processor) :
    (p.input port).2.interrupts = p.interrupts := by
  unfold input
  split <;> rfl

end Processor

instance : FlagRecord Processor where
  record := Processor.flagOperations
  enabled := Processor.interrupts_setInterrupts
  input := Processor.interrupts_input
  record_disable _ := Processor.flagOperations_executed _ _
  record_enable _ := Processor.flagOperations_executed _ _
  record_input := Processor.flagOperations_input
  record_output := Processor.flagOperations_output

end BringUp
