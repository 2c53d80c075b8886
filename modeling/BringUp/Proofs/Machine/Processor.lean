import BringUp.Machine.Processor

/-!
# What the instructions leave behind

Every access that an instruction makes to a port below the serial line goes to the controllers and
into the trace. Turning paging on sets one bit of a control register, and the segment registers are
all loaded before the far return is over.
-/

namespace BringUp

set_option autoImplicit false

/-- The port access that an instruction makes, if it makes one. -/
def Instruction.access? : Instruction → Option PortOperation
  | input port value => some (.read port value)
  | output port value => some (.write port value)
  | clearInterrupts | setInterrupts | halt | readControl _ _ | writeControl _ _ | loadGdt _
  | loadIdt _ | loadSegment _ _ | farReturn _ => none

namespace Processor

/-- The port accesses of the instructions so far, oldest first. -/
def accesses (p : Processor) : List PortOperation := p.trace.filterMap Instruction.access?

/-- What is told of each instruction is told of one more once it is executed. -/
theorem filterMap_executed {α : Type} (told : Instruction → Option α) (instruction : Instruction)
    (p : Processor) :
    (p.executed instruction).trace.filterMap told =
      p.trace.filterMap told ++ (told instruction).toList := by
  simp only [executed, List.filterMap_append]
  cases h : told instruction with
  | none => simp [h]
  | some value => simp [h]

theorem accesses_executed (instruction : Instruction) (p : Processor) :
    (p.executed instruction).accesses = p.accesses ++ instruction.access?.toList :=
  filterMap_executed Instruction.access? instruction p

theorem accesses_quiet {instruction : Instruction} (h : instruction.access? = none)
    (p : Processor) : (p.executed instruction).accesses = p.accesses := by
  rw [accesses_executed, h, Option.toList_none, List.append_nil]

theorem isSerial_of_lt {port : UInt16} (h : port < Uart.dataPort) : isSerial port = false := by
  have hle : ¬ Uart.dataPort ≤ port := UInt16.not_le.mpr h
  rw [isSerial, decide_eq_false hle, Bool.false_and]

theorem input_eq {port : UInt16} (h : port < Uart.dataPort) (p : Processor) :
    PortSpace.input port p = (p.bus.answer port,
      { p with bus := (p.bus.read port).2 }.executed (.input port (p.bus.answer port))) := by
  show input port p = _
  rw [input, isSerial_of_lt h]
  rfl

theorem output_eq {port : UInt16} (h : port < Uart.dataPort) (value : UInt8) (p : Processor) :
    PortSpace.output port value p =
      { p with bus := p.bus.write port value }.executed (.output port value) := by
  show output port value p = _
  rw [output, isSerial_of_lt h]
  rfl

/-- Five loads and a far return reach all six segment registers. -/
theorem reloadSegments_eq (code data : Selector) (p : Processor) :
    reloadSegments code data p =
      { p with
        segment := fun segment => if segment = .cs then code else data
        trace := p.trace ++
          [.loadSegment .ds data, .loadSegment .es data, .loadSegment .fs data,
            .loadSegment .gs data, .loadSegment .ss data, .farReturn code] } := by
  simp only [reloadSegments, farReturn, loadSegment, executed, List.append_assoc,
    List.cons_append, List.nil_append]
  congr 1
  funext segment
  cases segment <;> rfl

/-- The paging bit is set whatever it was. -/
theorem pagingBit_set (cr0 : UInt32) : (cr0 ||| pagingBit) &&& pagingBit = pagingBit := by
  apply UInt32.toBitVec_inj.mp
  ext i hi
  rw [UInt32.toBitVec_and, UInt32.toBitVec_or, BitVec.getElem_and, BitVec.getElem_or]
  cases pagingBit.toBitVec[i] <;> simp

theorem otherBits_set (cr0 : UInt32) :
    (cr0 ||| pagingBit) &&& ~~~pagingBit = cr0 &&& ~~~pagingBit := by
  apply UInt32.toBitVec_inj.mp
  rw [UInt32.toBitVec_and, UInt32.toBitVec_or, UInt32.toBitVec_not, BitVec.and_or_distrib_right,
    BitVec.and_not_self]
  exact BitVec.or_zero

end Processor

end BringUp
