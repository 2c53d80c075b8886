import BringUp.Proofs.Boot.Alike
import BringUp.Proofs.Machine.Processor

/-!
# The bench stands for the processor

On the bench the operations of bring-up change a record; on the processor they are instructions.
Whatever is called in whatever order, both machines give the same answers, see the same port
accesses and end up with the same in every register that bring-up loads.
-/

namespace BringUp

set_option autoImplicit false

open BringUp.Action (Agree)

namespace Controller.Bus

theorem answer_eq {a b : Bus} (hmaster : a.master = b.master) (hslave : a.slave = b.slave)
    (port : UInt16) : a.answer port = b.answer port := by
  rw [answer, answer, hmaster, hslave]

/-- What a written byte makes of the chips does not depend on the accesses before it. -/
theorem chips_write {a b : Bus} (hmaster : a.master = b.master) (hslave : a.slave = b.slave)
    (port : UInt16) (value : UInt8) :
    (a.write port value).master = (b.write port value).master ∧
      (a.write port value).slave = (b.write port value).slave := by
  unfold write react
  split
  · exact ⟨congrArg (Chip.command value) hmaster, hslave⟩
  split
  · exact ⟨hmaster, congrArg (Chip.command value) hslave⟩
  split
  · exact ⟨congrArg (Chip.data value) hmaster, hslave⟩
  split
  · exact ⟨hmaster, congrArg (Chip.data value) hslave⟩
  · exact ⟨hmaster, hslave⟩

end Controller.Bus

namespace Boot

variable {bench₀ bench : Bench} {p₀ p : Processor}

/-- The chips of both machines are in the same state, and since the start both machines have made
the same port accesses. -/
structure SameControllers (bench₀ : Bench) (p₀ : Processor) (bench : Bench) (p : Processor) :
    Prop where
  master : p.bus.master = bench.bus.master
  slave : p.bus.slave = bench.bus.slave
  accesses : ∃ operations, bench.bus.log = bench₀.bus.log ++ operations ∧
    p.accesses = p₀.accesses ++ operations

/-- The processor has in its registers what the bench has on record. A table pointer that was never
loaded is the processor's first one, and of the control register only one bit may differ from the
first value. -/
structure SameRegisters (p₀ : Processor) (cpu : TrackedCpu) (p : Processor) : Prop where
  gdtr : p.gdtr = cpu.gdtr.getD p₀.gdtr
  idtr : p.idtr = cpu.idtr.getD p₀.idtr
  code : p.segment .cs = cpu.codeSelector
  data : ∀ segment, segment ≠ .cs → p.segment segment = cpu.dataSelector
  cr3 : p.cr3 = cpu.cr3
  paging : cpu.paging = decide (p.cr0 &&& Processor.pagingBit ≠ 0)
  otherBits : p.cr0 &&& ~~~Processor.pagingBit = p₀.cr0 &&& ~~~Processor.pagingBit
  interrupts : p.interrupts = cpu.interrupts

/-- The two machines with their contexts and consoles. -/
structure Corresponds (bench₀ : Bench) (p₀ : Processor) (s : System (Board Bench))
    (t : System (Board Processor)) : Prop where
  controllers : SameControllers bench₀ p₀ s.machine.machine t.machine.machine
  registers : SameRegisters p₀ s.machine.machine.cpu t.machine.machine
  context : s.machine.context = t.machine.context
  console : s.console = t.console

/-- One more access on both machines. -/
theorem SameControllers.access (h : SameControllers bench₀ p₀ bench p) {operation : PortOperation}
    {bench' : Bench} {p' : Processor} (hlog : bench'.bus.log = bench.bus.log ++ [operation])
    (haccesses : p'.accesses = p.accesses ++ [operation]) :
    ∃ operations, bench'.bus.log = bench₀.bus.log ++ operations ∧
      p'.accesses = p₀.accesses ++ operations := by
  obtain ⟨operations, hbench, hprocessor⟩ := h.accesses
  refine ⟨operations ++ [operation], ?_, ?_⟩
  · rw [hlog, hbench, List.append_assoc]
  · rw [haccesses, hprocessor, List.append_assoc]

theorem SameControllers.input (h : SameControllers bench₀ p₀ bench p) {port : UInt16}
    (hport : port < Uart.dataPort) :
    (PortSpace.input port bench).1 = (PortSpace.input port p).1 ∧
      SameControllers bench₀ p₀ (PortSpace.input port bench).2 (PortSpace.input port p).2 := by
  have hanswer : bench.bus.answer port = p.bus.answer port :=
    Controller.Bus.answer_eq h.master.symm h.slave.symm port
  rw [Processor.input_eq hport, ← hanswer]
  exact ⟨rfl, h.master, h.slave, h.access rfl (Processor.accesses_executed _ _)⟩

theorem SameControllers.output (h : SameControllers bench₀ p₀ bench p) {port : UInt16}
    (hport : port < Uart.dataPort) (value : UInt8) :
    SameControllers bench₀ p₀ (PortSpace.output port value bench)
      (PortSpace.output port value p) := by
  rw [Processor.output_eq hport]
  obtain ⟨hmaster, hslave⟩ := Controller.Bus.chips_write h.master h.slave port value
  exact ⟨hmaster, hslave, h.access (Controller.Bus.log_write port value bench.bus)
    (Processor.accesses_executed _ _)⟩

/-- What changes neither the controllers nor the accesses so far keeps them the same. -/
theorem SameControllers.beside (h : SameControllers bench₀ p₀ bench p) {bench' : Bench}
    {p' : Processor} (hbench : bench'.bus = bench.bus) (hbus : p'.bus = p.bus)
    (haccesses : p'.accesses = p.accesses) : SameControllers bench₀ p₀ bench' p' := by
  obtain ⟨hmaster, hslave, hsince⟩ := h
  constructor
  case master => rw [hbus, hbench, hmaster]
  case slave => rw [hbus, hbench, hslave]
  case accesses => rwa [hbench, haccesses]

variable (bench₀ p₀)

theorem portsAlike_corresponds : PortsAlike (Corresponds bench₀ p₀) where
  value _ _ _ hport h := (h.controllers.input hport).1
  input port s t hport h := by
    refine ⟨(h.controllers.input hport).2, ?_, h.context, h.console⟩
    show SameRegisters p₀ s.machine.machine.cpu (PortSpace.input port t.machine.machine).2
    rw [Processor.input_eq hport]
    exact { h.registers with }
  output port value s t hport h := by
    refine ⟨h.controllers.output hport value, ?_, h.context, h.console⟩
    show SameRegisters p₀ s.machine.machine.cpu (PortSpace.output port value t.machine.machine)
    rw [Processor.output_eq hport]
    exact { h.registers with }

theorem cpusAlike_corresponds : CpusAlike (Corresponds bench₀ p₀) where
  loadGdt pointer s t h :=
    ⟨h.controllers.beside rfl rfl (Processor.accesses_quiet rfl _),
      { h.registers with gdtr := rfl }, h.context, h.console⟩
  reloadSegments code data s t h := by
    have hreload : Cpu.reloadSegments code data t =
        { t with machine := { t.machine with
            machine := Processor.reloadSegments code data t.machine.machine } } := rfl
    rw [hreload, Processor.reloadSegments_eq]
    refine ⟨h.controllers.beside rfl rfl ?_, ?_, h.context, h.console⟩
    · simp only [Processor.accesses, List.filterMap_append]
      exact List.append_nil _
    · exact { h.registers with code := rfl, data := fun segment hsegment => if_neg hsegment }
  loadIdt pointer s t h :=
    ⟨h.controllers.beside rfl rfl (Processor.accesses_quiet rfl _),
      { h.registers with idtr := rfl }, h.context, h.console⟩
  writeCr3 directory s t h :=
    ⟨h.controllers.beside rfl rfl (Processor.accesses_quiet rfl _),
      { h.registers with cr3 := rfl }, h.context, h.console⟩
  enablePaging s t h := by
    refine ⟨h.controllers.beside rfl rfl (Processor.accesses_quiet rfl _), ?_, h.context,
      h.console⟩
    refine { h.registers with paging := ?_, otherBits := ?_ }
    · show true =
        decide ((t.machine.machine.cr0 ||| Processor.pagingBit) &&& Processor.pagingBit ≠ 0)
      rw [Processor.pagingBit_set]
      rfl
    · show (t.machine.machine.cr0 ||| Processor.pagingBit) &&& ~~~Processor.pagingBit = _
      rw [Processor.otherBits_set]
      exact h.registers.otherBits
  enableInterrupts s t h :=
    ⟨h.controllers.beside rfl rfl (Processor.accesses_quiet rfl _),
      { h.registers with interrupts := rfl }, h.context, h.console⟩

theorem consolesAlike_corresponds : ConsolesAlike (Corresponds bench₀ p₀) where
  part _ _ h := h.console
  withPart _ _ _ h := ⟨h.controllers, h.registers, h.context, rfl⟩

theorem contextsAlike_corresponds : PartsAlike Context (Corresponds bench₀ p₀) where
  part _ _ h := h.context
  withPart _ _ _ h := ⟨h.controllers, h.registers, rfl, h.console⟩

theorem alike_corresponds : Alike (Corresponds bench₀ p₀) :=
  ⟨portsAlike_corresponds bench₀ p₀, cpusAlike_corresponds bench₀ p₀,
    consolesAlike_corresponds bench₀ p₀, contextsAlike_corresponds bench₀ p₀⟩

variable {bench₀ p₀}

/-- A bench and a processor that correspond, with their chips in any state, take any calls from any
stage in the same way: both give the same answers, or both wait for the same printer, and they
correspond afterwards, with the same tables and stage in their contexts. While nobody else is
printing, every call is answered. -/
theorem backends_agree (pair : Controller.Pair) (calls : List Call) {s : System (Board Bench)}
    {t : System (Board Processor)}
    (hstart : Corresponds s.machine.machine t.machine.machine s t) :
    Agree (Corresponds s.machine.machine t.machine.machine) (attemptAll pair calls s)
        (attemptAll pair calls t) ∧
      (s.console.Free → ∃ answers s' t',
        attemptAll pair calls s = .ok answers s' ∧ attemptAll pair calls t = .ok answers t' ∧
        answers.length = calls.length ∧
        Corresponds s.machine.machine t.machine.machine s' t') := by
  have hends := (alike_corresponds s.machine.machine t.machine.machine).attemptAll pair calls s t
    hstart
  refine ⟨hends, fun hfree => ?_⟩
  obtain ⟨answers, console, -, hrun, hlength, -⟩ := attemptAll_free pair calls hfree
  rw [hrun] at hends
  obtain ⟨t', hrun', hcorresponds⟩ := hends.returns
  exact ⟨answers, _, t', hrun, hrun', hlength, hcorresponds⟩

/-- The loader left its own segment table and two bits of the control register set, the master is
in the middle of a set-up, and the calls come too early and too often. -/
theorem impatient_backends_agree :
    ∃ answers s' t',
      attemptAll .default [.interrupts, .segments, .paging, .segments, .gates .bench, .controller]
        (⟨⟨.fresh (.numbered 256),
          ⟨⟨[], ⟨0xFB, 8, 0, 0, 7, .cascade, true⟩, .reset⟩, .reset⟩⟩, quiet⟩ :
            System (Board Bench)) = .ok answers s' ∧
      attemptAll .default [.interrupts, .segments, .paging, .segments, .gates .bench, .controller]
        (⟨⟨.fresh (.numbered 256),
          { Processor.reset with
            cr0 := 0x11
            gdtr := ⟨0xFFFF, 0x9000⟩
            bus := ⟨[], ⟨0xFB, 8, 0, 0, 7, .cascade, true⟩, .reset⟩ }⟩, quiet⟩ :
          System (Board Processor)) = .ok answers t' ∧
      t'.machine.machine.cr0 &&& Processor.pagingBit ≠ 0 ∧
      t'.machine.machine.cr0 &&& ~~~Processor.pagingBit = 0x11 ∧
      t'.machine.machine.accesses = s'.machine.machine.bus.log ∧
      t'.machine.machine.cr3 = s'.machine.machine.cpu.cr3 := by
  obtain ⟨-, hreturns⟩ := backends_agree .default
    [.interrupts, .segments, .paging, .segments, .gates .bench, .controller]
    (s := ⟨⟨.fresh (.numbered 256),
      ⟨⟨[], ⟨0xFB, 8, 0, 0, 7, .cascade, true⟩, .reset⟩, .reset⟩⟩, quiet⟩)
    (t := ⟨⟨.fresh (.numbered 256),
      { Processor.reset with
        cr0 := 0x11
        gdtr := ⟨0xFFFF, 0x9000⟩
        bus := ⟨[], ⟨0xFB, 8, 0, 0, 7, .cascade, true⟩, .reset⟩ }⟩, quiet⟩)
    ⟨⟨rfl, rfl, [], rfl, rfl⟩, ⟨rfl, rfl, rfl, fun _ _ => rfl, rfl, by decide, rfl, rfl⟩, rfl, rfl⟩
  obtain ⟨answers, s', t', hrun, hrun', -, hcorresponds⟩ := hreturns ⟨rfl, rfl⟩
  obtain ⟨operations, hbench, hprocessor⟩ := hcorresponds.controllers.accesses
  have hpaging : s'.machine.machine.cpu.paging = true :=
    congrArg (·.machine.cpu.paging) (board_attemptAll ⟨rfl, rfl⟩ hrun)
  rw [hcorresponds.registers.paging, decide_eq_true_iff] at hpaging
  exact ⟨answers, s', t', hrun, hrun', hpaging, hcorresponds.registers.otherBits,
    hprocessor.trans hbench.symm, hcorresponds.registers.cr3⟩

end Boot

end BringUp
