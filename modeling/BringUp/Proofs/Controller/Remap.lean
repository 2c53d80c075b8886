import BringUp.Machine.Bench
import BringUp.Machine.System
import BringUp.Proofs.Console.Logging
import BringUp.Proofs.Controller.Acknowledgement

/-!
# Remapping from any state of the chips

The set-up sequence starts with a command that a chip obeys wherever it stands, and takes four
words from there. What the chips held before matters only for the masks, which are read first
and written back last.
-/

namespace BringUp.Controller

set_option autoImplicit false

/-- States whose port space is a bus that they keep. -/
class BusPart (σ : Type) [PortSpace σ] where
  bus (s : σ) : Bus
  withBus (b : Bus) (s : σ) : σ
  bus_withBus (b : Bus) (s : σ) : bus (withBus b s) = b
  withBus_withBus (b c : Bus) (s : σ) : withBus b (withBus c s) = withBus b s
  input_eq (port : UInt16) (s : σ) :
    PortSpace.input port s = ((bus s).answer port, withBus ((bus s).read port).2 s)
  output_eq (port : UInt16) (value : UInt8) (s : σ) :
    PortSpace.output port value s = withBus ((bus s).write port value) s

instance : BusPart Bus where
  bus b := b
  withBus b _ := b
  bus_withBus _ _ := rfl
  withBus_withBus _ _ _ := rfl
  input_eq _ _ := rfl
  output_eq _ _ _ := rfl

instance : BusPart Bench where
  bus := Bench.bus
  withBus bus bench := { bench with bus }
  bus_withBus _ _ := rfl
  withBus_withBus _ _ _ := rfl
  input_eq _ _ := rfl
  output_eq _ _ _ := rfl

instance {M : Type} [PortSpace M] [BusPart M] : BusPart (System M) where
  bus system := BusPart.bus system.machine
  withBus bus system := { system with machine := BusPart.withBus bus system.machine }
  bus_withBus b system := BusPart.bus_withBus b system.machine
  withBus_withBus b c system := by rw [BusPart.withBus_withBus b c system.machine]
  input_eq port system := by
    show ((PortSpace.input port system.machine).1, _) = _
    rw [BusPart.input_eq]
  output_eq port value system := by
    show { system with machine := PortSpace.output port value system.machine } = _
    rw [BusPart.output_eq]

/-- A chip that has gone through the set-up sequence. -/
def Chip.setUp (offset cascade : UInt8) (chip : Chip) : Chip :=
  { chip with
    vectorOffset := offset
    cascade
    mode := processorMode
    step := .idle
    expectsMode := true }

/-- Wherever a chip stands, the five words of a set-up with the mask behind them take it
through. -/
theorem Chip.data_of_command (offset cascade : UInt8) (chip : Chip) :
    (((((chip.command (startSetUp ||| announceMode)).data offset).data cascade).data
      processorMode).data chip.mask) = chip.setUp offset cascade := rfl

/-- A chip that stands outside the set-up sequence with its words in place, and has kept from
`before` what no word of the sequence is about. -/
structure Chip.SetUpFrom (before : Chip) (offset cascade : UInt8) (after : Chip) : Prop where
  idle : after.step = .idle
  vectorOffset : after.vectorOffset = offset
  cascade : after.cascade = cascade
  mode : after.mode = 1
  mask : after.mask = before.mask
  endOfInterrupts : after.endOfInterrupts = before.endOfInterrupts

theorem Chip.setUpFrom_setUp (offset cascade : UInt8) (chip : Chip) :
    chip.SetUpFrom offset cascade (chip.setUp offset cascade) :=
  ⟨rfl, rfl, rfl, rfl, rfl, rfl⟩

namespace Pair

/-- The words of a set-up with their ports. -/
def setUpWords (pair : Pair) : List (UInt16 × UInt8) :=
  [(masterCommand, startSetUp ||| announceMode), (slaveCommand, startSetUp ||| announceMode),
    (masterData, pair.master), (slaveData, pair.slave),
    (masterData, cascadeMask), (slaveData, cascadeIdentity),
    (masterData, processorMode), (slaveData, processorMode)]

/-- All accesses of a remapping that finds the masks `masks`. -/
def remapTrace (pair : Pair) (masks : Masks) : List PortOperation :=
  [.read masterData masks.master, .read slaveData masks.slave] ++
    pair.setUpWords.flatMap (fun word => [.write word.1 word.2, .write Port.settling 0]) ++
    [.write masterData masks.master, .write slaveData masks.slave]

end Pair

theorem Bus.eq_of_parts {a b : Bus} (log : a.log = b.log) (master : a.master = b.master)
    (slave : a.slave = b.slave) : a = b := by
  cases a
  cases b
  cases log
  cases master
  cases slave
  rfl

/-- The bus after a remapping. -/
def Bus.remapped (pair : Pair) (bus : Bus) : Bus where
  log := bus.log ++ pair.remapTrace ⟨bus.master.mask, bus.slave.mask⟩
  master := bus.master.setUp pair.master cascadeMask
  slave := bus.slave.setUp pair.slave cascadeIdentity

section Operations

variable {σ : Type} [PortSpace σ] [BusPart σ]

theorem read_eq (port : UInt16) (s : σ) :
    Port.read port s =
      .ok ((BusPart.bus s).answer port) (BusPart.withBus ((BusPart.bus s).read port).2 s) := by
  rw [Port.read, BusPart.input_eq]

theorem write_eq (port : UInt16) (value : UInt8) (s : σ) :
    Port.write port value s =
      .ok () (BusPart.withBus ((BusPart.bus s).write port value) s) := by
  rw [Port.write, BusPart.output_eq]

theorem readMasks_eq (s : σ) :
    Pair.readMasks s =
      .ok ⟨(BusPart.bus s).master.mask, (BusPart.bus s).slave.mask⟩
        (BusPart.withBus (((BusPart.bus s).read masterData).2.read slaveData).2 s) := by
  rw [Pair.readMasks, Action.bind_ok (read_eq masterData s), Action.bind_ok (read_eq slaveData _),
    BusPart.bus_withBus, BusPart.withBus_withBus]
  rfl

theorem writeMasks_eq (masks : Masks) (s : σ) :
    Pair.writeMasks masks s =
      .ok () (BusPart.withBus (((BusPart.bus s).write masterData masks.master).write slaveData
        masks.slave) s) := by
  rw [Pair.writeMasks, Action.bind_ok (write_eq masterData masks.master s), write_eq,
    BusPart.bus_withBus, BusPart.withBus_withBus]

/-- The bus after a word that the chip was given time for. -/
def Bus.takeWord (bus : Bus) (word : UInt16 × UInt8) : Bus :=
  (bus.write word.1 word.2).write Port.settling 0

theorem setUpWord_eq (port : UInt16) (value : UInt8) (s : σ) :
    Pair.setUpWord port value s =
      .ok () (BusPart.withBus ((BusPart.bus s).takeWord (port, value)) s) := by
  rw [Pair.setUpWord, Action.bind_ok (write_eq port value s), Port.settle, write_eq,
    BusPart.bus_withBus, BusPart.withBus_withBus]
  rfl

theorem setUp_eq (pair : Pair) (s : σ) :
    pair.setUp s =
      .ok () (BusPart.withBus (pair.setUpWords.foldl Bus.takeWord (BusPart.bus s)) s) := by
  rw [Pair.setUp]
  simp only [Action.bind_ok (setUpWord_eq _ _ _), setUpWord_eq, BusPart.bus_withBus,
    BusPart.withBus_withBus]
  rfl

end Operations

theorem log_foldl_takeWord (words : List (UInt16 × UInt8)) (bus : Bus) :
    (words.foldl Bus.takeWord bus).log =
      bus.log ++ words.flatMap fun word =>
        [.write word.1 word.2, .write Port.settling 0] := by
  induction words generalizing bus with
  | nil => simp
  | cons word rest ih =>
    have hword : (bus.takeWord word).log =
        bus.log ++ [.write word.1 word.2, .write Port.settling 0] := by
      rw [Bus.takeWord, Bus.log_write, Bus.log_write, List.append_assoc]
      rfl
    rw [List.foldl_cons, ih, hword, List.flatMap_cons, List.append_assoc]

/-- Masks read, chips set up and masks written back: the chips end up set up, whatever they
held. -/
theorem remapped_eq (pair : Pair) (bus : Bus) :
    ((pair.setUpWords.foldl Bus.takeWord ((bus.read masterData).2.read slaveData).2).write
      masterData bus.master.mask).write slaveData bus.slave.mask = bus.remapped pair := by
  apply Bus.eq_of_parts
  case master => exact Chip.data_of_command pair.master cascadeMask bus.master
  case slave => exact Chip.data_of_command pair.slave cascadeIdentity bus.slave
  case log =>
    rw [Bus.log_write, Bus.log_write, log_foldl_takeWord]
    simp only [Bus.remapped, Pair.remapTrace, Bus.read_snd, List.append_assoc,
      List.cons_append, List.nil_append]
    rfl

section Remap

variable {σ : Type} [PortSpace σ] [BusPart σ] [HasConsole σ]

/-- The record of a remapping that found the masks `masks`. -/
def remapRecord (pair : Pair) (masks : Masks) : String :=
  "PIC remapped: master -> " ++ toString pair.master ++ ", slave -> " ++ toString pair.slave ++
    ", masks " ++ Text.hexFilled 4 masks.master.toNat ++ "/" ++
    Text.hexFilled 4 masks.slave.toNat

/-- Once the chips are set up, only the record is left to be printed. -/
theorem remap_eq_log (pair : Pair) (s : σ) :
    pair.remap s =
      Console.log .debug
        (remapRecord pair ⟨(BusPart.bus s).master.mask, (BusPart.bus s).slave.mask⟩)
        (BusPart.withBus ((BusPart.bus s).remapped pair) s) := by
  rw [Pair.remap, Action.bind_ok (readMasks_eq s), Action.bind_ok (setUp_eq pair _),
    Action.bind_ok (writeMasks_eq _ _)]
  simp only [BusPart.bus_withBus, BusPart.withBus_withBus, remapped_eq]
  rfl

/-- Remapping always returns, with the chips set up and the record printed. -/
theorem remap_eq (pair : Pair) {s : σ}
    (hconsole : ∀ bus, HasConsole.console (BusPart.withBus bus s) = HasConsole.console s)
    (hfree : (HasConsole.console s).Free) :
    pair.remap s =
      .ok () (HasConsole.withConsole
        ((HasConsole.console s).logged .debug (remapRecord pair
          ⟨(BusPart.bus s).master.mask, (BusPart.bus s).slave.mask⟩))
        (BusPart.withBus ((BusPart.bus s).remapped pair) s)) := by
  have hfree' : (HasConsole.console
      (BusPart.withBus ((BusPart.bus s).remapped pair) s)).Free := by
    rw [hconsole]
    exact hfree
  rw [remap_eq_log, Console.log_free hfree', hconsole]

end Remap

section Repeating

/-- Remaps so many times in a row. -/
def Pair.remapTimes (pair : Pair) : Nat → Action (System Bus) Unit
  | 0 => pure ()
  | times + 1 => do
      pair.remap
      pair.remapTimes times

/-- Whether or not the record can be printed, the chips are set up. -/
theorem machine_remap (pair : Pair) (s : System Bus) :
    (Code.after pair.remap s).machine = s.machine.remapped pair := by
  have hremap : Code.after pair.remap s =
      Code.after (Console.log .debug
        (remapRecord pair ⟨s.machine.master.mask, s.machine.slave.mask⟩))
        ⟨s.machine.remapped pair, s.console⟩ := by
    rw [Code.after, remap_eq_log]
    rfl
  obtain ⟨console, hlog⟩ := Console.after_log .debug
    (remapRecord pair ⟨s.machine.master.mask, s.machine.slave.mask⟩)
    (⟨s.machine.remapped pair, s.console⟩ : System Bus)
  rw [hremap, hlog]
  rfl

theorem remap_returns (pair : Pair) {s : System Bus} (hfree : s.console.Free) :
    ∃ s', pair.remap s = .ok () s' ∧ s'.console.Free :=
  ⟨_, remap_eq pair (fun _ => rfl) hfree, Console.free_logged hfree _ _⟩

theorem remapTimes_returns (pair : Pair) (times : Nat) {s : System Bus}
    (hfree : s.console.Free) : ∃ s', pair.remapTimes times s = .ok () s' := by
  induction times generalizing s with
  | zero => exact ⟨s, rfl⟩
  | succ times ih =>
    obtain ⟨s1, hremap, hfree1⟩ := remap_returns pair hfree
    obtain ⟨s2, hrest⟩ := ih hfree1
    exact ⟨s2, by rw [Pair.remapTimes, Action.bind_ok hremap, hrest]⟩

/-- What a machine holds after remapping so many times is settled by the first. A remapping that is
kept waiting by a printer has set the chips up by then. -/
theorem chips_remapTimes (pair : Pair) (times : Nat) (s : System Bus) :
    (Code.after (pair.remapTimes (times + 1)) s).machine.master =
        (s.machine.remapped pair).master ∧
      (Code.after (pair.remapTimes (times + 1)) s).machine.slave =
        (s.machine.remapped pair).slave := by
  induction times generalizing s with
  | zero =>
    have honce : Code.after (pair.remapTimes (0 + 1)) s = Code.after pair.remap s := by
      rw [Pair.remapTimes, Pair.remapTimes, bind_pure_unit]
    rw [honce, machine_remap]
    exact ⟨rfl, rfl⟩
  | succ times ih =>
    have hmachine := machine_remap pair s
    rw [Code.after] at hmachine
    rw [Pair.remapTimes, Code.after]
    cases hremap : pair.remap s with
    | ok value s1 =>
      rw [hremap] at hmachine
      rw [Action.bind_ok hremap]
      have hrest := ih s1
      rwa [hmachine] at hrest
    | error stop s1 =>
      rw [hremap] at hmachine
      rw [Action.bind_error hremap]
      exact ⟨congrArg Bus.master hmachine, congrArg Bus.slave hmachine⟩

/-- Both chips deliver on the vectors that start at `first` and `second`, all that no word of the
set-up is about is as it was before, and the accesses that led there come last in the log. -/
structure Settled (first second : UInt8) (before after : Bus) : Prop where
  master : before.master.SetUpFrom first 4 after.master
  slave : before.slave.SetUpFrom second 2 after.slave
  log : after.log = before.log ++
    [.read 0x21 before.master.mask, .read 0xA1 before.slave.mask,
      .write 0x20 0x11, .write 0x80 0, .write 0xA0 0x11, .write 0x80 0,
      .write 0x21 first, .write 0x80 0, .write 0xA1 second, .write 0x80 0,
      .write 0x21 4, .write 0x80 0, .write 0xA1 2, .write 0x80 0,
      .write 0x21 1, .write 0x80 0, .write 0xA1 1, .write 0x80 0,
      .write 0x21 before.master.mask, .write 0xA1 before.slave.mask]

theorem settled_remapped (pair : Pair) (bus : Bus) :
    Settled pair.master pair.slave bus (bus.remapped pair) :=
  ⟨Chip.setUpFrom_setUp _ _ _, Chip.setUpFrom_setUp _ _ _, rfl⟩

/-- For any two ranges that are accepted and chips in any state, also in the middle of a set-up,
one remapping settles both chips and any number of further ones leaves them alone. All of them
return if nobody else is printing; the chips are settled even if somebody is. -/
theorem remap_settles {master slave : UInt8} {pair : Pair}
    (haccepted : Pair.ofOffsets master slave = .ok pair) (s : System Bus) :
    Settled master slave s.machine (Code.after pair.remap s).machine ∧
      ∀ times,
        (Code.after (pair.remapTimes (times + 1)) s).machine.master =
          (Code.after pair.remap s).machine.master ∧
        (Code.after (pair.remapTimes (times + 1)) s).machine.slave =
          (Code.after pair.remap s).machine.slave ∧
        (s.console.Free → ∃ s', pair.remapTimes (times + 1) s = .ok () s') := by
  obtain ⟨rfl, rfl⟩ := Pair.ofOffsets_ok haccepted
  rw [machine_remap]
  refine ⟨settled_remapped pair s.machine, fun times => ?_⟩
  obtain ⟨hmaster, hslave⟩ := chips_remapTimes pair times s
  exact ⟨hmaster, hslave, remapTimes_returns pair (times + 1)⟩

/-- When the remapping starts, the master waits for its cascade word and the slave for its mode
word. -/
theorem interrupted_remap_settles :
    ∃ s', Pair.default.remapTimes 3
        ⟨⟨[], ⟨0xFB, 8, 0, 0, 7, .cascade, false⟩, ⟨0x12, 0x70, 2, 3, 0, .mode, true⟩⟩,
          .ready⟩ = .ok () s' ∧
      s'.machine.master = ⟨0xFB, 32, 4, 1, 7, .idle, true⟩ ∧
      s'.machine.slave = ⟨0x12, 40, 2, 1, 0, .idle, true⟩ := by
  obtain ⟨-, hrun⟩ := remap_settles (Pair.ofOffsets_self .default)
    ⟨⟨[], ⟨0xFB, 8, 0, 0, 7, .cascade, false⟩, ⟨0x12, 0x70, 2, 3, 0, .mode, true⟩⟩, .ready⟩
  obtain ⟨hmaster, hslave, hreturns⟩ := hrun 2
  obtain ⟨s', hrun⟩ := hreturns Console.free_ready
  rw [Code.after, hrun] at hmaster hslave
  refine ⟨s', hrun, hmaster.trans ?_, hslave.trans ?_⟩
  · rw [machine_remap]
    rfl
  · rw [machine_remap]
    rfl

end Repeating

end BringUp.Controller
