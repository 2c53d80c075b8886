import BringUp.Proofs.Controller.Acknowledgement
import BringUp.Proofs.Controller.Lines
import BringUp.Proofs.Controller.Remap

/-!
# The pair as a set of lines

Outside the set-up sequence the pair behaves like the set of lines that it holds back. Each
operation changes that set in its own way, its answer can be told from the set, and a line that
does not exist is refused before any port is touched. Acknowledgements are counted beside the set.
-/

namespace BringUp.Controller

set_option autoImplicit false

namespace Bus

/-- Neither chip is in the middle of its set-up. -/
structure Idle (bus : Bus) : Prop where
  master : bus.master.step = .idle
  slave : bus.slave.step = .idle

def masks (bus : Bus) : Masks := ⟨bus.master.mask, bus.slave.mask⟩

/-- The bus after some accesses that left `masks` in the registers and changed nothing else. -/
def masked (masks : Masks) (accesses : List PortOperation) (bus : Bus) : Bus where
  log := bus.log ++ accesses
  master := { bus.master with mask := masks.master }
  slave := { bus.slave with mask := masks.slave }

theorem masked_masked (first second : Masks) (accesses more : List PortOperation) (bus : Bus) :
    (bus.masked first accesses).masked second more = bus.masked second (accesses ++ more) := by
  rw [masked, masked, masked, List.append_assoc]

theorem read_masked (port : UInt16) (bus : Bus) :
    (bus.read port).2 = bus.masked bus.masks [.read port (bus.answer port)] := rfl

theorem Idle.masked {bus : Bus} (h : bus.Idle) (masks : Masks) (accesses : List PortOperation) :
    (bus.masked masks accesses).Idle := ⟨h.master, h.slave⟩

theorem answer_dataPort (bus : Bus) (line : Line) :
    bus.answer line.dataPort = bus.masks.register line := by
  unfold Line.dataPort Masks.register
  by_cases h : line.val < 8
  · rw [if_pos h, if_pos h]
    rfl
  · rw [if_neg h, if_neg h]
    rfl

/-- Outside its set-up a chip takes a data byte for its mask. -/
theorem data_idle {chip : Chip} (h : chip.step = .idle) (value : UInt8) :
    chip.data value = { chip with mask := value } := by
  rw [Chip.data, h]

theorem write_dataPort {bus : Bus} (h : bus.Idle) (line : Line) (value : UInt8) :
    bus.write line.dataPort value =
      bus.masked (bus.masks.withRegister line value) [.write line.dataPort value] := by
  unfold Line.dataPort Masks.withRegister
  by_cases hline : line.val < 8
  · simp only [if_pos hline]
    show (⟨bus.log ++ [.write masterData value], bus.master.data value, bus.slave⟩ : Bus) = _
    rw [data_idle h.master]
    rfl
  · simp only [if_neg hline]
    show (⟨bus.log ++ [.write slaveData value], bus.master, bus.slave.data value⟩ : Bus) = _
    rw [data_idle h.slave]
    rfl

theorem write_masks {bus : Bus} (h : bus.Idle) (masks : Masks) :
    (bus.write masterData masks.master).write slaveData masks.slave =
      bus.masked masks [.write masterData masks.master, .write slaveData masks.slave] := by
  -- Lines 0 and 8 are the first of the master's register and of the slave's.
  show (bus.write (Line.dataPort 0) masks.master).write (Line.dataPort 8) masks.slave = _
  rw [write_dataPort h, write_dataPort (h.masked _ _), masked_masked]
  rfl

/-- The bus once a line's register has been read and written back with some bits changed. -/
def rewritten (line : Line) (change : UInt8 → UInt8) (bus : Bus) : Bus :=
  let register := bus.masks.register line
  bus.masked (bus.masks.withRegister line (change register))
    [.read line.dataPort register, .write line.dataPort (change register)]

/-- The bus once a line has been acknowledged. -/
def acknowledged (line : UInt8) (bus : Bus) : Bus :=
  bus.writeAll (if linesPerChip ≤ line then
    [(slaveCommand, Controller.acknowledge), (masterCommand, Controller.acknowledge)]
    else [(masterCommand, Controller.acknowledge)])

theorem sameSetUp_acknowledged (line : UInt8) (bus : Bus) :
    SameSetUp bus (bus.acknowledged line) := by
  unfold acknowledged
  split
  · exact (sameSetUp_write_slaveCommand bus).trans (sameSetUp_write_masterCommand _)
  · exact sameSetUp_write_masterCommand bus

theorem masterCount_acknowledged (line : UInt8) (bus : Bus) :
    (bus.acknowledged line).master.endOfInterrupts = bus.master.endOfInterrupts + 1 := by
  unfold acknowledged
  split
  · exact congrArg Chip.endOfInterrupts (Chip.command_acknowledge bus.master)
  · exact congrArg Chip.endOfInterrupts (Chip.command_acknowledge bus.master)

theorem slaveCount_acknowledged (line : UInt8) (bus : Bus) :
    (bus.acknowledged line).slave.endOfInterrupts =
      bus.slave.endOfInterrupts + if linesPerChip ≤ line then 1 else 0 := by
  unfold acknowledged
  by_cases h : linesPerChip ≤ line
  · rw [if_pos h, if_pos h]
    exact congrArg Chip.endOfInterrupts (Chip.command_acknowledge bus.slave)
  · rw [if_neg h, if_neg h, UInt32.add_zero]
    rfl

end Bus

section Equations

variable {σ : Type} [PortSpace σ] [BusPart σ] {s : σ}

theorem readMasks_idle :
    Pair.readMasks s =
      .ok (BusPart.bus s).masks
        (BusPart.withBus ((BusPart.bus s).masked (BusPart.bus s).masks
          [.read masterData (BusPart.bus s).masks.master,
            .read slaveData (BusPart.bus s).masks.slave]) s) := by
  rw [readMasks_eq, Bus.read_masked, Bus.read_masked, Bus.masked_masked]
  rfl

theorem writeMasks_idle (hidle : (BusPart.bus s).Idle) (masks : Masks) :
    Pair.writeMasks masks s =
      .ok () (BusPart.withBus ((BusPart.bus s).masked masks
        [.write masterData masks.master, .write slaveData masks.slave]) s) := by
  rw [writeMasks_eq, Bus.write_masks hidle]

/-- A register is read and written back with some bits changed. -/
theorem rewrite_eq (hidle : (BusPart.bus s).Idle) (line : Line) (change : UInt8 → UInt8) :
    (do
      let mask ← Port.read line.dataPort
      Port.write line.dataPort (change mask) : Action σ Unit) s =
      .ok () (BusPart.withBus ((BusPart.bus s).rewritten line change) s) := by
  rw [Action.bind_ok (read_eq line.dataPort s), write_eq, BusPart.bus_withBus,
    BusPart.withBus_withBus, Bus.read_masked, Bus.answer_dataPort,
    Bus.write_dataPort (hidle.masked _ _), Bus.masked_masked]
  rfl

theorem enableLine_eq (hidle : (BusPart.bus s).Idle) {byte : UInt8} {line : Line}
    (h : Line.ofByte? byte = some line) :
    Pair.enableLine byte s =
      .ok () (BusPart.withBus
        ((BusPart.bus s).rewritten line fun mask => mask &&& ~~~(1 <<< line.bit)) s) := by
  rw [Pair.enableLine, locate_line h]
  exact rewrite_eq hidle line fun mask => mask &&& ~~~(1 <<< line.bit)

theorem disableLine_eq (hidle : (BusPart.bus s).Idle) {byte : UInt8} {line : Line}
    (h : Line.ofByte? byte = some line) :
    Pair.disableLine byte s =
      .ok () (BusPart.withBus
        ((BusPart.bus s).rewritten line fun mask => mask ||| (1 <<< line.bit)) s) := by
  rw [Pair.disableLine, locate_line h]
  exact rewrite_eq hidle line fun mask => mask ||| (1 <<< line.bit)

theorem isLineMasked_eq {byte : UInt8} {line : Line} (h : Line.ofByte? byte = some line) :
    Pair.isLineMasked byte s =
      .ok (decide (line ∈ (BusPart.bus s).masks.lines))
        (BusPart.withBus ((BusPart.bus s).masked (BusPart.bus s).masks
          [.read line.dataPort ((BusPart.bus s).masks.register line)]) s) := by
  have hread := read_eq line.dataPort s
  rw [Bus.read_masked, Bus.answer_dataPort] at hread
  rw [Pair.isLineMasked, locate_line h,
    decide_eq_decide.mpr (Masks.and_bit_iff_mem _ line).symm]
  show (Port.read line.dataPort >>= fun mask =>
    pure (decide (mask &&& (1 <<< line.bit) ≠ 0))) s = _
  exact Action.bind_ok hread

theorem endOfInterrupt_eq (line : UInt8) :
    Pair.endOfInterrupt line s =
      .ok () (BusPart.withBus ((BusPart.bus s).acknowledged line) s) := by
  rw [Pair.endOfInterrupt, Bus.acknowledged]
  by_cases h : linesPerChip ≤ line
  · rw [if_pos h, if_pos h, Action.bind_ok (write_eq slaveCommand acknowledge s)]
    show Port.write masterCommand acknowledge _ = _
    rw [write_eq, BusPart.bus_withBus, BusPart.withBus_withBus]
    rfl
  · rw [if_neg h, if_neg h]
    exact write_eq masterCommand acknowledge s

end Equations

/-- A line that does not exist is refused with no port touched. -/
theorem line_refused {σ : Type} [PortSpace σ] {s : σ} {byte : UInt8} (h : Line.ofByte? byte = none) :
    Pair.enableLine byte s = .error (.fault (.lineOutOfRange byte)) s ∧
      Pair.disableLine byte s = .error (.fault (.lineOutOfRange byte)) s ∧
      Pair.isLineMasked byte s = .error (.fault (.lineOutOfRange byte)) s := by
  rw [Pair.enableLine, Pair.disableLine, Pair.isLineMasked, locate_none h]
  exact ⟨rfl, rfl, rfl⟩

section Runs

inductive Operation where
  | remap
  | readMasks
  | writeMasks (masks : Masks)
  | disable
  | enableLine (line : UInt8)
  | disableLine (line : UInt8)
  | isLineMasked (line : UInt8)
  | endOfInterrupt (line : UInt8)

/-- What a caller gets back. Masks that were read are told as the lines they hold back. -/
inductive Answer where
  | done
  | lines (held : Finset Line)
  | masked (held : Bool)

namespace Operation

def perform (pair : Pair) : Operation → Action (System Bus) Answer
  | remap => do
      pair.remap
      return .done
  | readMasks => do
      let masks ← Pair.readMasks
      return .lines masks.lines
  | writeMasks masks => do
      Pair.writeMasks masks
      return .done
  | disable => do
      Pair.disable
      return .done
  | enableLine line => do
      Pair.enableLine line
      return .done
  | disableLine line => do
      Pair.disableLine line
      return .done
  | isLineMasked line => do
      let held ← Pair.isLineMasked line
      return .masked held
  | endOfInterrupt line => do
      Pair.endOfInterrupt line
      return .done

/-- The lines held back after an operation. -/
def lines (held : Finset Line) : Operation → Finset Line
  | writeMasks masks => masks.lines
  | disable => Finset.univ
  | enableLine byte =>
      match Line.ofByte? byte with
      | some line => held.erase line
      | none => held
  | disableLine byte =>
      match Line.ofByte? byte with
      | some line => insert line held
      | none => held
  | remap | readMasks | isLineMasked _ | endOfInterrupt _ => held

/-- What the caller is told while `held` are held back, or why the call does not return. -/
def answer (held : Finset Line) : Operation → Except Stop Answer
  | readMasks => .ok (.lines held)
  | isLineMasked byte =>
      match Line.ofByte? byte with
      | some line => .ok (.masked (line ∈ held))
      | none => .error (.fault (.lineOutOfRange byte))
  | enableLine byte | disableLine byte =>
      match Line.ofByte? byte with
      | some _ => .ok .done
      | none => .error (.fault (.lineOutOfRange byte))
  | remap | writeMasks _ | disable | endOfInterrupt _ => .ok .done

/-- How many acknowledgements the master counts. -/
def masterCount : Operation → Nat
  | endOfInterrupt _ => 1
  | _ => 0

/-- How many acknowledgements the slave counts. -/
def slaveCount : Operation → Nat
  | endOfInterrupt line => if 8 ≤ line then 1 else 0
  | _ => 0

/-- What a call comes to, returning or not, and the state that it leaves. -/
def outcome (pair : Pair) (operation : Operation) (s : System Bus) :
    Except Stop Answer × System Bus :=
  match operation.perform pair s with
  | .ok answer s' => (.ok answer, s')
  | .error stop s' => (.error stop, s')

theorem outcome_ok {pair : Pair} {operation : Operation} {s s' : System Bus} {answer : Answer}
    (h : operation.perform pair s = .ok answer s') :
    operation.outcome pair s = (.ok answer, s') := by
  rw [outcome, h]

theorem outcome_error {pair : Pair} {operation : Operation} {s s' : System Bus} {stop : Stop}
    (h : operation.perform pair s = .error stop s') :
    operation.outcome pair s = (.error stop, s') := by
  rw [outcome, h]

end Operation

/-- What an operation makes of the chips, told by the lines that are held back. -/
structure Stepped (operation : Operation) (s s' : System Bus) : Prop where
  idle : s'.machine.Idle
  free : s'.console.Free
  lines : s'.machine.masks.lines = operation.lines s.machine.masks.lines
  masterCount : s'.machine.master.endOfInterrupts =
    s.machine.master.endOfInterrupts + UInt32.ofNat operation.masterCount
  slaveCount : s'.machine.slave.endOfInterrupts =
    s.machine.slave.endOfInterrupts + UInt32.ofNat operation.slaveCount

variable {pair : Pair} {operation : Operation} {s : System Bus}

/-- An operation does to the chips what it does to the set of lines, and its answer comes from
that set. -/
def Follows (pair : Pair) (operation : Operation) (s : System Bus) : Prop :=
  ∃ s', operation.outcome pair s = (operation.answer s.machine.masks.lines, s') ∧
    Stepped operation s s'

/-- Neither chip counts an operation that acknowledges nothing. -/
theorem Stepped.uncounted {s' : System Bus} (idle : s'.machine.Idle) (free : s'.console.Free)
    (lines : s'.machine.masks.lines = operation.lines s.machine.masks.lines)
    (master : s'.machine.master.endOfInterrupts = s.machine.master.endOfInterrupts)
    (slave : s'.machine.slave.endOfInterrupts = s.machine.slave.endOfInterrupts)
    (hmaster : operation.masterCount = 0) (hslave : operation.slaveCount = 0) :
    Stepped operation s s' where
  idle := idle
  free := free
  lines := lines
  masterCount := by
    rw [hmaster, master]
    exact (UInt32.add_zero _).symm
  slaveCount := by
    rw [hslave, slave]
    exact (UInt32.add_zero _).symm

theorem follows_masked {masks : Masks} {accesses : List PortOperation} {answer : Answer}
    (hidle : s.machine.Idle) (hfree : s.console.Free)
    (hperform : operation.perform pair s =
      .ok answer (BusPart.withBus (s.machine.masked masks accesses) s))
    (hanswer : operation.answer s.machine.masks.lines = .ok answer)
    (hlines : masks.lines = operation.lines s.machine.masks.lines)
    (hmaster : operation.masterCount = 0) (hslave : operation.slaveCount = 0) :
    Follows pair operation s :=
  ⟨BusPart.withBus (s.machine.masked masks accesses) s,
    (Operation.outcome_ok hperform).trans (by rw [hanswer]),
    .uncounted (hidle.masked masks accesses) hfree hlines rfl rfl hmaster hslave⟩

/-- An operation that is refused has changed nothing. -/
theorem follows_refused {stop : Stop} (hidle : s.machine.Idle) (hfree : s.console.Free)
    (hperform : operation.perform pair s = .error stop s)
    (hanswer : operation.answer s.machine.masks.lines = .error stop)
    (hlines : s.machine.masks.lines = operation.lines s.machine.masks.lines)
    (hmaster : operation.masterCount = 0) (hslave : operation.slaveCount = 0) :
    Follows pair operation s :=
  ⟨s, (Operation.outcome_error hperform).trans (by rw [hanswer]),
    .uncounted hidle hfree hlines rfl rfl hmaster hslave⟩

theorem follows_remap (hfree : s.console.Free) : Follows pair .remap s := by
  have hremap := remap_eq pair (s := s) (fun _ => rfl) hfree
  exact ⟨_, Operation.outcome_ok (Action.bind_ok hremap), ⟨rfl, rfl⟩,
    Console.free_logged hfree _ _, rfl, (UInt32.add_zero _).symm, (UInt32.add_zero _).symm⟩

theorem follows_enableLine (byte : UInt8) (hidle : s.machine.Idle) (hfree : s.console.Free) :
    Follows pair (.enableLine byte) s := by
  cases hline : Line.ofByte? byte with
  | some line =>
    apply follows_masked hidle hfree (Action.bind_ok (enableLine_eq hidle hline)) _ _ rfl rfl
    · rw [Operation.answer, hline]
    · rw [Operation.lines, hline]
      exact Masks.lines_clear s.machine.masks line
  | none =>
    apply follows_refused hidle hfree (Action.bind_error (line_refused hline).1) _ _ rfl rfl
    · rw [Operation.answer, hline]
    · rw [Operation.lines, hline]

theorem follows_disableLine (byte : UInt8) (hidle : s.machine.Idle) (hfree : s.console.Free) :
    Follows pair (.disableLine byte) s := by
  cases hline : Line.ofByte? byte with
  | some line =>
    apply follows_masked hidle hfree (Action.bind_ok (disableLine_eq hidle hline)) _ _ rfl rfl
    · rw [Operation.answer, hline]
    · rw [Operation.lines, hline]
      exact Masks.lines_set s.machine.masks line
  | none =>
    apply follows_refused hidle hfree (Action.bind_error (line_refused hline).2.1) _ _ rfl rfl
    · rw [Operation.answer, hline]
    · rw [Operation.lines, hline]

theorem follows_isLineMasked (byte : UInt8) (hidle : s.machine.Idle) (hfree : s.console.Free) :
    Follows pair (.isLineMasked byte) s := by
  cases hline : Line.ofByte? byte with
  | some line =>
    apply follows_masked hidle hfree (Action.bind_ok (isLineMasked_eq hline)) _ rfl rfl rfl
    rw [Operation.answer, hline]
    rfl
  | none =>
    apply follows_refused hidle hfree (Action.bind_error (line_refused hline).2.2) _ rfl rfl rfl
    rw [Operation.answer, hline]

theorem follows_endOfInterrupt (line : UInt8) (hidle : s.machine.Idle) (hfree : s.console.Free) :
    Follows pair (.endOfInterrupt line) s := by
  have hsame := Bus.sameSetUp_acknowledged line s.machine
  refine ⟨_, Operation.outcome_ok (Action.bind_ok (endOfInterrupt_eq line)), ?_⟩
  constructor
  case idle => exact ⟨hsame.master.step.trans hidle.master, hsame.slave.step.trans hidle.slave⟩
  case free => exact hfree
  case lines =>
    have hmasks : (s.machine.acknowledged line).masks = s.machine.masks := by
      rw [Bus.masks, hsame.master.mask, hsame.slave.mask]
      rfl
    exact congrArg Masks.lines hmasks
  case masterCount => exact Bus.masterCount_acknowledged line s.machine
  case slaveCount =>
    have hcount : UInt32.ofNat (Operation.endOfInterrupt line).slaveCount =
        if linesPerChip ≤ line then 1 else 0 := apply_ite UInt32.ofNat (linesPerChip ≤ line) 1 0
    rw [hcount]
    exact Bus.slaveCount_acknowledged line s.machine

/-- Outside a set-up and with nobody printing, every operation follows the set of lines. -/
theorem follows (pair : Pair) (operation : Operation) (hidle : s.machine.Idle)
    (hfree : s.console.Free) : Follows pair operation s := by
  cases operation with
  | remap => exact follows_remap hfree
  | readMasks =>
    exact follows_masked hidle hfree (Action.bind_ok readMasks_idle) rfl rfl rfl rfl
  | writeMasks masks =>
    exact follows_masked hidle hfree (Action.bind_ok (writeMasks_idle hidle masks)) rfl rfl rfl rfl
  | disable =>
    exact follows_masked hidle hfree (Action.bind_ok (writeMasks_idle hidle ⟨0xFF, 0xFF⟩)) rfl
      Masks.lines_full rfl rfl
  | enableLine byte => exact follows_enableLine byte hidle hfree
  | disableLine byte => exact follows_disableLine byte hidle hfree
  | isLineMasked byte => exact follows_isLineMasked byte hidle hfree
  | endOfInterrupt line => exact follows_endOfInterrupt line hidle hfree

/-- Performs operations one after the other, also after one that was refused. -/
def performAll (pair : Pair) :
    List Operation → System Bus → List (Except Stop Answer) × System Bus
  | [], s => ([], s)
  | operation :: rest, s =>
      let first := operation.outcome pair s
      let others := performAll pair rest first.2
      (first.1 :: others.1, others.2)

/-- What the callers of some operations are told, one after the other. -/
def answers (held : Finset Line) : List Operation → List (Except Stop Answer)
  | [] => []
  | operation :: rest => operation.answer held :: answers (operation.lines held) rest

/-- Where some operations lead, told by the set of lines alone. -/
structure Refines (operations : List Operation) (before after : System Bus) : Prop where
  idle : after.machine.Idle
  free : after.console.Free
  lines : after.machine.masks.lines =
    operations.foldl Operation.lines before.machine.masks.lines
  masterCount : after.machine.master.endOfInterrupts =
    before.machine.master.endOfInterrupts +
      UInt32.ofNat (operations.map Operation.masterCount).sum
  slaveCount : after.machine.slave.endOfInterrupts =
    before.machine.slave.endOfInterrupts +
      UInt32.ofNat (operations.map Operation.slaveCount).sum

theorem refines_nil (hidle : s.machine.Idle) (hfree : s.console.Free) : Refines [] s s :=
  ⟨hidle, hfree, rfl, (UInt32.add_zero _).symm, (UInt32.add_zero _).symm⟩

theorem Refines.cons {rest : List Operation} {s s1 s2 : System Bus}
    (hstep : Stepped operation s s1) (hrest : Refines rest s1 s2) :
    Refines (operation :: rest) s s2 where
  idle := hrest.idle
  free := hrest.free
  lines := by rw [hrest.lines, hstep.lines, List.foldl_cons]
  masterCount := by
    rw [hrest.masterCount, hstep.masterCount, List.map_cons, List.sum_cons, UInt32.ofNat_add,
      UInt32.add_assoc]
  slaveCount := by
    rw [hrest.slaveCount, hstep.slaveCount, List.map_cons, List.sum_cons, UInt32.ofNat_add,
      UInt32.add_assoc]

theorem refines_performAll (pair : Pair) (operations : List Operation) (hidle : s.machine.Idle)
    (hfree : s.console.Free) :
    (performAll pair operations s).1 = answers s.machine.masks.lines operations ∧
      Refines operations s (performAll pair operations s).2 := by
  -- An operation leaves the chips outside a set-up and nobody printing: all that the next relies on.
  induction operations generalizing s with
  | nil => exact ⟨rfl, refines_nil hidle hfree⟩
  | cons operation rest ih =>
    obtain ⟨s1, houtcome, hstep⟩ := follows pair operation hidle hfree
    obtain ⟨hanswers, hrefines⟩ := ih hstep.idle hstep.free
    rw [performAll, answers, houtcome, ← hstep.lines]
    exact ⟨congrArg _ hanswers, hrefines.cons hstep⟩

/-- The chips' counts as numbers, as long as they fit. -/
structure Totals (operations : List Operation) (before after : Bus) : Prop where
  master :
    before.master.endOfInterrupts.toNat + (operations.map Operation.masterCount).sum < 2 ^ 32 →
      after.master.endOfInterrupts.toNat =
        before.master.endOfInterrupts.toNat + (operations.map Operation.masterCount).sum
  slave :
    before.slave.endOfInterrupts.toNat + (operations.map Operation.slaveCount).sum < 2 ^ 32 →
      after.slave.endOfInterrupts.toNat =
        before.slave.endOfInterrupts.toNat + (operations.map Operation.slaveCount).sum

theorem toNat_add_ofNat {count : UInt32} {more : Nat} (h : count.toNat + more < 2 ^ 32) :
    (count + UInt32.ofNat more).toNat = count.toNat + more := by
  have hmore : (UInt32.ofNat more).toNat = more := 
    UInt32.toNat_ofNat_of_lt' (Nat.lt_of_le_of_lt (Nat.le_add_left _ _) h)
  rw [UInt32.toNat_add, hmore, Nat.mod_eq_of_lt h]

theorem Refines.totals {operations : List Operation} {before after : System Bus}
    (h : Refines operations before after) : Totals operations before.machine after.machine where
  master hfits := by rw [h.masterCount, toNat_add_ofNat hfits]
  slave hfits := by rw [h.slaveCount, toNat_add_ofNat hfits]

/-- The operations that ask for a line by its number. -/
def lineOperations (byte : UInt8) : List Operation :=
  [.enableLine byte, .disableLine byte, .isLineMasked byte]

theorem outcome_of_refused (pair : Pair) {byte : UInt8} (hbyte : 16 ≤ byte.toNat) (s : System Bus) :
    ∀ operation ∈ lineOperations byte,
      operation.outcome pair s = (.error (.fault (.lineOutOfRange byte)), s) := by
  obtain ⟨henable, hdisable, hmasked⟩ := line_refused (s := s) (Line.ofByte?_eq_none.mpr hbyte)
  intro operation hmem
  simp only [lineOperations, List.mem_cons, List.not_mem_nil, or_false] at hmem
  rcases hmem with rfl | rfl | rfl
  · exact Operation.outcome_error (Action.bind_error henable)
  · exact Operation.outcome_error (Action.bind_error hdisable)
  · exact Operation.outcome_error (Action.bind_error hmasked)

/-- From any masks on, whatever operations follow each other outside a set-up: every caller is told
what the set of lines tells, the chips end up outside their set-up with the registers of that set,
they have counted the acknowledgements and nothing else, and a line that does not exist is refused
with nothing touched. -/
theorem operations_refine (pair : Pair) (operations : List Operation) {s : System Bus}
    (hidle : s.machine.Idle) (hfree : s.console.Free) :
    (performAll pair operations s).1 = answers s.machine.masks.lines operations ∧
      Refines operations s (performAll pair operations s).2 ∧
      Totals operations s.machine (performAll pair operations s).2.machine ∧
      ∀ byte : UInt8, 16 ≤ byte.toNat → ∀ operation ∈ lineOperations byte,
        operation.outcome pair (performAll pair operations s).2 =
          (.error (.fault (.lineOutOfRange byte)), (performAll pair operations s).2) := by
  obtain ⟨hanswers, hrefines⟩ := refines_performAll pair operations hidle hfree
  exact ⟨hanswers, hrefines, hrefines.totals, fun byte hbyte => outcome_of_refused pair hbyte _⟩

/-- Line 9 is let through and line 3 held back; line 16 is refused in between, and of three
acknowledgements two are the slave's. -/
theorem edits_refine :
    ∃ s', performAll .default
        [.remap, .enableLine 9, .enableLine 16, .disableLine 3, .isLineMasked 3, .isLineMasked 9,
          .endOfInterrupt 12, .endOfInterrupt 3, .endOfInterrupt 255]
        ⟨⟨[], ⟨0xF0, 8, 0, 0, 7, .idle, false⟩, ⟨0x03, 0x70, 2, 3, 0, .idle, true⟩⟩, .ready⟩ =
          ([.ok .done, .ok .done, .error (.fault (.lineOutOfRange 16)), .ok .done,
            .ok (.masked true), .ok (.masked false), .ok .done, .ok .done, .ok .done], s') ∧
      s'.machine.Idle ∧ s'.machine.masks = ⟨0xF8, 0x01⟩ ∧
      s'.machine.master.endOfInterrupts.toNat = 10 ∧
      s'.machine.slave.endOfInterrupts.toNat = 2 := by
  obtain ⟨hanswers, hrefines, htotals, -⟩ := operations_refine .default
    [.remap, .enableLine 9, .enableLine 16, .disableLine 3, .isLineMasked 3, .isLineMasked 9,
      .endOfInterrupt 12, .endOfInterrupt 3, .endOfInterrupt 255]
    (s := ⟨⟨[], ⟨0xF0, 8, 0, 0, 7, .idle, false⟩, ⟨0x03, 0x70, 2, 3, 0, .idle, true⟩⟩, .ready⟩)
    ⟨rfl, rfl⟩ Console.free_ready
  refine ⟨_, Prod.ext (hanswers.trans rfl) rfl, hrefines.idle, ?_, htotals.master (by decide),
    htotals.slave (by decide)⟩
  exact Masks.lines_injective (hrefines.lines.trans (by decide))

end Runs

end BringUp.Controller
