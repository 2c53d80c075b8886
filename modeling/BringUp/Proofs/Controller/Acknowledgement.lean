import BringUp.Controller.Pair

/-!
# What an acknowledgement writes

Which bytes acknowledge a vector depends only on the range that it lies in. The chips count
them; nothing else about a chip changes.
-/

namespace BringUp.Controller

set_option autoImplicit false

/-- Whether `vector` is one of the eight that start at `offset`. -/
def Covers (offset vector : UInt8) : Prop :=
  offset.toNat ≤ vector.toNat ∧ vector.toNat < offset.toNat + 8

instance (offset vector : UInt8) : Decidable (Covers offset vector) :=
  inferInstanceAs (Decidable (_ ∧ _))

/-- The bytes, with their ports, that acknowledge `vector` when the chips' ranges start at
`master` and `slave`. -/
def acknowledgement (master slave vector : UInt8) : List (UInt16 × UInt8) :=
  if vector < 32 then []
  else if Covers master vector then [(0x20, 0x20)]
  else if Covers slave vector then [(0xA0, 0x20), (0x20, 0x20)]
  else []

namespace Pair

theorem ofOffsets_ok {master slave : UInt8} {pair : Pair}
    (h : ofOffsets master slave = .ok pair) : pair.master = master ∧ pair.slave = slave := by
  unfold ofOffsets at h
  split at h
  · split at h
    · split at h
      · cases h
        exact ⟨rfl, rfl⟩
      · cases h
    · cases h
  · cases h

/-- A vector of the master's range has one of the master's lines. -/
theorem lineFor_of_master {pair : Pair} {vector : UInt8} (h : Covers pair.master vector) :
    ∃ line, pair.lineFor vector = some line ∧ line < linesPerChip := by
  refine ⟨vector - pair.master, ?_, ?_⟩
  · rw [lineFor, if_pos ((inRange_iff pair.within.1).mpr h)]
  · have hle : pair.master ≤ vector := UInt8.le_iff_toNat_le.mpr h.1
    rw [UInt8.lt_iff_toNat_lt, UInt8.toNat_sub_of_le _ _ hle]
    have h8 : linesPerChip.toNat = 8 := rfl
    have := h.2
    omega

/-- A vector of the slave's range has one of the slave's lines. -/
theorem lineFor_of_slave {pair : Pair} {vector : UInt8} (hm : ¬ Covers pair.master vector)
    (h : Covers pair.slave vector) :
    ∃ line, pair.lineFor vector = some line ∧ linesPerChip ≤ line := by
  refine ⟨vector - pair.slave + linesPerChip, ?_, ?_⟩
  · rw [lineFor, if_neg (fun hr => hm ((inRange_iff pair.within.1).mp hr)),
      if_pos ((inRange_iff pair.within.2).mpr h)]
  · have hle : pair.slave ≤ vector := UInt8.le_iff_toNat_le.mpr h.1
    have h8 : linesPerChip.toNat = 8 := rfl
    rw [UInt8.le_iff_toNat_le, UInt8.toNat_add, UInt8.toNat_sub_of_le _ _ hle]
    have := h.2
    omega

theorem lineFor_of_neither {pair : Pair} {vector : UInt8} (hm : ¬ Covers pair.master vector)
    (hs : ¬ Covers pair.slave vector) : pair.lineFor vector = none := by
  rw [lineFor, if_neg (fun hr => hm ((inRange_iff pair.within.1).mp hr)),
    if_neg (fun hr => hs ((inRange_iff pair.within.2).mp hr))]

end Pair

namespace Chip

/-- Two chips that differ at most in how many interrupts they saw acknowledged. -/
structure SameSetUp (before after : Chip) : Prop where
  mask : after.mask = before.mask
  vectorOffset : after.vectorOffset = before.vectorOffset
  cascade : after.cascade = before.cascade
  mode : after.mode = before.mode
  step : after.step = before.step
  expectsMode : after.expectsMode = before.expectsMode

theorem SameSetUp.refl (chip : Chip) : SameSetUp chip chip := ⟨rfl, rfl, rfl, rfl, rfl, rfl⟩

theorem SameSetUp.trans {a b c : Chip} (hab : SameSetUp a b) (hbc : SameSetUp b c) :
    SameSetUp a c :=
  ⟨hbc.mask.trans hab.mask, hbc.vectorOffset.trans hab.vectorOffset,
    hbc.cascade.trans hab.cascade, hbc.mode.trans hab.mode, hbc.step.trans hab.step,
    hbc.expectsMode.trans hab.expectsMode⟩

theorem command_acknowledge (chip : Chip) :
    chip.command Controller.acknowledge =
      { chip with endOfInterrupts := chip.endOfInterrupts + 1 } := by
  unfold command
  rw [if_neg (by decide), if_pos rfl]

theorem sameSetUp_acknowledge (chip : Chip) :
    SameSetUp chip (chip.command Controller.acknowledge) := by
  rw [command_acknowledge]
  exact ⟨rfl, rfl, rfl, rfl, rfl, rfl⟩

end Chip

namespace Bus

/-- The bus after bytes were written to their ports, in order. -/
def writeAll (bytes : List (UInt16 × UInt8)) (bus : Bus) : Bus :=
  bytes.foldl (fun bus byte => bus.write byte.1 byte.2) bus

theorem log_writeAll (bytes : List (UInt16 × UInt8)) (bus : Bus) :
    (bus.writeAll bytes).log = bus.log ++ bytes.map fun byte => .write byte.1 byte.2 := by
  induction bytes generalizing bus with
  | nil => simp [writeAll]
  | cons byte rest ih =>
    have hstep : bus.writeAll (byte :: rest) = (bus.write byte.1 byte.2).writeAll rest := rfl
    rw [hstep, ih, log_write, List.map_cons, List.append_assoc, List.singleton_append]

/-- Neither chip's set-up differs. -/
structure SameSetUp (before after : Bus) : Prop where
  master : Chip.SameSetUp before.master after.master
  slave : Chip.SameSetUp before.slave after.slave

theorem SameSetUp.refl (bus : Bus) : SameSetUp bus bus := ⟨.refl _, .refl _⟩

theorem SameSetUp.trans {a b c : Bus} (hab : SameSetUp a b) (hbc : SameSetUp b c) :
    SameSetUp a c :=
  ⟨hab.master.trans hbc.master, hab.slave.trans hbc.slave⟩

theorem sameSetUp_write_masterCommand (bus : Bus) :
    SameSetUp bus (bus.write masterCommand Controller.acknowledge) :=
  ⟨Chip.sameSetUp_acknowledge bus.master, .refl _⟩

theorem sameSetUp_write_slaveCommand (bus : Bus) :
    SameSetUp bus (bus.write slaveCommand Controller.acknowledge) :=
  ⟨.refl _, Chip.sameSetUp_acknowledge bus.slave⟩

/-- Acknowledging changes neither masks nor vectors nor where a set-up sequence stands. -/
theorem sameSetUp_writeAll (bus : Bus) (master slave vector : UInt8) :
    SameSetUp bus (bus.writeAll (acknowledgement master slave vector)) := by
  unfold acknowledgement
  split
  · exact .refl _
  · split
    · exact sameSetUp_write_masterCommand bus
    · split
      · exact (sameSetUp_write_slaveCommand bus).trans (sameSetUp_write_masterCommand _)
      · exact .refl _

end Bus

end BringUp.Controller
