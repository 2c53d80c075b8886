import BringUp.Proofs.Controller.Operations

/-!
# Lines and their vectors

Each of the sixteen lines has a vector of its own, the master's lines from the start of one range
and the slave's from the start of the other. Finding the line of a vector inverts this for every
two ranges that are accepted. Finding the vector of a line does so too, except that a sum on the
way may not fit a byte although the vector does.
-/

namespace BringUp.Controller

set_option autoImplicit false

namespace Line

/-- The byte that names the line. -/
def byte (line : Line) : UInt8 := UInt8.ofNat line.val

theorem toNat_byte (line : Line) : line.byte.toNat = line.val := by
  have hlt := line.isLt
  rw [byte, UInt8.toNat_ofNat']
  omega

theorem byte_injective {first second : Line} (h : first.byte = second.byte) : first = second := by
  rw [Fin.ext_iff, ← toNat_byte, ← toNat_byte, h]

theorem exists_byte {byte : UInt8} (h : byte < 16) : ∃ line : Line, line.byte = byte := by
  have hlt : byte.toNat < 16 := UInt8.lt_iff_toNat_lt.mp h
  exact ⟨⟨byte.toNat, hlt⟩, UInt8.toNat_inj.mp (toNat_byte _)⟩

theorem byte_lt_iff (line : Line) : line.byte < linesPerChip ↔ line.val < 8 := by
  rw [UInt8.lt_iff_toNat_lt, toNat_byte]
  rfl

theorem byte_lt_total (line : Line) : line.byte < totalLines := by
  rw [UInt8.lt_iff_toNat_lt, toNat_byte]
  exact line.isLt

end Line

namespace Pair

/-- The number of the vector that a line is delivered on, counted from the start of its chip's
range. -/
def position (pair : Pair) (line : Line) : Nat :=
  if line.val < 8 then pair.master.toNat + line.val else pair.slave.toNat + (line.val - 8)

/-- The vector that a line is delivered on. -/
def vector (pair : Pair) (line : Line) : UInt8 := UInt8.ofNat (pair.position line)

variable {pair : Pair}

theorem position_lt (line : Line) : pair.position line < 255 := by
  obtain ⟨hmaster, hslave⟩ := pair.within
  have hlt := line.isLt
  unfold position
  split <;> omega

theorem toNat_vector (line : Line) : (pair.vector line).toNat = pair.position line := by
  have hlt := pair.position_lt line
  rw [vector, UInt8.toNat_ofNat']
  omega

/-- The ranges do not meet, so two lines never share a vector. -/
theorem position_injective {first second : Line}
    (h : pair.position first = pair.position second) : first = second := by
  have hapart := pair.apart
  have hfirst := first.isLt
  have hsecond := second.isLt
  unfold position at h
  rw [Fin.ext_iff]
  split at h <;> split at h <;> omega

theorem covers_master_iff (line : Line) :
    Covers pair.master (pair.vector line) ↔ line.val < 8 := by
  have hapart := pair.apart
  have hlt := line.isLt
  rw [Covers, toNat_vector, position]
  split <;> omega

theorem covers_slave_iff (line : Line) :
    Covers pair.slave (pair.vector line) ↔ 8 ≤ line.val := by
  have hapart := pair.apart
  have hlt := line.isLt
  rw [Covers, toNat_vector, position]
  split <;> omega

theorem not_covers_both (vector : UInt8) :
    ¬ (Covers pair.master vector ∧ Covers pair.slave vector) := by
  have hapart := pair.apart
  unfold Covers
  omega

/-- A vector of either range is delivered for one of that chip's lines. -/
theorem exists_line {vector : UInt8}
    (h : Covers pair.master vector ∨ Covers pair.slave vector) :
    ∃ line, pair.vector line = vector := by
  rcases h with ⟨hle, hlt⟩ | ⟨hle, hlt⟩
  · have hline : vector.toNat - pair.master.toNat < 8 := by omega
    refine ⟨⟨vector.toNat - pair.master.toNat, by omega⟩, UInt8.toNat_inj.mp ?_⟩
    rw [toNat_vector, position, if_pos hline]
    exact Nat.add_sub_of_le hle
  · have hline : ¬ vector.toNat - pair.slave.toNat + 8 < 8 := by omega
    refine ⟨⟨vector.toNat - pair.slave.toNat + 8, by omega⟩, UInt8.toNat_inj.mp ?_⟩
    rw [toNat_vector, position, if_neg hline]
    show pair.slave.toNat + (vector.toNat - pair.slave.toNat + 8 - 8) = vector.toNat
    omega

theorem handles_iff (vector : UInt8) :
    pair.handles vector = true ↔ Covers pair.master vector ∨ Covers pair.slave vector := by
  rw [handles, Bool.or_eq_true, inRange_iff pair.within.1, inRange_iff pair.within.2]
  exact Iff.rfl

theorem handles_vector (line : Line) : pair.handles (pair.vector line) = true := by
  rw [handles_iff, covers_master_iff, covers_slave_iff]
  omega

/-- A difference that must not be negative. -/
def checkedDifference (a b : UInt8) : Except Fault UInt8 :=
  if b ≤ a then .ok (a - b) else .error .differenceNegative

/-- Finds the line of a vector with each difference and each sum checked. -/
def checkedLineFor (pair : Pair) (vector : UInt8) : Except Fault (Option UInt8) :=
  if inRange pair.master vector then (checkedDifference vector pair.master).map some
  else if inRange pair.slave vector then do
    let distance ← checkedDifference vector pair.slave
    (checkedSum distance linesPerChip).map some
  else .ok none

theorem checkedDifference_ok {a b : UInt8} (h : b.toNat ≤ a.toNat) :
    checkedDifference a b = .ok (a - b) := if_pos (UInt8.le_iff_toNat_le.mpr h)

theorem checkedSum_ok {a b : UInt8} (h : a.toNat + b.toNat < 256) :
    checkedSum a b = .ok (a + b) := if_pos h

theorem checkedSum_error {a b : UInt8} (h : 256 ≤ a.toNat + b.toNat) :
    checkedSum a b = .error .sumTooLarge := if_neg (Nat.not_lt.mpr h)

/-- Finding the line of a vector never leaves the bytes. -/
theorem checkedLineFor_eq (vector : UInt8) :
    pair.checkedLineFor vector = .ok (pair.lineFor vector) := by
  unfold checkedLineFor lineFor
  by_cases hmaster : inRange pair.master vector = true
  · obtain ⟨hle, -⟩ := (inRange_iff pair.within.1).mp hmaster
    rw [if_pos hmaster, if_pos hmaster, checkedDifference_ok hle]
    rfl
  · rw [if_neg hmaster, if_neg hmaster]
    by_cases hslave : inRange pair.slave vector = true
    · obtain ⟨hle, hlt⟩ := (inRange_iff pair.within.2).mp hslave
      have hsum : (vector - pair.slave).toNat + linesPerChip.toNat < 256 := by
        have height : linesPerChip.toNat = 8 := rfl
        rw [UInt8.toNat_sub_of_le _ _ (UInt8.le_iff_toNat_le.mpr hle)]
        omega
      rw [if_pos hslave, if_pos hslave, checkedDifference_ok hle]
      show (checkedSum (vector - pair.slave) linesPerChip).map some = _
      rw [checkedSum_ok hsum]
      rfl
    · rw [if_neg hslave, if_neg hslave]

theorem lineFor_vector (line : Line) : pair.lineFor (pair.vector line) = some line.byte := by
  have hlt := line.isLt
  have hposition := pair.toNat_vector line
  have height : linesPerChip.toNat = 8 := rfl
  by_cases hline : line.val < 8
  · have hmaster := (inRange_iff pair.within.1).mpr ((covers_master_iff line).mpr hline)
    obtain ⟨hle, -⟩ := (covers_master_iff line).mpr hline
    rw [lineFor, if_pos hmaster]
    congr 1
    apply UInt8.toNat_inj.mp
    rw [position, if_pos hline] at hposition
    rw [UInt8.toNat_sub_of_le _ _ (UInt8.le_iff_toNat_le.mpr hle), Line.toNat_byte]
    omega
  · have hother : ¬ inRange pair.master (pair.vector line) = true := fun h =>
      hline ((covers_master_iff line).mp ((inRange_iff pair.within.1).mp h))
    have hcovers : Covers pair.slave (pair.vector line) :=
      (covers_slave_iff line).mpr (Nat.not_lt.mp hline)
    have hle := hcovers.1
    rw [lineFor, if_neg hother, if_pos ((inRange_iff pair.within.2).mpr hcovers)]
    congr 1
    apply UInt8.toNat_inj.mp
    rw [position, if_neg hline] at hposition
    rw [UInt8.toNat_add, UInt8.toNat_sub_of_le _ _ (UInt8.le_iff_toNat_le.mpr hle),
      Line.toNat_byte]
    omega

/-- A vector has the line that is delivered on it, and no other. -/
theorem lineFor_eq_some_iff (vector byte : UInt8) :
    pair.lineFor vector = some byte ↔
      ∃ line : Line, line.byte = byte ∧ pair.vector line = vector := by
  constructor
  · intro h
    have hcovers : Covers pair.master vector ∨ Covers pair.slave vector := by
      by_contra hneither
      rw [not_or] at hneither
      rw [lineFor_of_neither hneither.1 hneither.2] at h
      cases h
    obtain ⟨line, rfl⟩ := exists_line hcovers
    rw [lineFor_vector] at h
    exact ⟨line, Option.some.inj h, rfl⟩
  · rintro ⟨line, rfl, rfl⟩
    exact lineFor_vector line

theorem isSome_lineFor (vector : UInt8) : (pair.lineFor vector).isSome = pair.handles vector := by
  rw [Bool.eq_iff_iff, handles_iff, Option.isSome_iff_exists]
  constructor
  · rintro ⟨byte, h⟩
    obtain ⟨line, -, rfl⟩ := (lineFor_eq_some_iff vector byte).mp h
    exact (handles_iff _).mp (handles_vector line)
  · intro h
    obtain ⟨line, rfl⟩ := exists_line h
    exact ⟨line.byte, lineFor_vector line⟩

/-- Line by line, the vector of a line in the order of the code: the slave's lines are added to the
start of its range before the master's eight are taken off. -/
theorem vectorFor_byte (line : Line) :
    pair.vectorFor line.byte =
      if line.val < 8 ∨ pair.slave.toNat + line.val < 256 then .ok (pair.vector line)
      else .error .sumTooLarge := by
  have hlt := line.isLt
  have hposition := pair.toNat_vector line
  have hbyte := Line.toNat_byte line
  have hwithin := pair.within
  rw [vectorFor, if_pos line.byte_lt_total]
  by_cases hline : line.val < 8
  · have hfits : pair.master.toNat + line.byte.toNat < 256 := by omega
    rw [if_pos ((Line.byte_lt_iff line).mpr hline), if_pos (.inl hline), checkedSum_ok hfits]
    congr 1
    apply UInt8.toNat_inj.mp
    rw [position, if_pos hline] at hposition
    rw [UInt8.toNat_add]
    omega
  · rw [if_neg (fun h => hline ((Line.byte_lt_iff line).mp h))]
    by_cases hfits : pair.slave.toNat + line.val < 256
    · have hsum : (pair.slave + line.byte).toNat = pair.slave.toNat + line.val := by
        rw [UInt8.toNat_add]
        omega
      have height : linesPerChip.toNat = 8 := rfl
      have hle : linesPerChip ≤ pair.slave + line.byte := by
        rw [UInt8.le_iff_toNat_le]
        omega
      rw [if_pos (.inr hfits), checkedSum_ok (by omega)]
      show Except.ok (pair.slave + line.byte - linesPerChip) = _
      congr 1
      apply UInt8.toNat_inj.mp
      rw [position, if_neg hline] at hposition
      rw [UInt8.toNat_sub_of_le _ _ hle]
      omega
    · rw [if_neg (by omega), checkedSum_error (by omega)]
      rfl

theorem lineFor_exception {vector : UInt8} (h : vector < 32) : pair.lineFor vector = none := by
  have hlt : vector.toNat < 32 := UInt8.lt_iff_toNat_lt.mp h
  have hmaster : 32 ≤ pair.master.toNat := UInt8.le_iff_toNat_le.mp pair.above.1
  have hslave : 32 ≤ pair.slave.toNat := UInt8.le_iff_toNat_le.mp pair.above.2
  exact lineFor_of_neither (fun hm => by have := hm.1; omega) (fun hs => by have := hs.1; omega)

/-- The vectors of all lines, in the order of the lines. -/
def vectors (pair : Pair) : List UInt8 := (List.finRange 16).map pair.vector

theorem nodup_vectors : pair.vectors.Nodup := by
  refine List.Nodup.map (fun first second h => ?_) (List.nodup_finRange 16)
  have hposition : pair.position first = pair.position second := by
    rw [← toNat_vector, ← toNat_vector, h]
  exact position_injective hposition

theorem mem_vectors (vector : UInt8) : vector ∈ pair.vectors ↔ pair.handles vector = true := by
  simp only [vectors, List.mem_map, List.mem_finRange, true_and]
  constructor
  · rintro ⟨line, rfl⟩
    exact handles_vector line
  · exact fun h => exists_line ((handles_iff vector).mp h)

end Pair

/-- Acknowledging a line leaves the slave as it is just when the line is one of the master's. -/
theorem Bus.slave_acknowledged (line : UInt8) (bus : Bus) :
    (bus.acknowledged line).slave = bus.slave ↔ line < linesPerChip := by
  rw [← UInt8.not_le]
  constructor
  · intro hsame hle
    have hcount := bus.slaveCount_acknowledged line
    rw [hsame, if_pos hle] at hcount
    have hone : bus.slave.endOfInterrupts + 0 = bus.slave.endOfInterrupts + 1 :=
      (UInt32.add_zero _).trans hcount
    exact absurd ((UInt32.add_right_inj _).mp hone) (by decide)
  · intro hle
    rw [acknowledged, if_neg hle]
    rfl

/-- How two ranges of eight share out the vectors. -/
structure Partition (master slave : UInt8) (pair : Pair) : Prop where
  apart : ∀ vector,
    ¬ (Pair.inRange master vector = true ∧ Pair.inRange slave vector = true)
  /-- No range is cut off at the end of the vector space. -/
  whole : ∀ vector, (Pair.inRange master vector = true ↔ Covers master vector) ∧
    (Pair.inRange slave vector = true ↔ Covers slave vector)
  found : ∀ vector, (pair.lineFor vector).isSome = pair.handles vector
  exceptions : ∀ vector, vector < 32 → pair.lineFor vector = none
  /-- The line is found with no difference negative and no sum too large. -/
  checked : ∀ vector, pair.checkedLineFor vector = .ok (pair.lineFor vector)
  injective : ∀ first second line, pair.lineFor first = some line →
    pair.lineFor second = some line → first = second
  onto : ∀ line, (∃ vector, pair.lineFor vector = some line) ↔ line < 16
  /-- Sixteen vectors are delivered for a line. -/
  sixteen : ∃ vectors : List UInt8, vectors.Nodup ∧ vectors.length = 16 ∧
    ∀ vector, vector ∈ vectors ↔ pair.handles vector = true
  chip : ∀ vector line, pair.lineFor vector = some line →
    (Pair.inRange master vector = true ↔ line < 8) ∧
    ∀ bus : Bus, ∃ after, Pair.endOfInterrupt line bus = .ok () after ∧
      (after.slave = bus.slave ↔ line < 8)

/-- Any two ranges that are accepted, in either order, share out the vectors: sixteen of them have
a line, each another one, and the master's are those whose acknowledgement leaves the slave
alone. -/
theorem ranges_partition {master slave : UInt8} {pair : Pair}
    (haccepted : Pair.ofOffsets master slave = .ok pair) : Partition master slave pair := by
  obtain ⟨rfl, rfl⟩ := Pair.ofOffsets_ok haccepted
  have hmaster (vector : UInt8) :
      Pair.inRange pair.master vector = true ↔ Covers pair.master vector :=
    Pair.inRange_iff pair.within.1
  have hslave (vector : UInt8) :
      Pair.inRange pair.slave vector = true ↔ Covers pair.slave vector :=
    Pair.inRange_iff pair.within.2
  constructor
  case apart =>
    intro vector
    rw [hmaster, hslave]
    exact Pair.not_covers_both vector
  case whole => exact fun vector => ⟨hmaster vector, hslave vector⟩
  case found => exact Pair.isSome_lineFor
  case exceptions => exact fun vector => Pair.lineFor_exception
  case checked => exact Pair.checkedLineFor_eq
  case injective =>
    intro first second line hfirst hsecond
    obtain ⟨i, rfl, rfl⟩ := (Pair.lineFor_eq_some_iff first line).mp hfirst
    obtain ⟨j, hbyte, rfl⟩ := (Pair.lineFor_eq_some_iff second i.byte).mp hsecond
    rw [Line.byte_injective hbyte]
  case onto =>
    intro byte
    constructor
    · rintro ⟨vector, h⟩
      obtain ⟨line, rfl, -⟩ := (Pair.lineFor_eq_some_iff vector byte).mp h
      exact line.byte_lt_total
    · intro h
      obtain ⟨line, rfl⟩ := Line.exists_byte h
      exact ⟨pair.vector line, Pair.lineFor_vector line⟩
  case sixteen => exact ⟨pair.vectors, Pair.nodup_vectors, List.length_map _, Pair.mem_vectors⟩
  case chip =>
    intro vector byte h
    obtain ⟨line, rfl, rfl⟩ := (Pair.lineFor_eq_some_iff vector byte).mp h
    refine ⟨?_, fun bus => ⟨_, endOfInterrupt_eq line.byte, bus.slave_acknowledged line.byte⟩⟩
    rw [hmaster]
    exact (Pair.covers_master_iff line).trans line.byte_lt_iff.symm

/-- The master's range is the last that is accepted and the slave's ends right before it. -/
theorem last_ranges_partition :
    ∃ pair, Pair.ofOffsets 247 239 = .ok pair ∧ pair.lineFor 254 = some 7 ∧
      pair.lineFor 246 = some 15 ∧ pair.checkedLineFor 254 = .ok (some 7) ∧
      ∀ vector, pair.lineFor vector = some 7 → vector = 254 := by
  have haccepted := Pair.ofOffsets_self ⟨247, 239, by decide, by decide, by decide⟩
  have hpartition := ranges_partition haccepted
  have hline : Pair.lineFor ⟨247, 239, by decide, by decide, by decide⟩ 254 = some 7 := by decide
  have hchecked := hpartition.checked 254
  rw [hline] at hchecked
  exact ⟨_, haccepted, hline, by decide, hchecked,
    fun vector h => hpartition.injective vector 254 7 h hline⟩

/-- Where the sum of range and line fits a byte, the vector of a line is found, and it is the one
vector whose line this is. -/
def Inverted (master slave : UInt8) (pair : Pair) (line : UInt8) : Prop :=
  ∃ vector, pair.vectorFor line = .ok vector ∧
    vector.toNat = (if line < 8 then master.toNat + line.toNat
      else slave.toNat + (line.toNat - 8)) ∧
    pair.handles vector = true ∧ pair.lineFor vector = some line ∧
    ∀ other, pair.lineFor other = some line → pair.vectorFor line = .ok other

/-- For any two ranges that are accepted, the vector of a line is found and leads back to the line,
and every vector is found again from its line. Only where the slave's line is too large to be added
to the start of its range as a byte, the search stops before the master's eight are taken off. -/
theorem vectors_invert_lines {master slave : UInt8} {pair : Pair}
    (haccepted : Pair.ofOffsets master slave = .ok pair) {line : UInt8} (hline : line < 16) :
    (line < 8 ∨ slave.toNat + line.toNat < 256 → Inverted master slave pair line) ∧
    (8 ≤ line ∧ 256 ≤ slave.toNat + line.toNat → pair.vectorFor line = .error .sumTooLarge) := by
  obtain ⟨rfl, rfl⟩ := Pair.ofOffsets_ok haccepted
  obtain ⟨i, rfl⟩ := Line.exists_byte hline
  have hchip : i.byte < 8 ↔ i.val < 8 := i.byte_lt_iff
  rw [hchip, Line.toNat_byte]
  constructor
  · intro hfits
    have hvector : pair.vectorFor i.byte = .ok (pair.vector i) := by
      rw [Pair.vectorFor_byte, if_pos hfits]
    refine ⟨pair.vector i, hvector, ?_, Pair.handles_vector i, Pair.lineFor_vector i, ?_⟩
    · simp only [hchip, Line.toNat_byte, Pair.toNat_vector, Pair.position]
    · intro other h
      obtain ⟨j, hbyte, rfl⟩ := (Pair.lineFor_eq_some_iff other i.byte).mp h
      rw [hvector, Line.byte_injective hbyte]
  · rintro ⟨hle, hlarge⟩
    rw [← UInt8.not_lt, hchip] at hle
    rw [Pair.vectorFor_byte, if_neg (by omega)]

/-- With the slave's range starting at 240, its last line is found on the last of its vectors. -/
theorem last_line_inverted :
    ∃ pair, Pair.ofOffsets 32 240 = .ok pair ∧ Inverted 32 240 pair 15 ∧
      pair.vectorFor 15 = .ok 247 := by
  have haccepted := Pair.ofOffsets_self ⟨32, 240, by decide, by decide, by decide⟩
  have hboth := vectors_invert_lines haccepted (by decide : (15 : UInt8) < 16)
  exact ⟨_, haccepted, hboth.1 (by decide), by decide⟩

/-- With the slave's range starting at 247, the vector 248 has a line whose vector is not found. -/
theorem vector_not_found :
    ∃ pair, Pair.ofOffsets 32 247 = .ok pair ∧ pair.lineFor 248 = some 9 ∧
      pair.vectorFor 9 = .error .sumTooLarge := by
  have haccepted := Pair.ofOffsets_self ⟨32, 247, by decide, by decide, by decide⟩
  exact ⟨_, haccepted, by decide, by decide⟩

end BringUp.Controller
