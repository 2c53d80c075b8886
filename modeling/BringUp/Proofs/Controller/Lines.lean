import BringUp.Controller.Pair
import Mathlib.Data.Fintype.Basic
import Mathlib.Data.Nat.Bitwise

/-!
# Lines held back

The two mask registers stand for a set of lines: a set bit holds its line back, the master's bits
the first eight lines and the slave's the others. Setting one bit puts one line into the set,
clearing it takes that line out, and no other line is touched.
-/

namespace BringUp.Controller

set_option autoImplicit false

abbrev Line := Fin 16

namespace Line

/-- The line that a byte names, if it names one. -/
def ofByte? (byte : UInt8) : Option Line :=
  if h : byte.toNat < 16 then some ⟨byte.toNat, h⟩ else none

/-- The port of the register that has the line's bit. -/
def dataPort (line : Line) : UInt16 := if line.val < 8 then masterData else slaveData

/-- The number of the line's bit in its register. -/
def bit (line : Line) : UInt8 := UInt8.ofNat (line.val % 8)

theorem toNat_bit (line : Line) : line.bit.toNat = line.val % 8 := by
  rw [bit, UInt8.toNat_ofNat']
  omega

theorem bit_lt (line : Line) : line.bit.toNat < 8 := by
  rw [toNat_bit]
  omega

theorem ofByte?_eq_some {byte : UInt8} {line : Line} (h : ofByte? byte = some line) :
    byte.toNat = line.val := by
  unfold ofByte? at h
  split at h
  · exact congrArg Fin.val (Option.some.inj h)
  · cases h

theorem ofByte?_eq_none {byte : UInt8} : ofByte? byte = none ↔ 16 ≤ byte.toNat := by
  unfold ofByte?
  split
  · exact iff_of_false nofun (by omega)
  · exact iff_of_true rfl (by omega)

end Line

theorem locate_line {byte : UInt8} {line : Line} (h : Line.ofByte? byte = some line) :
    Pair.locate byte = .ok (line.dataPort, line.bit) := by
  have hbyte := Line.ofByte?_eq_some h
  have hlt := line.isLt
  have htotal : byte < totalLines := by
    rw [UInt8.lt_iff_toNat_lt, hbyte]
    exact hlt
  have hbit := Line.toNat_bit line
  rw [Pair.locate, if_pos htotal, Line.dataPort]
  by_cases hmaster : line.val < 8
  · have hown : byte < linesPerChip := by
      rw [UInt8.lt_iff_toNat_lt, hbyte]
      exact hmaster
    have hsame : byte = line.bit := UInt8.toNat_inj.mp (by omega)
    rw [if_pos hown, if_pos hmaster, hsame]
  · have hown : ¬ byte < linesPerChip := by
      rw [UInt8.lt_iff_toNat_lt, hbyte]
      exact hmaster
    have hsame : byte - linesPerChip = line.bit := by
      apply UInt8.toNat_inj.mp
      have height : linesPerChip.toNat = 8 := rfl
      rw [UInt8.toNat_sub_of_le _ _ (UInt8.not_lt.mp hown)]
      omega
    rw [if_neg hown, if_neg hmaster, hsame]

theorem locate_none {byte : UInt8} (h : Line.ofByte? byte = none) :
    Pair.locate byte = .error (.lineOutOfRange byte) := by
  have hge := Line.ofByte?_eq_none.mp h
  have htotal : ¬ byte < totalLines := by
    rw [UInt8.lt_iff_toNat_lt]
    exact Nat.not_lt.mpr hge
  rw [Pair.locate, if_neg htotal]

section Bits

variable (mask : UInt8) {bit : UInt8} {i : Nat}

theorem testBit_bit (hbit : bit.toNat < 8) (hi : i < 8) :
    ((1 : UInt8) <<< bit).toNat.testBit i = decide (i = bit.toNat) := by
  rw [UInt8.toNat_shiftLeft, Nat.mod_eq_of_lt hbit, UInt8.toNat_one, Nat.one_shiftLeft,
    Nat.testBit_mod_two_pow, Nat.testBit_two_pow]
  simp [hi, eq_comm]

theorem testBit_set (hbit : bit.toNat < 8) (hi : i < 8) :
    (mask ||| ((1 : UInt8) <<< bit)).toNat.testBit i =
      (mask.toNat.testBit i || decide (i = bit.toNat)) := by
  rw [UInt8.toNat_or, Nat.testBit_or, testBit_bit hbit hi]

theorem testBit_not (w : UInt8) (hi : i < 8) : (~~~w).toNat.testBit i = !w.toNat.testBit i := by
  have hw : w.toNat < 2 ^ 8 := w.toNat_lt
  have hnot : (~~~w).toNat = 2 ^ 8 - (w.toNat + 1) := by
    rw [UInt8.toNat_not, Nat.add_comm, Nat.sub_add_eq]
    rfl
  rw [hnot, Nat.testBit_two_pow_sub_succ hw]
  simp [hi]

theorem testBit_clear (hbit : bit.toNat < 8) (hi : i < 8) :
    (mask &&& ~~~((1 : UInt8) <<< bit)).toNat.testBit i =
      (mask.toNat.testBit i && !decide (i = bit.toNat)) := by
  rw [UInt8.toNat_and, Nat.testBit_and, testBit_not _ hi, testBit_bit hbit hi]

/-- A byte cut down to one bit tells whether that bit is set. -/
theorem and_bit_ne_zero_iff (hbit : bit.toNat < 8) :
    mask &&& ((1 : UInt8) <<< bit) ≠ 0 ↔ mask.toNat.testBit bit.toNat = true := by
  have hpow : ((1 : UInt8) <<< bit).toNat = 2 ^ bit.toNat := by
    have hlt : 2 ^ bit.toNat < 2 ^ 8 := Nat.pow_lt_pow_right (by decide) hbit
    rw [UInt8.toNat_shiftLeft, Nat.mod_eq_of_lt hbit, UInt8.toNat_one, Nat.one_shiftLeft,
      Nat.mod_eq_of_lt hlt]
  have hand : (mask &&& ((1 : UInt8) <<< bit)).toNat =
      (mask.toNat.testBit bit.toNat).toNat * 2 ^ bit.toNat := by
    rw [UInt8.toNat_and, hpow, Nat.and_two_pow]
  rw [ne_eq, ← UInt8.toNat_inj, hand]
  cases mask.toNat.testBit bit.toNat <;> simp

end Bits

namespace Masks

/-- The register that has a line's bit. -/
def register (masks : Masks) (line : Line) : UInt8 :=
  if line.val < 8 then masks.master else masks.slave

def withRegister (masks : Masks) (line : Line) (value : UInt8) : Masks :=
  if line.val < 8 then { masks with master := value } else { masks with slave := value }

/-- Whether a line is held back. -/
def holds (masks : Masks) (line : Line) : Bool :=
  (masks.register line).toNat.testBit (line.val % 8)

/-- The lines that are held back. -/
def lines (masks : Masks) : Finset Line := Finset.univ.filter fun line => masks.holds line = true

theorem mem_lines {masks : Masks} {line : Line} :
    line ∈ masks.lines ↔ masks.holds line = true := by
  simp [lines]

theorem lines_full : lines ⟨0xFF, 0xFF⟩ = Finset.univ := by decide

/-- A register is rewritten for the eight lines of its chip. -/
theorem holds_withRegister (masks : Masks) (line other : Line) (value : UInt8) :
    (masks.withRegister line value).holds other =
      if line.val < 8 ↔ other.val < 8 then value.toNat.testBit (other.val % 8)
      else masks.holds other := by
  unfold withRegister holds register
  by_cases hline : line.val < 8 <;> by_cases hother : other.val < 8 <;> simp [hline, hother]

/-- A register whose value changes by one bit changes what is known of one line. -/
theorem holds_changed {masks : Masks} {line : Line} {value : UInt8} (combine : Bool → Bool → Bool)
    (hother : ∀ held, combine held false = held)
    (hvalue : ∀ i, i < 8 → value.toNat.testBit i =
      combine ((masks.register line).toNat.testBit i) (decide (i = line.bit.toNat)))
    (other : Line) :
    (masks.withRegister line value).holds other =
      combine (masks.holds other) (decide (other = line)) := by
  rw [holds_withRegister]
  by_cases hchip : line.val < 8 ↔ other.val < 8
  · have hregister : masks.register line = masks.register other := by
      simp only [register, hchip]
    have hsame : other.val % 8 = line.bit.toNat ↔ other = line := by
      rw [Line.toNat_bit, Fin.ext_iff]
      omega
    have hbit := hvalue (other.val % 8) (by omega)
    rw [if_pos hchip, hbit, hregister, decide_eq_decide.mpr hsame, holds]
  · have hapart : other ≠ line := fun h => hchip (by rw [h])
    rw [if_neg hchip, decide_eq_false hapart, hother]

theorem lines_set (masks : Masks) (line : Line) :
    (masks.withRegister line (masks.register line ||| (1 <<< line.bit))).lines =
      insert line masks.lines := by
  ext other
  have hholds := holds_changed (· || ·) Bool.or_false
    (fun i hi => testBit_set (masks.register line) line.bit_lt hi) other
  rw [mem_lines, hholds, Finset.mem_insert, mem_lines, Bool.or_eq_true, decide_eq_true_iff, or_comm]

theorem lines_clear (masks : Masks) (line : Line) :
    (masks.withRegister line (masks.register line &&& ~~~(1 <<< line.bit))).lines =
      masks.lines.erase line := by
  ext other
  have hholds := holds_changed (fun held here => held && !here) Bool.and_true
    (fun i hi => testBit_clear (masks.register line) line.bit_lt hi) other
  rw [mem_lines, hholds, Finset.mem_erase, mem_lines, Bool.and_eq_true, Bool.not_eq_true',
    decide_eq_false_iff_not, and_comm]

/-- A line's bit read back from its register. -/
theorem and_bit_iff_mem (masks : Masks) (line : Line) :
    masks.register line &&& (1 <<< line.bit) ≠ 0 ↔ line ∈ masks.lines := by
  rw [and_bit_ne_zero_iff _ line.bit_lt, mem_lines, holds, Line.toNat_bit]

theorem eq_of_testBit {a b : UInt8} (h : ∀ i, i < 8 → a.toNat.testBit i = b.toNat.testBit i) :
    a = b := by
  apply UInt8.toNat_inj.mp
  apply Nat.eq_of_testBit_eq
  intro i
  rcases Nat.lt_or_ge i 8 with hi | hi
  · exact h i hi
  · have hpow : 2 ^ 8 ≤ 2 ^ i := Nat.pow_le_pow_right (by decide) hi
    rw [Nat.testBit_lt_two_pow (Nat.lt_of_lt_of_le a.toNat_lt hpow),
      Nat.testBit_lt_two_pow (Nat.lt_of_lt_of_le b.toNat_lt hpow)]

/-- The set of lines leaves nothing of the registers out. -/
theorem lines_injective : Function.Injective lines := by
  intro a b h
  have hbits (line : Line) : a.holds line = b.holds line := by
    rw [Bool.eq_iff_iff, ← mem_lines, ← mem_lines, h]
  have hmaster : a.master = b.master := by
    refine eq_of_testBit fun i hi => ?_
    have hline := hbits ⟨i, by omega⟩
    simpa [holds, register, hi, Nat.mod_eq_of_lt hi] using hline
  have hslave : a.slave = b.slave := by
    refine eq_of_testBit fun i hi => ?_
    have hpast : ¬ i + 8 < 8 := by omega
    have hline := hbits ⟨i + 8, by omega⟩
    simpa [holds, register, hpast, Nat.mod_eq_of_lt hi] using hline
  cases a
  cases b
  cases hmaster
  cases hslave
  rfl

end Masks

end BringUp.Controller
