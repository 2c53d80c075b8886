/-!
# Little-endian words

The processor reads its tables from memory with the low byte first. A word's bytes weigh
1, 256, 65536, …, and their weighted sum is the word again.
-/

namespace BringUp.LittleEndian

set_option autoImplicit false

def ofUInt16 (w : UInt16) : List UInt8 :=
  [w.toUInt8, (w >>> 8).toUInt8]

def ofUInt32 (w : UInt32) : List UInt8 :=
  [w.toUInt8, (w >>> 8).toUInt8, (w >>> 16).toUInt8, (w >>> 24).toUInt8]

/-- The number that bytes in memory order spell. -/
def value : List UInt8 → Nat
  | [] => 0
  | b :: rest => b.toNat + 256 * value rest

theorem value_ofUInt16 (w : UInt16) : value (ofUInt16 w) = w.toNat := by
  have h := w.toNat_lt
  simp only [value, ofUInt16, UInt16.toNat_toUInt8, UInt16.toNat_shiftRight,
    Nat.shiftRight_eq_div_pow]
  simp
  omega

theorem value_ofUInt32 (w : UInt32) : value (ofUInt32 w) = w.toNat := by
  have h := w.toNat_lt
  simp only [value, ofUInt32, UInt32.toNat_toUInt8, UInt32.toNat_shiftRight,
    Nat.shiftRight_eq_div_pow]
  simp
  omega

/-- Bytes further back weigh more by the width of those before them. -/
theorem value_append (first second : List UInt8) :
    value (first ++ second) = value first + value second <<< (8 * first.length) := by
  induction first with
  | nil => simp [value]
  | cons b rest ih =>
    have hwidth : 8 * (rest.length + 1) = 8 * rest.length + 8 := by omega
    have hweight : value second <<< (8 * rest.length + 8) =
        256 * value second <<< (8 * rest.length) := by
      rw [Nat.shiftLeft_add, Nat.shiftLeft_eq _ 8, Nat.mul_comm]
    rw [List.cons_append, value, value, ih, List.length_cons, hwidth, hweight]
    omega

/-- Two pieces of a word that do not overlap add up. -/
theorem toNat_or_shiftLeft (low high : UInt32) {width : UInt32} {n : Nat}
    (hwidth : width.toNat = n) (hn : n < 32) (hlow : low.toNat < 1 <<< n)
    (hhigh : high.toNat <<< n < UInt32.size) :
    (low ||| (high <<< width)).toNat = low.toNat + high.toNat <<< n := by
  subst hwidth
  rw [Nat.one_shiftLeft] at hlow
  rw [UInt32.toNat_or, UInt32.toNat_shiftLeft, Nat.mod_eq_of_lt hn, Nat.mod_eq_of_lt hhigh,
    Nat.or_comm, ← Nat.shiftLeft_add_eq_or_of_lt hlow, Nat.add_comm]

end BringUp.LittleEndian
