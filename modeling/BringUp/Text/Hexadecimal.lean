/-!
# Hexadecimal numerals

Addresses and register values are shown in lower-case hexadecimal behind `0x`, either with as
many digits as the number needs or zero-filled to a least total width. Reading the digits back
gives the number, so a numeral names one number only.
-/

namespace BringUp.Text

set_option autoImplicit false

def hex (n : Nat) : String :=
  "0x" ++ String.ofList (Nat.toDigits 16 n)

/-- The numeral of `n` in at least `width` characters, counting the leading `0x`. A number that
needs more keeps all its digits. -/
def hexFilled (width n : Nat) : String :=
  "0x" ++ String.ofList (List.leftpad (width - 2) '0' (Nat.toDigits 16 n))

/-- The value of one digit. Any other character counts as zero. -/
def digitValue (c : Char) : Nat :=
  if '0' ≤ c ∧ c ≤ '9' then c.toNat - '0'.toNat
  else if 'a' ≤ c ∧ c ≤ 'f' then c.toNat - 'a'.toNat + 10
  else 0

/-- The number that a row of digits spells. -/
def digitsValue (digits : List Char) : Nat :=
  digits.foldl (fun value c => value * 16 + digitValue c) 0

theorem digitValue_digitChar : ∀ d : Nat, d < 16 → digitValue (Nat.digitChar d) = d := by
  decide

theorem digitsValue_concat (digits : List Char) (c : Char) :
    digitsValue (digits ++ [c]) = digitsValue digits * 16 + digitValue c := by
  simp [digitsValue]

theorem digitsValue_toDigits (n : Nat) : digitsValue (Nat.toDigits 16 n) = n := by
  induction n using Nat.strongRecOn with
  | ind n ih =>
    by_cases h : n < 16
    · rw [Nat.toDigits_of_lt_base h]
      simpa [digitsValue] using digitValue_digitChar n h
    · rw [Nat.toDigits_of_base_le (by decide) (by omega), digitsValue_concat, ih _ (by omega),
        digitValue_digitChar _ (by omega)]
      omega

/-- Zeros in front add nothing to the value that the digits spell. -/
theorem digitsValue_leftpad (k : Nat) (digits : List Char) :
    digitsValue (List.leftpad k '0' digits) = digitsValue digits := by
  have zeros : ∀ m : Nat, (List.replicate m '0').foldl
      (fun value c => value * 16 + digitValue c) 0 = 0 := by
    intro m
    induction m with
    | zero => rfl
    | succ m ih => rw [List.replicate_succ]; exact ih
  rw [List.leftpad, digitsValue, List.foldl_append, zeros]
  rfl

theorem hex_toList (n : Nat) : (hex n).toList = ['0', 'x'] ++ Nat.toDigits 16 n := by
  simp [hex]

theorem hexFilled_toList (width n : Nat) :
    (hexFilled width n).toList =
      ['0', 'x'] ++ List.leftpad (width - 2) '0' (Nat.toDigits 16 n) := by
  simp [hexFilled]

end BringUp.Text
