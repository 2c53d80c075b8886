/-!
# Reading transmitted bytes as text

What the serial line carries is read as text with each character in one to four bytes. Bytes that
spell no character are shown as the replacement character, one for each longest run that could
still have begun one.
-/

namespace BringUp.Text

set_option autoImplicit false

/-- Stands for bytes that spell no character. -/
def replacement : Char := Char.ofNat 0xFFFD

/-- Reads `needed` more bytes of a character. The next one must lie between `low` and `high`,
any later one among all continuation bytes. Returns the character and the bytes behind it. -/
def followed :
    (needed : Nat) → (low high : UInt8) → (code : Nat) → List UInt8 → Char × List UInt8
  | 0, _, _, code, rest => (Char.ofNat code, rest)
  | _ + 1, _, _, _, [] => (replacement, [])
  | needed + 1, low, high, code, byte :: rest =>
      if low ≤ byte ∧ byte ≤ high then
        followed needed 0x80 0xBF (code * 64 + byte.toNat % 64) rest
      else (replacement, byte :: rest)

/-- Reads the character that starts with `lead`. A lead byte limits the byte after it so that
each character has one spelling and none spells a surrogate or a number past the last one. -/
def character (lead : UInt8) (rest : List UInt8) : Char × List UInt8 :=
  if lead < 0x80 then (Char.ofNat lead.toNat, rest)
  else if lead < 0xC2 then (replacement, rest)
  else if lead < 0xE0 then followed 1 0x80 0xBF (lead.toNat % 32) rest
  else if lead < 0xF0 then
    followed 2 (if lead = 0xE0 then 0xA0 else 0x80) (if lead = 0xED then 0x9F else 0xBF)
      (lead.toNat % 16) rest
  else if lead < 0xF5 then
    followed 3 (if lead = 0xF0 then 0x90 else 0x80) (if lead = 0xF4 then 0x8F else 0xBF)
      (lead.toNat % 8) rest
  else (replacement, rest)

theorem followed_length (needed : Nat) (low high : UInt8) (code : Nat) (rest : List UInt8) :
    (followed needed low high code rest).2.length ≤ rest.length := by
  induction needed generalizing low high code rest with
  | zero => simp [followed]
  | succ needed ih =>
    cases rest with
    | nil => simp [followed]
    | cons byte rest =>
      simp only [followed]
      split
      · exact Nat.le_succ_of_le (ih _ _ _ _)
      · exact Nat.le_refl _

theorem character_length (lead : UInt8) (rest : List UInt8) :
    (character lead rest).2.length ≤ rest.length := by
  unfold character
  split
  · exact Nat.le_refl _
  split
  · exact Nat.le_refl _
  split
  · exact followed_length _ _ _ _ _
  split
  · exact followed_length _ _ _ _ _
  split
  · exact followed_length _ _ _ _ _
  · exact Nat.le_refl _

def characters : List UInt8 → List Char
  | [] => []
  | lead :: rest =>
      have _shorter := character_length lead rest
      (character lead rest).1 :: characters (character lead rest).2
termination_by bytes => bytes.length

def ofBytes (bytes : List UInt8) : String := String.ofList (characters bytes)

end BringUp.Text
