import BringUp.Console

/-!
# What the line carries

A text goes out in UTF-8. A byte that erases is blanked out on the way: a backspace, a space and a
backspace go out for it. A record goes out if its level lies within the threshold in force.
-/

namespace BringUp

set_option autoImplicit false

/-- A threshold is in force, and the level is not above it. -/
def Level.Within (level : Level) (threshold : Option Level) : Prop :=
  ∃ most, threshold = some most ∧ level.rank ≤ most.rank

theorem Level.passes_iff {level : Level} {threshold : Option Level} :
    level.passes threshold = true ↔ level.Within threshold := by
  cases threshold with
  | none => exact iff_of_false Bool.false_ne_true fun ⟨_, h, _⟩ => nomatch h
  | some most =>
    refine decide_eq_true_iff.trans ⟨fun h => ⟨most, rfl, h⟩, ?_⟩
    rintro ⟨found, hfound, h⟩
    obtain rfl := Option.some.inj hfound
    exact h

instance (level : Level) (threshold : Option Level) : Decidable (level.Within threshold) :=
  decidable_of_iff _ Level.passes_iff

theorem Console.enabled_iff {level : Level} {c : Console} :
    enabled level c = true ↔ level.Within c.maxLevel := Level.passes_iff

namespace Text

/-- The bytes of a text. -/
def utf8 (text : String) : List UInt8 := text.toUTF8.data.toList

def Erases (byte : UInt8) : Prop := byte = 0x08 ∨ byte = 0x7F

instance (byte : UInt8) : Decidable (Erases byte) := inferInstanceAs (Decidable (_ ∨ _))

/-- What reaches the line for some bytes. -/
def blanked (bytes : List UInt8) : List UInt8 :=
  bytes.flatMap fun byte => if Erases byte then [0x08, 0x20, 0x08] else [byte]

theorem utf8_eq (text : String) : utf8 text = text.toList.flatMap String.utf8EncodeChar := by
  rw [utf8, String.toUTF8_eq_toByteArray, ← String.utf8Encode_toList, List.utf8Encode,
    List.data_toByteArray]

theorem utf8_append (s t : String) : utf8 (s ++ t) = utf8 s ++ utf8 t := by
  rw [utf8_eq, utf8_eq, utf8_eq, String.toList_append, List.flatMap_append]

theorem blanked_append (first second : List UInt8) :
    blanked (first ++ second) = blanked first ++ blanked second := List.flatMap_append

/-- Bytes none of which erases go out as they are. -/
theorem blanked_of_not_erases {bytes : List UInt8} (h : ∀ byte ∈ bytes, ¬ Erases byte) :
    blanked bytes = bytes := by
  induction bytes with
  | nil => rfl
  | cons byte rest ih =>
    obtain ⟨hbyte, hrest⟩ := List.forall_mem_cons.mp h
    have htail : blanked rest = rest := ih hrest
    show (if Erases byte then _ else [byte]) ++ blanked rest = byte :: rest
    rw [if_neg hbyte, htail]
    rfl

end Text

namespace Uart

theorem encode_eq (text : String) : encode text = Text.utf8 text := (Text.utf8_eq text).symm

/-- The transmitter hands over what the line carries, behind everything before it. -/
theorem sendText_eq (text : String) (u : Uart) :
    u.sendText text = { u with sent := u.sent ++ Text.blanked (Text.utf8 text) } := by
  rw [sendText, sendRaw, encode_eq]
  rfl

end Uart

end BringUp
