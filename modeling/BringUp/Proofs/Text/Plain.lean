import BringUp.Proofs.Console.Line
import BringUp.Text.Hexadecimal
import BringUp.Text.Outline

/-!
# Plain text

The serial line replaces the two erasing control characters. A plain text has neither: it is made
of printable characters of the basic alphabet and line ends, and so its bytes leave as they are.
-/

namespace BringUp

set_option autoImplicit false

namespace Text

/-- Printable characters of the basic alphabet and line ends only. -/
def Plain (text : String) : Prop := ∀ c ∈ text.toList, c.toNat = 10 ∨ 32 ≤ c.toNat ∧ c.toNat < 127

-- By the characters of the text: a search over every character would decide it too.
instance (text : String) : Decidable (Plain text) := List.decidableBAll _ text.toList

theorem plain_append {s t : String} (hs : Plain s) (ht : Plain t) : Plain (s ++ t) := by
  intro c hc
  rw [String.toList_append, List.mem_append] at hc
  rcases hc with hc | hc
  · exact hs c hc
  · exact ht c hc

theorem plain_ite {condition : Prop} [Decidable condition] {s t : String} (hs : Plain s)
    (ht : Plain t) : Plain (if condition then s else t) := by
  split
  · exact hs
  · exact ht

/-- A numeral has digits only, whatever its base. -/
theorem eq_digitChar_of_mem_toDigits {base : Nat} (hb : 1 < base) (hle : base ≤ 16) (n : Nat) :
    ∀ c ∈ Nat.toDigits base n, ∃ d, d < 16 ∧ c = Nat.digitChar d := by
  induction n using Nat.strongRecOn with
  | ind n ih =>
    intro c hc
    by_cases h : n < base
    · rw [Nat.toDigits_of_lt_base h, List.mem_singleton] at hc
      exact ⟨n, by omega, hc⟩
    · have hge : base ≤ n := Nat.le_of_not_lt h
      have hless : n / base < n := Nat.div_lt_self (by omega) hb
      rw [Nat.toDigits_of_base_le hb hge, List.mem_append, List.mem_singleton] at hc
      rcases hc with hc | hc
      · exact ih _ hless c hc
      · have hdigit := Nat.mod_lt n (by omega : base > 0)
        exact ⟨n % base, by omega, hc⟩

theorem printable_digitChar : ∀ d, d < 16 →
    32 ≤ (Nat.digitChar d).toNat ∧ (Nat.digitChar d).toNat < 127 := by
  decide

theorem plain_toDigits {base : Nat} (hb : 1 < base) (hle : base ≤ 16) (n : Nat) :
    ∀ c ∈ Nat.toDigits base n, c.toNat = 10 ∨ 32 ≤ c.toNat ∧ c.toNat < 127 := by
  intro c hc
  obtain ⟨d, hd, rfl⟩ := eq_digitChar_of_mem_toDigits hb hle n c hc
  exact .inr (printable_digitChar d hd)

theorem plain_toString (n : Nat) : Plain (toString n) := by
  intro c hc
  rw [Nat.toString_eq_ofList_toDigits, String.toList_ofList] at hc
  exact plain_toDigits (by decide) (by decide) n c hc

theorem plain_hexFilled (width n : Nat) : Plain (hexFilled width n) := by
  have hprefix : Plain "0x" := by decide
  intro c hc
  rw [hexFilled_toList, List.mem_append, List.leftpad, List.mem_append] at hc
  rcases hc with hc | hc | hc
  · exact hprefix c hc
  · obtain rfl := List.eq_of_mem_replicate hc
    decide
  · exact plain_toDigits (by decide) (by decide) n c hc

theorem plain_hex (n : Nat) : Plain (hex n) := by
  have hprefix : Plain "0x" := by decide
  intro c hc
  rw [hex_toList, List.mem_append] at hc
  rcases hc with hc | hc
  · exact hprefix c hc
  · exact plain_toDigits (by decide) (by decide) n c hc

namespace Outline

theorem plain_blockRest {margin : String} (hm : Plain margin) {parts : List Outline}
    (hparts : ∀ part ∈ parts, Plain (part.block margin)) : Plain (blockRest margin parts) := by
  induction parts with
  | nil =>
    rw [blockRest]
    decide
  | cons first rest ih =>
    rw [blockRest]
    have hfirst := hparts first List.mem_cons_self
    have hrest := ih fun part hpart => hparts part (List.mem_cons_of_mem first hpart)
    exact plain_append (plain_append (plain_append hm hfirst) (by decide)) hrest

/-- A group over several lines is plain if its brackets and its parts are. -/
theorem plain_block_group {margin : String} (hm : Plain margin) {brackets : Brackets}
    (hopening : Plain brackets.opening) (hclosing : Plain brackets.closing) {parts : List Outline}
    (hparts : ∀ part ∈ parts, Plain (part.block (margin ++ "    "))) :
    Plain ((group brackets parts).block margin) := by
  cases parts with
  | nil =>
    rw [block]
    exact plain_append hopening hclosing
  | cons first rest =>
    have hmargin : Plain (margin ++ "    ") := plain_append hm (by decide)
    have hfirst := hparts first List.mem_cons_self
    have hrest := plain_blockRest hmargin
      fun part hpart => hparts part (List.mem_cons_of_mem first hpart)
    have hhead : Plain (brackets.opening ++ "\n" ++ margin ++ "    ") :=
      plain_append (plain_append (plain_append hopening (by decide)) hm) (by decide)
    have hbody := plain_append (plain_append (plain_append hhead hfirst) (t := ",\n") (by decide))
      hrest
    rw [block]
    exact plain_append (plain_append hbody hm) hclosing

end Outline

theorem not_erases_printable : ∀ n, n < 127 → n = 10 ∨ 32 ≤ n →
    ∀ byte ∈ String.utf8EncodeChar (Char.ofNat n), ¬ Erases byte := by
  decide +kernel

/-- Plain text leaves byte for byte. -/
theorem blanked_plain {text : String} (h : Plain text) : blanked (utf8 text) = utf8 text := by
  refine blanked_of_not_erases fun byte hbyte => ?_
  rw [utf8_eq, List.mem_flatMap] at hbyte
  obtain ⟨c, hc, hbyte⟩ := hbyte
  have hplain := h c hc
  have hsame := not_erases_printable c.toNat (by omega) (by omega) byte
  rw [Char.ofNat_toNat] at hsame
  exact hsame hbyte

end Text

end BringUp
