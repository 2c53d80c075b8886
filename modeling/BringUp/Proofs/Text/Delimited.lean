import BringUp.Proofs.Text.Plain

/-!
# Texts that show where they end

A report is put together from pieces with nothing but their own form to tell where one ends and the
next begins. A piece shows its end if it has a fixed width, if it stops ahead of a character that
cannot occur in it, or if no piece of its kind begins another one. Pieces like that can be read off
the front of a text one after another.
-/

namespace BringUp.Text

set_option autoImplicit false

variable {α : Type} {shown : α → String}

/-- Whatever stands behind it, what is shown of a value tells the value and where it ends. -/
structure SelfDelimiting (shown : α → String) : Prop where
  read : ∀ {a b : α} {u v : String}, shown a ++ u = shown b ++ v → a = b ∧ u = v

/-- Pieces of which none begins another one. -/
theorem SelfDelimiting.of_apart (happart : ∀ a b, (shown a).toList <+: (shown b).toList → a = b) :
    SelfDelimiting shown := by
  constructor
  intro a b u v h
  have hlists := congrArg String.toList h
  rw [String.toList_append, String.toList_append] at hlists
  have hsame : a = b := by
    rcases List.prefix_or_prefix_of_prefix (List.prefix_append (shown a).toList u.toList)
      (hlists ▸ List.prefix_append (shown b).toList v.toList) with hab | hba
    · exact happart a b hab
    · exact (happart b a hba).symm
  subst hsame
  exact ⟨rfl, (String.append_right_inj _).mp h⟩

/-- Pieces of one width. -/
theorem SelfDelimiting.of_width {width : Nat} (hwidth : ∀ a, (shown a).length = width)
    (hinjective : ∀ a b, shown a = shown b → a = b) : SelfDelimiting shown := by
  refine of_apart fun a b hprefix => hinjective a b (String.toList_inj.mp ?_)
  refine hprefix.eq_of_length ?_
  rw [String.length_toList, String.length_toList, hwidth, hwidth]

/-- Pieces ahead of a text with a character that occurs in none of them. -/
theorem SelfDelimiting.of_stop (stop : Char) {ending : String} (hending : stop ∈ ending.toList)
    (hstop : ∀ a, stop ∉ (shown a).toList) (hinjective : ∀ a b, shown a = shown b → a = b) :
    SelfDelimiting fun a => shown a ++ ending := by
  obtain ⟨lead, rest, hsplit, hlead⟩ := List.eq_append_cons_of_mem hending
  -- Ahead of the first `stop` stands the piece, and then what is the same for all pieces.
  have hahead (a : α) (u : String) :
      (shown a ++ ending ++ u).toList.takeWhile (· ≠ stop) = (shown a).toList ++ lead := by
    have hinside : ∀ c ∈ (shown a).toList ++ lead, decide (c ≠ stop) = true := by
      intro c hc
      refine decide_eq_true fun hsame => ?_
      rw [hsame, List.mem_append] at hc
      exact hc.elim (hstop a) hlead
    rw [String.toList_append, String.toList_append, hsplit, ← List.append_assoc,
      List.append_assoc _ _ u.toList, List.takeWhile_append_of_pos hinside, List.cons_append,
      List.takeWhile_cons_of_neg (by simp), List.append_nil]
  constructor
  intro a b u v h
  have hpieces : (shown a).toList ++ lead = (shown b).toList ++ lead := by
    rw [← hahead a u, h, hahead]
  obtain rfl := hinjective a b (String.toList_inj.mp (List.append_cancel_right hpieces))
  exact ⟨rfl, (String.append_right_inj _).mp h⟩

/-- What starts differently is different, whatever follows. -/
theorem append_ne_append {x y : String} {c d : Char} (hx : x.toList.head? = some c)
    (hy : y.toList.head? = some d) (hne : c ≠ d) (u v : String) : x ++ u ≠ y ++ v := by
  intro h
  have hheads := congrArg (fun text => text.toList.head?) h
  simp only [String.toList_append, List.head?_append, hx, hy, Option.some_or] at hheads
  exact hne (Option.some.inj hheads)

theorem toString_injective {m n : Nat} (h : toString m = toString n) : m = n := by
  have hdigits := congrArg String.toList h
  rw [Nat.toString_eq_ofList_toDigits, Nat.toString_eq_ofList_toDigits, String.toList_ofList,
    String.toList_ofList] at hdigits
  rw [← Nat.ofDigitChars_ten_toDigits (n := m), hdigits, Nat.ofDigitChars_ten_toDigits]

theorem hex_injective {m n : Nat} (h : hex m = hex n) : m = n := by
  have hdigits := congrArg String.toList h
  rw [hex_toList, hex_toList, List.append_cancel_left_eq] at hdigits
  rw [← digitsValue_toDigits m, hdigits, digitsValue_toDigits]

theorem hexFilled_injective {width m n : Nat} (h : hexFilled width m = hexFilled width n) :
    m = n := by
  have hdigits := congrArg String.toList h
  rw [hexFilled_toList, hexFilled_toList, List.append_cancel_left_eq] at hdigits
  rw [← digitsValue_toDigits m, ← digitsValue_leftpad (width - 2), hdigits, digitsValue_leftpad,
    digitsValue_toDigits]

/-- A word fills eight digits and needs no more. -/
theorem length_hexFilled_word (word : UInt32) : (hexFilled 10 word.toNat).length = 10 := by
  have hdigits : (Nat.toDigits 16 word.toNat).length ≤ 8 :=
    (Nat.length_toDigits_le_iff (by decide) (by decide)).mpr word.toNat_lt
  rw [← String.length_toList, hexFilled_toList, List.length_append, List.length_leftpad,
    Nat.max_eq_left hdigits]
  rfl

theorem selfDelimiting_word : SelfDelimiting fun word : UInt32 => hexFilled 10 word.toNat :=
  SelfDelimiting.of_width length_hexFilled_word fun _ _ h =>
    UInt32.toNat_inj.mp (hexFilled_injective h)

/-- The characters of hexadecimal numerals, and of decimal ones among them. -/
def numeralCharacters : List Char := 'x' :: (List.range 16).map Nat.digitChar

theorem mem_numeralCharacters {base : Nat} (hb : 1 < base) (hle : base ≤ 16) (n : Nat) :
    ∀ c ∈ Nat.toDigits base n, c ∈ numeralCharacters := by
  intro c hc
  obtain ⟨d, hd, rfl⟩ := eq_digitChar_of_mem_toDigits hb hle n c hc
  exact List.mem_cons_of_mem _ (List.mem_map_of_mem (List.mem_range.mpr hd))

theorem not_mem_toString {stop : Char} (hstop : stop ∉ numeralCharacters) (n : Nat) :
    stop ∉ (toString n).toList := by
  rw [Nat.toString_eq_ofList_toDigits, String.toList_ofList]
  exact fun hmem => hstop (mem_numeralCharacters (by decide) (by decide) n stop hmem)

theorem not_mem_hexFilled {stop : Char} (hstop : stop ∉ numeralCharacters) (width n : Nat) :
    stop ∉ (hexFilled width n).toList := by
  rw [hexFilled_toList, List.mem_append, List.leftpad, List.mem_append]
  rintro (hmem | hmem | hmem)
  · obtain rfl | rfl : stop = '0' ∨ stop = 'x' := by simpa using hmem
    · exact hstop (by decide)
    · exact hstop (by decide)
  · obtain rfl := List.eq_of_mem_replicate hmem
    exact hstop (by decide)
  · exact hstop (mem_numeralCharacters (by decide) (by decide) n stop hmem)

/-- A numeral without filling is one filled to no width at all. -/
theorem hex_eq_hexFilled (n : Nat) : hex n = hexFilled 0 n := by
  rw [hex, hexFilled, Nat.zero_sub, List.leftpad, Nat.zero_sub]
  rfl

theorem not_mem_hex {stop : Char} (hstop : stop ∉ numeralCharacters) (n : Nat) :
    stop ∉ (hex n).toList := by
  rw [hex_eq_hexFilled]
  exact not_mem_hexFilled hstop 0 n

end BringUp.Text
