import BringUp.Segment.Descriptor

/-!
# The fields of a segment descriptor

Base and limit are taken to pieces when a descriptor is packed, and one byte holds a piece of the
limit beside the flags. Counted as numbers the pieces add up again, so the four fields and the eight
bytes say the same in both directions.
-/

namespace BringUp.Segment

set_option autoImplicit false

section Nibbles

theorem toNat_and_lowNibble (byte : UInt8) : (byte &&& 0x0F).toNat = byte.toNat % 16 := by
  rw [UInt8.toNat_and]
  exact Nat.and_two_pow_sub_one_eq_mod byte.toNat 4

/-- A low nibble and a high one add up. -/
theorem toNat_or_nibbles {low high : UInt8} (hlow : low.toNat < 16)
    (hhigh : high.toNat % 16 = 0) : (low ||| high).toNat = low.toNat + high.toNat := by
  have hsum := Nat.two_pow_add_eq_or_of_lt (i := 4) hlow (high.toNat / 16)
  have hwhole : 2 ^ 4 * (high.toNat / 16) = high.toNat := by omega
  rw [hwhole] at hsum
  rw [UInt8.toNat_or, Nat.or_comm, ← hsum, Nat.add_comm]

theorem toNat_and_highNibble (byte : UInt8) : (byte &&& 0xF0).toNat = byte.toNat / 16 * 16 := by
  have hmasks : ∀ n < 256, n &&& 0xF0 = n / 16 * 16 := by decide +kernel
  rw [UInt8.toNat_and]
  exact hmasks byte.toNat byte.toNat_lt

end Nibbles

namespace Descriptor

theorem length_bytes (d : Descriptor) : d.bytes.length = 8 := rfl

theorem toNat_base (d : Descriptor) :
    d.base.toNat = d.baseLow.toNat + d.baseMiddle.toNat <<< 16 + d.baseHigh.toNat <<< 24 := by
  have hlow := d.baseLow.toNat_lt
  have hmiddle := d.baseMiddle.toNat_lt
  have hhigh := d.baseHigh.toNat_lt
  have hlower : (d.baseLow.toUInt32 ||| (d.baseMiddle.toUInt32 <<< 16)).toNat =
      d.baseLow.toNat + d.baseMiddle.toNat <<< 16 := by
    refine LittleEndian.toNat_or_shiftLeft d.baseLow.toUInt32 d.baseMiddle.toUInt32 rfl (by decide)
      hlow ?_
    rw [UInt8.toNat_toUInt32, Nat.shiftLeft_eq, UInt32.size]
    omega
  rw [← hlower]
  refine LittleEndian.toNat_or_shiftLeft _ d.baseHigh.toUInt32 rfl (by decide) ?_ ?_
  · rw [hlower, Nat.shiftLeft_eq]
    omega
  · rw [UInt8.toNat_toUInt32, Nat.shiftLeft_eq, UInt32.size]
    omega

theorem toNat_limit (d : Descriptor) :
    d.limit.toNat = d.limitLow.toNat + (d.granularity &&& 0x0F).toNat <<< 16 := by
  have hhigh := (d.granularity &&& 0x0F).toNat_lt
  refine LittleEndian.toNat_or_shiftLeft d.limitLow.toUInt32 _ rfl (by decide)
    d.limitLow.toNat_lt ?_
  rw [UInt8.toNat_toUInt32, Nat.shiftLeft_eq, UInt32.size]
  omega

variable (base limit : UInt32) (access flags : UInt8)

theorem toNat_granularity_pack : (pack base limit access flags).granularity.toNat =
    limit.toNat / 65536 % 16 + flags.toNat / 16 * 16 := by
  have hlimit : ((limit >>> 16).toUInt8 &&& 0x0F).toNat = limit.toNat / 65536 % 16 := by
    rw [toNat_and_lowNibble, UInt32.toNat_toUInt8, UInt32.toNat_shiftRight,
      Nat.shiftRight_eq_div_pow]
    show limit.toNat / 65536 % 256 % 16 = _
    omega
  have hflags := toNat_and_highNibble flags
  show (((limit >>> 16).toUInt8 &&& 0x0F) ||| (flags &&& 0xF0)).toNat = _
  rw [toNat_or_nibbles (by omega) (by omega), hlimit, hflags]

theorem toNat_baseMiddle_pack :
    (pack base limit access flags).baseMiddle.toNat = base.toNat / 65536 % 256 := by
  show (base >>> 16).toUInt8.toNat = _
  rw [UInt32.toNat_toUInt8, UInt32.toNat_shiftRight, Nat.shiftRight_eq_div_pow]
  rfl

theorem toNat_baseHigh_pack :
    (pack base limit access flags).baseHigh.toNat = base.toNat / 16777216 := by
  have hlt := base.toNat_lt
  show (base >>> 24).toUInt8.toNat = _
  rw [UInt32.toNat_toUInt8, UInt32.toNat_shiftRight, Nat.shiftRight_eq_div_pow]
  show base.toNat / 16777216 % 256 = _
  omega

theorem base_pack : (pack base limit access flags).base = base := by
  apply UInt32.toNat_inj.mp
  have hlow : (pack base limit access flags).baseLow.toNat = base.toNat % 65536 := rfl
  rw [toNat_base, hlow, toNat_baseMiddle_pack, toNat_baseHigh_pack, Nat.shiftLeft_eq,
    Nat.shiftLeft_eq]
  omega

theorem toNat_limit_pack :
    (pack base limit access flags).limit.toNat = limit.toNat % 0x100000 := by
  have hlow : (pack base limit access flags).limitLow.toNat = limit.toNat % 65536 := rfl
  rw [toNat_limit, hlow, toNat_and_lowNibble, toNat_granularity_pack, Nat.shiftLeft_eq]
  omega

theorem flags_pack : (pack base limit access flags).flags = flags &&& 0xF0 := by
  apply UInt8.toNat_inj.mp
  rw [Descriptor.flags, toNat_and_highNibble, toNat_granularity_pack, toNat_and_highNibble]
  omega

/-- Packing what a descriptor shows makes the descriptor again. -/
theorem pack_fields (d : Descriptor) : pack d.base d.limit d.access d.flags = d := by
  have hbase := toNat_base d
  have hlimit := toNat_limit d
  have hmiddle := d.baseMiddle.toNat_lt
  have hhigh := d.baseHigh.toNat_lt
  have hlimitLow := d.limitLow.toNat_lt
  have hbaseLow := d.baseLow.toNat_lt
  have hgranularity := d.granularity.toNat_lt
  rw [Nat.shiftLeft_eq, Nat.shiftLeft_eq] at hbase
  rw [toNat_and_lowNibble, Nat.shiftLeft_eq] at hlimit
  have hfirst : (pack d.base d.limit d.access d.flags).limitLow = d.limitLow := by
    apply UInt16.toNat_inj.mp
    show d.limit.toNat % 65536 = d.limitLow.toNat
    omega
  have hsecond : (pack d.base d.limit d.access d.flags).baseLow = d.baseLow := by
    apply UInt16.toNat_inj.mp
    show d.base.toNat % 65536 = d.baseLow.toNat
    omega
  have hthird : (pack d.base d.limit d.access d.flags).baseMiddle = d.baseMiddle := by
    apply UInt8.toNat_inj.mp
    rw [toNat_baseMiddle_pack]
    omega
  have hfifth : (pack d.base d.limit d.access d.flags).granularity = d.granularity := by
    apply UInt8.toNat_inj.mp
    rw [toNat_granularity_pack, Descriptor.flags, toNat_and_highNibble]
    omega
  have hsixth : (pack d.base d.limit d.access d.flags).baseHigh = d.baseHigh := by
    apply UInt8.toNat_inj.mp
    rw [toNat_baseHigh_pack]
    omega
  calc pack d.base d.limit d.access d.flags
      = ⟨(pack d.base d.limit d.access d.flags).limitLow,
          (pack d.base d.limit d.access d.flags).baseLow,
          (pack d.base d.limit d.access d.flags).baseMiddle, d.access,
          (pack d.base d.limit d.access d.flags).granularity,
          (pack d.base d.limit d.access d.flags).baseHigh⟩ := rfl
    _ = d := by rw [hfirst, hsecond, hthird, hfifth, hsixth]

/-- What can be seen of a descriptor is all there is to it. -/
theorem eq_of_fields {first second : Descriptor} (hbase : first.base = second.base)
    (hlimit : first.limit = second.limit) (haccess : first.access = second.access)
    (hflags : first.flags = second.flags) : first = second := by
  rw [← pack_fields first, ← pack_fields second, hbase, hlimit, haccess, hflags]

theorem pack_eq_iff (base base' limit limit' : UInt32) (access access' flags flags' : UInt8) :
    pack base limit access flags = pack base' limit' access' flags' ↔
      base = base' ∧ limit.toNat % 0x100000 = limit'.toNat % 0x100000 ∧ access = access' ∧
        flags &&& 0xF0 = flags' &&& 0xF0 := by
  constructor
  · intro h
    refine ⟨?_, ?_, congrArg Descriptor.access h, ?_⟩
    · rw [← base_pack base limit access flags, h, base_pack]
    · rw [← toNat_limit_pack base limit access flags, h, toNat_limit_pack]
    · rw [← flags_pack base limit access flags, h, flags_pack]
  · rintro ⟨rfl, hlimit, rfl, hflags⟩
    refine eq_of_fields ?_ (UInt32.toNat_inj.mp ?_) rfl ?_
    · rw [base_pack, base_pack]
    · rw [toNat_limit_pack, toNat_limit_pack, hlimit]
    · rw [flags_pack, flags_pack, hflags]

/-- The number that the bytes spell, piece by piece. -/
theorem value_bytes (d : Descriptor) : LittleEndian.value d.bytes =
    d.limitLow.toNat + d.baseLow.toNat <<< 16 + d.baseMiddle.toNat <<< 32 +
      d.access.toNat <<< 40 + d.granularity.toNat <<< 48 + d.baseHigh.toNat <<< 56 := by
  rw [bytes, LittleEndian.value_append, LittleEndian.value_append, LittleEndian.value_ofUInt16,
    LittleEndian.value_ofUInt16]
  simp only [LittleEndian.value, LittleEndian.ofUInt16, List.length_append, List.length_cons,
    List.length_nil, Nat.shiftLeft_eq]
  omega

end Descriptor

/-- The bits of a number from `first` up to `past`, the latter left out. -/
def bits (first past n : Nat) : Nat := (n >>> first) % (1 <<< (past - first))

/-- The eight bytes of a descriptor as one word, with each piece of a field at its place. -/
def word (base limit : UInt32) (access flags : UInt8) : Nat :=
  bits 0 16 limit.toNat ||| bits 0 24 base.toNat <<< 16 ||| access.toNat <<< 40 |||
    bits 16 20 limit.toNat <<< 48 ||| bits 4 8 flags.toNat <<< 52 ||| bits 24 32 base.toNat <<< 56

theorem or_shiftLeft {low weight : Nat} (n high : Nat) (hweight : 1 <<< n = weight)
    (hlow : low < weight) : low ||| high <<< n = low + high * weight := by
  subst hweight
  rw [Nat.one_shiftLeft] at hlow ⊢
  rw [Nat.or_comm, ← Nat.shiftLeft_add_eq_or_of_lt hlow, Nat.add_comm, Nat.shiftLeft_eq]

/-- No two pieces overlap, so the word is their sum. -/
theorem word_eq (base limit : UInt32) (access flags : UInt8) : word base limit access flags =
    limit.toNat % 65536 + base.toNat % 16777216 * 65536 + access.toNat * 1099511627776 +
      limit.toNat / 65536 % 16 * 281474976710656 + flags.toNat / 16 * 4503599627370496 +
        base.toNat / 16777216 * 72057594037927936 := by
  have hbase := base.toNat_lt
  have haccess := access.toNat_lt
  have hflags := flags.toNat_lt
  simp only [word, bits, Nat.shiftRight_eq_div_pow, Nat.one_shiftLeft, Nat.reduceSub, Nat.reducePow,
    Nat.div_one]
  rw [or_shiftLeft 16 _ rfl (by omega), or_shiftLeft 40 _ rfl (by omega),
    or_shiftLeft 48 _ rfl (by omega), or_shiftLeft 52 _ rfl (by omega),
    or_shiftLeft 56 _ rfl (by omega)]
  omega

/-- The processor reads the fields of a packed descriptor where it looks for them. -/
theorem value_pack (base limit : UInt32) (access flags : UInt8) :
    LittleEndian.value (Descriptor.pack base limit access flags).bytes =
      word base limit access flags := by
  have hlimitLow : (Descriptor.pack base limit access flags).limitLow.toNat =
      limit.toNat % 65536 := rfl
  have hbaseLow : (Descriptor.pack base limit access flags).baseLow.toNat =
      base.toNat % 65536 := rfl
  have haccess : (Descriptor.pack base limit access flags).access = access := rfl
  rw [Descriptor.value_bytes, hlimitLow, hbaseLow, haccess, Descriptor.toNat_baseMiddle_pack,
    Descriptor.toNat_granularity_pack, Descriptor.toNat_baseHigh_pack, word_eq]
  simp only [Nat.shiftLeft_eq, Nat.reducePow]
  omega

end BringUp.Segment
