import BringUp.Proofs.Paging.Filling
import BringUp.Proofs.Paging.Window

/-!
# Flags with retained bits

Flags may carry any of the word's bits, and an entry takes all of them over. The lower twelve never
reach the frame, so an entry made with named flags maps what it was given. A bit retained above them
is added to the frame's address, and the entry maps another frame unless the address has the bit
already.
-/

namespace BringUp.Paging

set_option autoImplicit false

theorem testBit_and_high (x : UInt32) (n : Nat) :
    (x &&& 0xFFFFF000).toNat.testBit n = (decide (12 ≤ n) && x.toNat.testBit n) := by
  have hshift : x.toNat / 4096 * 4096 = (x.toNat >>> 12) <<< 12 := by
    rw [Nat.shiftRight_eq_div_pow, Nat.shiftLeft_eq]
  rw [toNat_and_high, hshift, Nat.testBit_shiftLeft, Nat.testBit_shiftRight]
  by_cases hn : 12 ≤ n
  · rw [Nat.add_sub_cancel' hn]
  · rw [decide_eq_false hn, Bool.false_and, Bool.false_and]

namespace Entry

variable (frame : PageFrame) (flags : Flags)

theorem frame_map_eq : (map frame flags).frame = frame.address ||| (flags.bits &&& 0xFFFFF000) := by
  have hframe : frame.address &&& 0xFFFFF000 = frame.address := by
    apply UInt32.toNat_inj.mp
    have haligned := frame.aligned
    rw [toNat_and_high]
    omega
  have hsplit : (frame.address ||| flags.bits) &&& 0xFFFFF000 =
      (frame.address &&& 0xFFFFF000) ||| (flags.bits &&& 0xFFFFF000) :=
    UInt32.toBitVec_inj.mp BitVec.and_or_distrib_right
  rw [Entry.frame, map, hsplit, hframe]

/-- A frame is kept just if it has every bit that the flags carry above the lower twelve. -/
theorem frame_map_eq_iff : (map frame flags).frame = frame.address ↔
    ∀ n, 12 ≤ n → flags.bits.toNat.testBit n = true → frame.address.toNat.testBit n = true := by
  rw [frame_map_eq, ← UInt32.toNat_inj, UInt32.toNat_or]
  constructor
  · intro hkept n hn hbit
    rw [← hkept, Nat.testBit_or, testBit_and_high, hbit, decide_eq_true hn]
    exact Bool.or_true _
  · intro hbits
    refine Nat.eq_of_testBit_eq fun n => ?_
    rw [Nat.testBit_or, testBit_and_high, Bool.or_eq_left_iff_imp, Bool.and_eq_true,
      decide_eq_true_iff]
    exact fun hbit => hbits n hbit.1 hbit.2

theorem isPresent_map : (map frame flags).isPresent = flags.contains .present := by
  have hnamed : flags.bits &&& Flags.known &&& Flags.present.bits =
      flags.bits &&& Flags.present.bits := by
    rw [UInt32.and_assoc]
    rfl
  rw [isPresent, flags_map, Flags.contains, Flags.truncated, hnamed, Flags.contains]

end Entry

/-- What an entry made for the frame at `address` shows of it and of the flags. -/
structure Maps (address : UInt32) (given : Flags) (entry : Entry) : Prop where
  flags : entry.flags = .truncated given.bits
  present : entry.isPresent = given.contains .present
  frame : given.bits.toNat < 4096 → entry.frame = address
  /-- Nothing else can lead the entry to another frame. -/
  kept : entry.frame = address ↔
    ∀ n, 12 ≤ n → given.bits.toNat.testBit n = true → address.toNat.testBit n = true

/-- An entry for an aligned frame shows the named flags it was made with and is present if they say
so. It keeps the frame for all flags within the lower twelve bits, and beyond them just where no bit
is set that the frame lacks. -/
theorem entry_maps {address : UInt32} (haligned : address.toNat % 4096 = 0) (flags : Flags) :
    ∃ frame, PageFrame.ofAddress address = .ok frame ∧ Maps address flags (.map frame flags) := by
  refine ⟨⟨address, haligned⟩, PageFrame.ofAddress_address ⟨address, haligned⟩, ?_⟩
  constructor
  case flags => exact Entry.flags_map _ flags
  case present => exact Entry.isPresent_map _ flags
  case frame => exact Entry.frame_map ⟨address, haligned⟩
  case kept => exact Entry.frame_map_eq_iff ⟨address, haligned⟩ flags

/-- Three bits without a name are dropped from the flags and leave the frame alone. -/
theorem unnamed_bits_map :
    ∃ frame, PageFrame.ofAddress 0x1000 = .ok frame ∧
      (Entry.map frame (.retained 0xE03)).frame = 0x1000 ∧
      (Entry.map frame (.retained 0xE03)).flags = .kernel ∧
      (Entry.map frame (.retained 0xE03)).isPresent = true := by
  obtain ⟨frame, hframe, hmaps⟩ :=
    entry_maps (by decide : (0x1000 : UInt32).toNat % 4096 = 0) (.retained 0xE03)
  exact ⟨frame, hframe, hmaps.frame (by decide), hmaps.flags, hmaps.present⟩

/-- A bit retained above the lower twelve makes an entry for the frame at 0x1000 map the one at
0x3000. -/
theorem retained_bit_redirects :
    ∃ frame, PageFrame.ofAddress 0x1000 = .ok frame ∧
      (Entry.map frame (.retained 0x2003)).frame = 0x3000 :=
  ⟨_, PageFrame.ofAddress_address ⟨0x1000, by decide⟩, by decide⟩

end BringUp.Paging
