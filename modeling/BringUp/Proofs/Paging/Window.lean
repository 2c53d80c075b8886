import BringUp.Paging.Identity

/-!
# Walking the identity window

An entry keeps its frame apart from its flags as long as the flags stay in the low twelve bits.
So a walk through the window's structures takes an address to itself, or ends at an absent
directory entry if the address lies past the window. Structures that were moved after they were
made send the walk to a table that is no longer theirs.
-/

namespace BringUp.Paging

set_option autoImplicit false

/-- The low twelve bits are the remainder by the page size. -/
theorem toNat_and_low (x : UInt32) : (x &&& 0xFFF).toNat = x.toNat % 4096 := by
  rw [UInt32.toNat_and]
  exact Nat.and_two_pow_sub_one_eq_mod x.toNat 12

/-- Bits above a frame's low twelve are added to it. -/
theorem toNat_or_low {x y : UInt32} (hx : x.toNat % 4096 = 0) (hy : y.toNat < 4096) :
    (x ||| y).toNat = x.toNat + y.toNat := by
  have hsum := Nat.two_pow_add_eq_or_of_lt (i := 12) hy (x.toNat / 4096)
  have hword : 2 ^ 12 * (x.toNat / 4096) = x.toNat := by omega
  rw [hword] at hsum
  rw [UInt32.toNat_or, hsum]

/-- The upper twenty bits are the start of the page. -/
theorem toNat_and_high (x : UInt32) : (x &&& 0xFFFFF000).toNat = x.toNat / 4096 * 4096 := by
  have hlt := x.toNat_lt
  have hsplit := Nat.two_pow_add_eq_or_of_lt (i := 12) (Nat.mod_lt x.toNat (by decide : 4096 > 0))
    (x.toNat / 4096)
  have hword : 2 ^ 12 * (x.toNat / 4096) + x.toNat % 4096 = x.toNat := by omega
  rw [hword] at hsplit
  have hhigh : 2 ^ 12 * (x.toNat / 4096) &&& 0xFFFFF000 = x.toNat / 4096 * 4096 := by
    have hq : x.toNat / 4096 < 2 ^ 20 := by omega
    have hmask : (0xFFFFF000 : Nat) = (2 ^ 20 - 1) <<< 12 := by decide
    rw [Nat.mul_comm, ← Nat.shiftLeft_eq, hmask, ← Nat.shiftLeft_and_distrib,
      Nat.and_two_pow_sub_one_of_lt_two_pow hq, Nat.shiftLeft_eq]
  have hlow : x.toNat % 4096 &&& 0xFFFFF000 = 0 := by
    have hmod := Nat.and_two_pow_sub_one_eq_mod x.toNat 12
    rw [show 4096 = 2 ^ 12 from rfl, ← hmod, Nat.and_assoc]
    exact Nat.and_zero x.toNat
  -- The mask keeps the first piece whole and nothing of the second.
  rw [UInt32.toNat_and, hsplit]
  show (_ ||| _) &&& 0xFFFFF000 = _
  rw [Nat.and_or_distrib_right, hhigh, hlow, Nat.or_zero]
  omega

theorem PageFrame.eq_of_address {first second : PageFrame}
    (h : first.address = second.address) : first = second := by
  cases first
  cases second
  cases h
  rfl

namespace Entry

/-- Flags in the low twelve bits do not touch the frame. -/
theorem frame_map (frame : PageFrame) {flags : Flags} (h : flags.bits.toNat < 4096) :
    (map frame flags).frame = frame.address := by
  apply UInt32.toNat_inj.mp
  have haligned := frame.aligned
  rw [Entry.frame, toNat_and_high, map, toNat_or_low haligned h]
  omega

/-- A frame does not touch the flags. -/
theorem flags_map (frame : PageFrame) (flags : Flags) :
    (map frame flags).flags = .truncated flags.bits := by
  have hframe : frame.address &&& 0xFFF = 0 := by
    apply UInt32.toNat_inj.mp
    rw [toNat_and_low]
    exact frame.aligned
  have hbits : (frame.address ||| flags.bits) &&& 0xFFF = flags.bits &&& 0xFFF := by
    have hsplit : (frame.address ||| flags.bits) &&& 0xFFF =
        (frame.address &&& 0xFFF) ||| (flags.bits &&& 0xFFF) :=
      UInt32.toBitVec_inj.mp BitVec.and_or_distrib_right
    rw [hsplit, hframe, UInt32.zero_or]
  rw [Entry.flags, map, hbits, Flags.truncated, UInt32.and_assoc]
  rfl

theorem isPresent_map_kernel (frame : PageFrame) : (map frame .kernel).isPresent = true := by
  rw [isPresent, flags_map]
  decide

theorem isPresent_unused : unused.isPresent = false := by decide

theorem frame_map_kernel (frame : PageFrame) : (map frame .kernel).frame = frame.address :=
  frame_map frame (by decide)

end Entry

theorem toNat_directoryIndex (address : UInt32) :
    directoryIndex address = address.toNat / 4194304 := by
  rw [directoryIndex, UInt32.toNat_shiftRight, Nat.shiftRight_eq_div_pow]
  rfl

theorem toNat_tableIndex (address : UInt32) :
    tableIndex address = address.toNat / 4096 % 1024 := by
  rw [tableIndex, UInt32.toNat_and, UInt32.toNat_shiftRight, Nat.shiftRight_eq_div_pow]
  exact Nat.and_two_pow_sub_one_eq_mod _ 10

theorem directoryIndex_inside {address : UInt32} (h : address.toNat < identityWindow) :
    directoryIndex address = 0 := by
  have hinside : address.toNat < 4194304 := h
  rw [toNat_directoryIndex]
  omega

namespace Identity

/-- The structures that map the window when they start at `place`. -/
def window (place : PageFrame) : Identity where
  directory := ⟨Vector.set Table.empty.entries 0 (.map place.next .kernel)⟩
  table := ⟨.ofFn fun page => .map (.numbered page.val) .kernel⟩

theorem directory_window (place : PageFrame) {index : Nat} (h : index < 1024) :
    (window place).directory.entries[index] =
      if index = 0 then .map place.next .kernel else .unused := by
  simp only [window, Table.empty, Vector.getElem_set, Vector.getElem_replicate, eq_comm]

theorem table_window (place : PageFrame) {index : Nat} (h : index < 1024) :
    (window place).table.entries[index] = .map (.numbered index) .kernel := by
  simp only [window, Vector.getElem_ofFn]

/-- The window takes each of its addresses to itself, wherever the structures lie. -/
theorem translate_inside (place : PageFrame) {address : UInt32}
    (h : address.toNat < identityWindow) :
    (window place).translate place address = .ok address := by
  have hinside : address.toNat < 4194304 := h
  have hdirectory := directoryIndex_inside h
  have htable : tableIndex address = address.toNat / 4096 := by
    rw [toNat_tableIndex]
    omega
  have hpage : (PageFrame.numbered (tableIndex address)).address.toNat =
      address.toNat / 4096 * 4096 := by
    rw [htable, PageFrame.numbered, UInt32.toNat_ofNat']
    omega
  have hwhole : (PageFrame.numbered (tableIndex address)).address ||| (address &&& 0xFFF) =
      address := by
    apply UInt32.toNat_inj.mp
    have hlow := toNat_and_low address
    rw [toNat_or_low (PageFrame.aligned _) (by omega), hpage, hlow]
    omega
  simp only [translate, directory_window, table_window, hdirectory, if_true,
    Entry.isPresent_map_kernel, Entry.frame_map_kernel, tableAddress, hwhole]
  simp

/-- Past the window the walk ends in the directory, wherever the structures were made. -/
theorem translate_outside (origin place : PageFrame) {address : UInt32}
    (h : identityWindow ≤ address.toNat) :
    (window origin).translate place address =
      .error (.directoryEntryAbsent (directoryIndex address)) := by
  have houtside : 4194304 ≤ address.toNat := h
  have hdirectory : directoryIndex address ≠ 0 := by
    rw [toNat_directoryIndex]
    omega
  simp only [translate, directory_window, if_neg hdirectory, Entry.isPresent_unused,
    Bool.not_false, if_true]

/-- In structures that were moved the directory still names the table where it was before. -/
theorem translate_moved {origin place : PageFrame} (hmoved : place.address ≠ origin.address)
    {address : UInt32} (h : address.toNat < identityWindow) :
    (window origin).translate place address = .error (.foreignTable (tableAddress origin)) := by
  have hdirectory := directoryIndex_inside h
  have hforeign : tableAddress origin ≠ tableAddress place := fun he =>
    hmoved ((UInt32.add_left_inj 4096).mp he).symm
  simp only [translate, directory_window, hdirectory, if_true, Entry.isPresent_map_kernel,
    Entry.frame_map_kernel, Bool.not_true, Bool.false_eq_true, if_false]
  exact if_pos hforeign

theorem translate_empty (place : PageFrame) (address : UInt32) :
    empty.translate place address = .error (.directoryEntryAbsent (directoryIndex address)) := by
  simp only [translate, empty, Table.empty, Vector.getElem_replicate, Entry.isPresent_unused,
    Bool.not_false, if_true]

theorem mappedSpan_empty : empty.mappedSpan = 0 := by
  have hcount : empty.directory.presentCount = 0 := by
    simp only [Table.presentCount, empty, Table.empty, Vector.countP_replicate,
      Entry.isPresent_unused, Bool.false_eq_true, if_false]
  rw [mappedSpan, hcount, Nat.zero_mul]

/-- The window's directory has one table. -/
theorem mappedSpan_window (origin : PageFrame) :
    (window origin).mappedSpan = identityWindow := by
  have hcount : (window origin).directory.presentCount = 1 := by
    simp only [Table.presentCount, window, Table.empty, Vector.countP_set,
      Vector.countP_replicate, Vector.getElem_replicate, Entry.isPresent_unused,
      Entry.isPresent_map_kernel, Bool.false_eq_true, if_false, if_true]
  rw [mappedSpan, hcount, Nat.one_mul, identityWindow]

theorem isIdentityMapped_iff (place : PageFrame) (paging : Identity) (address : UInt32) :
    paging.isIdentityMapped place address = true ↔
      address.toNat < identityWindow ∧ paging.translate place address = .ok address := by
  rw [isIdentityMapped, Bool.and_eq_true, decide_eq_true_iff]
  refine and_congr_right fun _ => ?_
  cases paging.translate place address with
  | ok mapped => rw [decide_eq_true_iff, Except.ok.injEq]
  | error fault => exact iff_of_false Bool.false_ne_true nofun

end Identity

end BringUp.Paging
