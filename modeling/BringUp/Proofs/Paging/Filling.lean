import BringUp.Proofs.Paging.Window

/-!
# Filling the structures

To map the window in structures that are already there, both are cleared, the entries of the table
are written one after another, and the directory is given the table. Whatever the structures held
before, this leaves them as the window's.
-/

namespace BringUp.Paging

set_option autoImplicit false

theorem PageFrame.ofAddress_address (frame : PageFrame) :
    ofAddress frame.address = .ok frame := dif_pos frame.aligned

namespace Table

theorem zero_eq (table : Table) : table.zero = empty := by
  refine congrArg Table.mk (Vector.ext fun index hindex => ?_)
  rw [Vector.getElem_map, Vector.getElem_replicate]

theorem write_frame (table : Table) {index : Nat} (h : index < 1024) (frame : PageFrame)
    (flags : Flags) :
    table.write (UInt64.ofNat index) frame.address flags =
      .ok ⟨table.entries.set index (.map frame flags)⟩ := by
  have hindex : (UInt64.ofNat index).toNat = index := by
    rw [UInt64.toNat_ofNat']
    omega
  have hset : table.set (UInt64.ofNat index) (.map frame flags) =
      .ok ⟨table.entries.set index (.map frame flags)⟩ := by
    simp only [set, hindex, h, dite_true]
  rw [write, PageFrame.ofAddress_address]
  exact hset

/-- The table with its first `n` pages mapped onto themselves. -/
def filled (table : Table) (n : Nat) : Table :=
  ⟨.ofFn fun page =>
    if page.val < n then .map (.numbered page.val) .kernel else table.entries.get page⟩

theorem filled_zero (table : Table) : table.filled 0 = table := by
  simp only [filled, Nat.not_lt_zero, if_false]
  exact congrArg Table.mk Vector.ofFn_getElem

/-- One more page is mapped. -/
theorem mapPage_filled (table : Table) {n : Nat} (h : n < 1024) :
    mapPage n (table.filled n) = .ok () (table.filled (n + 1)) := by
  have haddress : UInt32.ofNat n * 4096 = (PageFrame.numbered n).address := by
    apply UInt32.toNat_inj.mp
    rw [PageFrame.numbered, UInt32.toNat_mul, UInt32.toNat_ofNat', UInt32.toNat_ofNat']
    simp only [UInt32.reduceToNat]
    omega
  have hwrite : (table.filled n).write (UInt64.ofNat n) (UInt32.ofNat n * 4096) .kernel =
      .ok (table.filled (n + 1)) := by
    rw [haddress, write_frame _ h]
    refine congrArg (fun entries => Except.ok (Table.mk entries))
      (Vector.ext fun page hpage => ?_)
    simp only [filled, Vector.getElem_set, Vector.getElem_ofFn]
    by_cases hwritten : n = page
    · subst hwritten
      rw [if_pos rfl, if_pos (Nat.lt_succ_self n)]
    · have hbefore : page < n + 1 ↔ page < n := by omega
      simp only [if_neg hwritten, hbefore]
  exact Action.store_ok hwrite

theorem forM_mapPage (table : Table) {n : Nat} (h : n ≤ 1024) :
    (List.range n).forM mapPage table = .ok () (table.filled n) := by
  induction n with
  | zero =>
    rw [filled_zero]
    rfl
  | succ n ih =>
    rw [List.range_succ, List.forM_eq_forM, List.forM_append, ← List.forM_eq_forM,
      Action.bind_ok (ih (Nat.le_of_succ_le h))]
    exact Action.bind_ok (table.mapPage_filled h)

end Table

namespace Identity

theorem onDirectory_ok {work : Action Table Unit} {paging : Identity} {directory : Table}
    (h : work paging.directory = .ok () directory) :
    onDirectory work paging = .ok () { paging with directory } := Action.within_ok h

theorem onTable_ok {work : Action Table Unit} {paging : Identity} {table : Table}
    (h : work paging.table = .ok () table) :
    onTable work paging = .ok () { paging with table } := Action.within_ok h

/-- Whatever the structures hold, filling them leaves the window's. -/
theorem fill_eq (place : PageFrame) (paging : Identity) :
    fill place paging = .ok () (window place) := by
  have hzeroDirectory : onDirectory (modify Table.zero) paging =
      .ok () ⟨.empty, paging.table⟩ := by
    rw [← Table.zero_eq paging.directory]
    rfl
  have hzeroTable : onTable (modify Table.zero) ⟨.empty, paging.table⟩ =
      .ok () ⟨.empty, .empty⟩ := by
    rw [← Table.zero_eq paging.table]
    rfl
  have hpages : onTable ((List.range 1024).forM Table.mapPage) ⟨.empty, .empty⟩ =
      .ok () ⟨.empty, Table.empty.filled 1024⟩ :=
    onTable_ok (Table.empty.forM_mapPage (Nat.le_refl 1024))
  have htable : Table.empty.filled 1024 = (window place).table := by
    refine congrArg Table.mk (congrArg Vector.ofFn ?_)
    funext page
    exact if_pos page.isLt
  have hdirectory : Action.store (fun directory => directory.write 0 (tableAddress place) .kernel)
      Table.empty = .ok () (window place).directory :=
    Action.store_ok (Table.empty.write_frame (show 0 < 1024 by decide) place.next .kernel)
  rw [fill, Action.bind_ok hzeroDirectory, Action.bind_ok hzeroTable, tableEntries,
    Action.bind_ok hpages, htable]
  exact onDirectory_ok hdirectory

end Identity

end BringUp.Paging
