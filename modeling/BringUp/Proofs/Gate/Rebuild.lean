import BringUp.Proofs.Gate.Table

/-!
# Rebuilding the tables in place

To set up a table that is already there, all its entries are cleared and those in use are written
one after another. Whatever the table held before, this leaves it as a new one.
-/

namespace BringUp

set_option autoImplicit false

namespace Segment.Table

/-- The table of the flat model. -/
def flat : Table :=
  ⟨#v[.null,
    .pack 0 flatLimit codeAccess flatFlags,
    .pack 0 flatLimit dataAccess flatFlags]⟩

theorem clear_eq (table : Table) : table.clear = empty := by
  refine congrArg Table.mk (Vector.ext fun index hindex => ?_)
  rw [Vector.getElem_map, Vector.getElem_replicate]

theorem populateFlat_eq (table : Table) : populateFlat.run table = .ok (.ok ()) flat := by
  show writeFlat.run table.clear = _
  rw [clear_eq]
  rfl

theorem fillFlat_eq (table : Table) : fillFlat table = .ok () flat := by
  rw [fillFlat, Action.bind_ok (populateFlat_eq table)]
  rfl

end Segment.Table

namespace Gate.Table

theorem ext_gate {first second : Table} (h : ∀ vector, first.gate vector = second.gate vector) :
    first = second := by
  refine congrArg Table.mk (Vector.ext fun index hindex => ?_)
  have hbyte : (UInt8.ofNat index).toNat = index := Nat.mod_eq_of_lt hindex
  have hgate := h (UInt8.ofNat index)
  simpa only [gate, hbyte] using hgate

/-- The table with the gate of one more vector that has entry code. -/
def setEntry (entries : EntryPoints) (table : Table) (vector : Fin 48) : Table :=
  table.set (UInt8.ofNat vector.val)
    (.pack (entries.get vector) Segment.codeSelector interruptFlags)

theorem forM_writeEntry (entries : EntryPoints) (vectors : List (Fin 48)) (table : Table) :
    vectors.forM (writeEntry entries) table = .ok () (vectors.foldl (setEntry entries) table) := by
  induction vectors generalizing table with
  | nil => rfl
  | cons first rest ih =>
    have hfirst : writeEntry entries first table = .ok () (table.setEntry entries first) := rfl
    exact (Action.bind_ok hfirst).trans (ih _)

theorem gate_clear (table : Table) (vector : UInt8) : table.clear.gate vector = .missing := by
  rw [gate, clear, Vector.getElem_map]

theorem gate_setEntry (entries : EntryPoints) (table : Table) (written : Fin 48)
    (vector : UInt8) :
    (table.setEntry entries written).gate vector =
      if vector.toNat = written.val then
        .pack (entries.get written) Segment.codeSelector interruptFlags
      else table.gate vector := by
  have hbyte : (UInt8.ofNat written.val).toNat = written.val :=
    Nat.mod_eq_of_lt (Nat.lt_trans written.isLt (by decide))
  have hsame : vector = UInt8.ofNat written.val ↔ vector.toNat = written.val := by
    rw [← UInt8.toNat_inj, hbyte]
  rw [setEntry, gate_set]
  simp only [hsame]

/-- No gate is touched but those that are written. -/
theorem gate_foldl_untouched (entries : EntryPoints) {vectors : List (Fin 48)} {vector : UInt8}
    (h : ∀ written ∈ vectors, vector.toNat ≠ written.val) (table : Table) :
    (vectors.foldl (setEntry entries) table).gate vector = table.gate vector := by
  induction vectors generalizing table with
  | nil => rfl
  | cons first rest ih =>
    obtain ⟨hfirst, hrest⟩ := List.forall_mem_cons.mp h
    rw [List.foldl_cons, ih hrest, gate_setEntry, if_neg hfirst]

/-- A gate that is written stays written. -/
theorem gate_foldl_written (entries : EntryPoints) {vectors : List (Fin 48)} {written : Fin 48}
    (hmem : written ∈ vectors) {vector : UInt8} (hvector : vector.toNat = written.val)
    (table : Table) :
    (vectors.foldl (setEntry entries) table).gate vector =
      .pack (entries.get written) Segment.codeSelector interruptFlags := by
  induction vectors generalizing table with
  | nil => cases hmem
  | cons first rest ih =>
    rw [List.foldl_cons]
    by_cases hrest : written ∈ rest
    · exact ih hrest _
    · obtain rfl | hmem := List.mem_cons.mp hmem
      · -- The first write is the last one for this vector.
        have hothers : ∀ other ∈ rest, vector.toNat ≠ other.val := by
          intro other hother hsame
          exact hrest (Fin.ext (hvector.symm.trans hsame) ▸ hother)
        rw [gate_foldl_untouched entries hothers, gate_setEntry, if_pos hvector]
      · exact absurd hmem hrest

theorem build_eq (entries : EntryPoints) (table : Table) :
    build entries table = .ok () (ofEntryPoints entries) := by
  have hclear : (modify clear : Action Table Unit) table = .ok () table.clear := rfl
  rw [build, Action.bind_ok hclear, forM_writeEntry]
  refine congrArg (EStateM.Result.ok ()) (ext_gate fun vector => ?_)
  rw [ofEntryPoints_gate]
  by_cases h : vector.toNat < 48
  · rw [dif_pos h, gate_foldl_written entries (List.mem_finRange ⟨vector.toNat, h⟩) rfl]
    rfl
  · rw [dif_neg h, gate_foldl_untouched entries (fun written _ => by omega), gate_clear]

end Gate.Table

end BringUp
