import BringUp.Exception.PageFault
import BringUp.Proofs.Paging.Filling

/-!
# Structures that move

An owner maps the window, starts over with empty structures, or moves them as they are to another
frame, in any order. The directory names the table by its address, so a walk goes through only
while the structures lie where the window was mapped last. Nothing else of the past matters.
-/

namespace BringUp.Paging

set_option autoImplicit false

inductive Change where
  | map
  | reset
  /-- Moves them to another frame, each entry as it is. -/
  | relocate (place : PageFrame)

structure Placed where
  place : PageFrame
  paging : Identity

instance : HasPart Identity Placed where
  part := Placed.paging
  withPart paging placed := { placed with paging }

def Change.apply : Change → Action Placed Unit
  | map => do
      let placed ← get
      Action.inPlace (Identity.fill placed.place)
  | reset => modify fun placed => { placed with paging := .empty }
  | relocate place => modify fun placed => { placed with place }

theorem Change.apply_map (placed : Placed) :
    map.apply placed = .ok () ⟨placed.place, .window placed.place⟩ := by
  have hfill : Action.inPlace (Identity.fill placed.place) placed =
      .ok () ⟨placed.place, .window placed.place⟩ :=
    Action.inPlace_ok (Identity.fill_eq placed.place placed.paging)
  rw [apply, Action.bind_get]
  exact hfill

/-- What was done with the structures, the latest first. -/
abbrev Changes := List Change

namespace Changes

/-- Makes the changes in place. -/
def run : Changes → Action Placed Unit
  | [] => return
  | change :: earlier => do
      run earlier
      change.apply

def place (start : PageFrame) : Changes → PageFrame
  | [] => start
  | .map :: earlier | .reset :: earlier => place start earlier
  | .relocate frame :: _ => frame

/-- Where the structures lay when the window was mapped last, unless they were reset since. -/
def mappedAt (start : PageFrame) : Changes → Option PageFrame
  | [] | .reset :: _ => none
  | .map :: earlier => some (place start earlier)
  | .relocate _ :: earlier => mappedAt start earlier

/-- What the structures hold is settled by where the window was mapped. -/
def contents : Option PageFrame → Identity
  | none => .empty
  | some origin => .window origin

theorem run_eq (start : PageFrame) (changes : Changes) :
    run changes ⟨start, .empty⟩ =
      .ok () ⟨place start changes, contents (mappedAt start changes)⟩ := by
  induction changes with
  | nil => rfl
  | cons change earlier ih =>
    rw [run, Action.bind_ok ih]
    cases change with
    | map => exact Change.apply_map _
    | reset => rfl
    | relocate frame => rfl

/-- What structures say of themselves after some changes. -/
structure Describes (start : PageFrame) (changes : Changes) (placed : Placed) : Prop where
  place : placed.place = place start changes
  /-- Past the window no history makes a walk go through. -/
  outside : ∀ address : UInt32, 0x400000 ≤ address.toNat →
    placed.paging.translate placed.place address =
      .error (.directoryEntryAbsent (address >>> 22).toNat)
  unmapped : mappedAt start changes = none → ∀ address : UInt32, address.toNat < 0x400000 →
    placed.paging.translate placed.place address = .error (.directoryEntryAbsent 0)
  home : ∀ origin, mappedAt start changes = some origin →
    placed.place.address = origin.address → ∀ address : UInt32, address.toNat < 0x400000 →
      placed.paging.translate placed.place address = .ok address
  moved : ∀ origin, mappedAt start changes = some origin →
    placed.place.address ≠ origin.address → ∀ address : UInt32, address.toNat < 0x400000 →
      placed.paging.translate placed.place address =
        .error (.foreignTable (origin.address + 4096))
  /-- A table that is there maps all of its pages. -/
  whole : ∀ (address : UInt32) (index : Nat),
    placed.paging.translate placed.place address ≠ .error (.tableEntryAbsent index)
  identity : ∀ address : UInt32, placed.paging.isIdentityMapped placed.place address = true ↔
    placed.paging.translate placed.place address = .ok address
  span : placed.paging.mappedSpan = if (mappedAt start changes).isSome then 0x400000 else 0
  /-- The span is counted in a word. -/
  span_lt : placed.paging.mappedSpan < 0x100000000
  /-- A page fault is put inside the window just where the fresh structures map. -/
  fault : ∀ earlier, changes = .map :: earlier → ∀ code address : UInt32,
    (Exception.PageFault.decode code address).inWindow =
      placed.paging.isIdentityMapped placed.place address

theorem describes_unmapped {start : PageFrame} {changes : Changes}
    (h : mappedAt start changes = none) :
    Describes start changes ⟨place start changes, .empty⟩ := by
  have hwalk := Identity.translate_empty (place start changes)
  constructor
  case place => rfl
  case outside => exact fun address _ => hwalk address
  case unmapped =>
    intro _ address hinside
    rw [hwalk, directoryIndex_inside hinside]
  case home | moved =>
    intro origin hmapped
    rw [h] at hmapped
    cases hmapped
  case whole =>
    intro address index
    rw [hwalk]
    nofun
  case identity =>
    intro address
    rw [Identity.isIdentityMapped_iff, hwalk]
    exact iff_of_false (fun hmapped => nomatch hmapped.2) nofun
  case span => rw [h, Identity.mappedSpan_empty]; rfl
  case span_lt => rw [Identity.mappedSpan_empty]; decide
  case fault =>
    rintro earlier rfl
    cases h

theorem describes_mapped {start origin : PageFrame} {changes : Changes}
    (h : mappedAt start changes = some origin) :
    Describes start changes ⟨place start changes, .window origin⟩ := by
  have hspan := Identity.mappedSpan_window origin
  have houtside (address : UInt32) (hpast : 0x400000 ≤ address.toNat) :=
    Identity.translate_outside origin (place start changes) hpast
  have hhome (heq : (place start changes).address = origin.address) (address : UInt32)
      (hinside : address.toNat < 0x400000) :
      (Identity.window origin).translate (place start changes) address = .ok address := by
    rw [PageFrame.eq_of_address heq]
    exact Identity.translate_inside origin hinside
  have hmoved (hne : (place start changes).address ≠ origin.address) (address : UInt32)
      (hinside : address.toNat < 0x400000) :=
    Identity.translate_moved hne hinside
  constructor
  case place => rfl
  case outside => exact houtside
  case unmapped =>
    intro hnone
    rw [h] at hnone
    cases hnone
  case home =>
    intro last hlast
    obtain rfl : origin = last := Option.some.inj (h.symm.trans hlast)
    exact hhome
  case moved =>
    intro last hlast
    obtain rfl : origin = last := Option.some.inj (h.symm.trans hlast)
    exact hmoved
  case whole =>
    intro address index
    rcases Nat.lt_or_ge address.toNat 0x400000 with hinside | hpast
    · by_cases heq : (place start changes).address = origin.address
      · rw [hhome heq address hinside]
        nofun
      · rw [hmoved heq address hinside]
        nofun
    · rw [houtside address hpast]
      nofun
  case identity =>
    intro address
    rw [Identity.isIdentityMapped_iff]
    refine and_iff_right_of_imp fun hmapped => Nat.lt_of_not_le fun hpast => ?_
    rw [houtside address hpast] at hmapped
    cases hmapped
  case span => rw [h, hspan]; rfl
  case span_lt => rw [hspan]; decide
  case fault =>
    rintro earlier rfl code address
    -- The map that came last was made where the structures still lie.
    obtain rfl : place start earlier = origin := Option.some.inj h
    rw [Bool.eq_iff_iff, Identity.isIdentityMapped_iff]
    refine decide_eq_true_iff.trans (iff_self_and.mpr fun hinside => ?_)
    exact hhome rfl address hinside

/-- Whatever is done with structures that were empty at first, a walk through them goes by where
they lie and where the window was mapped last. -/
theorem changes_describe (start : PageFrame) (changes : Changes) :
    ∃ placed, run changes ⟨start, .empty⟩ = .ok () placed ∧ Describes start changes placed := by
  refine ⟨_, run_eq start changes, ?_⟩
  cases h : mappedAt start changes with
  | none => exact describes_unmapped h
  | some origin => exact describes_mapped h

/-- The structures fill the last frame and, around the end, the first. Mapped there and moved away
they send a walk to the table at address zero; moved back, they take it to the address again. -/
theorem wrapped_changes_describe :
    ∃ away back : Placed,
      run [.relocate (.numbered 0x200), .map] ⟨.numbered 0xFFFFF, .empty⟩ = .ok () away ∧
      away.paging.translate away.place 0x1234 = .error (.foreignTable 0) ∧
      run [.relocate (.numbered 0xFFFFF), .relocate (.numbered 0x200), .map]
        ⟨.numbered 0xFFFFF, .empty⟩ = .ok () back ∧
      back.paging.translate back.place 0x1234 = .ok 0x1234 := by
  obtain ⟨away, hrunAway, haway⟩ :=
    changes_describe (.numbered 0xFFFFF) [.relocate (.numbered 0x200), .map]
  obtain ⟨back, hrunBack, hback⟩ := changes_describe (.numbered 0xFFFFF)
    [.relocate (.numbered 0xFFFFF), .relocate (.numbered 0x200), .map]
  refine ⟨away, back, hrunAway, ?_, hrunBack, ?_⟩
  · refine haway.moved (.numbered 0xFFFFF) rfl ?_ 0x1234 (by decide)
    rw [haway.place]
    decide
  · refine hback.home (.numbered 0xFFFFF) rfl ?_ 0x1234 (by decide)
    rw [hback.place]
    rfl

end Changes

end BringUp.Paging
