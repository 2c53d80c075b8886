import BringUp.Fault

/-!
# Writing without waiting

A writer behind a lock is used when the lock is free. When somebody holds it, a spare writer is
used instead, so the text gets out without waiting and the lock stays as it was found.
-/

namespace BringUp

set_option autoImplicit false

/-- A writer that takes a piece of text whole, or refuses it and keeps its contents as they are. -/
structure Sink where
  /-- Whether a piece is taken, given all pieces offered before and what was taken of them. -/
  accepts (offered : List String) (contents piece : String) : Bool
  offered : List String
  contents : String

namespace Sink

def unbounded : Sink := ⟨fun _ _ _ => true, [], ""⟩

def bounded (capacity : Nat) : Sink :=
  ⟨fun _ contents piece => contents.utf8ByteSize + piece.utf8ByteSize ≤ capacity, [], ""⟩

/-- Offers a piece; tells whether it was taken. -/
def offer (piece : String) (sink : Sink) : Bool × Sink :=
  let sink' := { sink with offered := sink.offered ++ [piece] }
  if sink.accepts sink.offered sink.contents piece then
    (true, { sink' with contents := sink.contents ++ piece })
  else (false, sink')

theorem offer_accepted {piece : String} {sink : Sink}
    (h : sink.accepts sink.offered sink.contents piece = true) :
    sink.offer piece =
      (true, { sink with
        offered := sink.offered ++ [piece], contents := sink.contents ++ piece }) := by
  simp [offer, h]

theorem offer_refused {piece : String} {sink : Sink}
    (h : sink.accepts sink.offered sink.contents piece = false) :
    sink.offer piece = (false, { sink with offered := sink.offered ++ [piece] }) := by
  simp [offer, h]

end Sink

/-- Writes through the guarded writer if its lock can be had at once, and through the spare
writer otherwise. Both report whether everything was taken. -/
def writeOrSteal {σ : Type} (tryTake : Action σ Bool) (release : σ → σ)
    (guarded spare : Action σ Bool) : Action σ Bool := do
  if ← tryTake then guarded.releasing release else spare

end BringUp
