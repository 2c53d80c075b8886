import BringUp.Console

/-!
# A guarded sink with a spare

Two sinks stand beside the console: one behind a lock, and a spare for when the lock is held.
-/

namespace BringUp

set_option autoImplicit false

structure Relay where
  console : Console
  guarded : Sink
  /-- The lock around the guarded sink. -/
  held : Bool
  spare : Sink
  /-- How often a writer into the spare sink was made. -/
  spareWriters : Nat

/-- The two sinks. -/
inductive Side where
  | guarded
  | spare
  deriving DecidableEq

namespace Relay

def release (relay : Relay) : Relay := { relay with held := false }

def tryTake : Action Relay Bool := fun relay => .ok (!relay.held) { relay with held := true }

/-- Makes a writer into the spare sink. -/
def makeSpare : Action Relay Unit := fun relay =>
  .ok () { relay with spareWriters := relay.spareWriters + 1 }

instance : HasConsole Relay where
  part := console
  withPart console relay := { relay with console }

def sink : Side → Relay → Sink
  | .guarded, relay => relay.guarded
  | .spare, relay => relay.spare

def withSink : Side → Sink → Relay → Relay
  | .guarded, guarded, relay => { relay with guarded }
  | .spare, spare, relay => { relay with spare }

/-- Offers a piece to one of the sinks. -/
def offer (side : Side) (piece : String) : Action Relay Bool := fun relay =>
  let (taken, sink) := (relay.sink side).offer piece
  .ok taken (relay.withSink side sink)

/-- Writes a message to the guarded sink, or through a new writer to the spare one while the lock
is held; tells whether everything was taken. -/
def write (message : Message) : Action Relay Bool :=
  writeOrSteal tryTake release
    (message.write (offer .guarded) Action.inPlace)
    (do makeSpare; message.write (offer .spare) Action.inPlace)

end Relay

end BringUp
