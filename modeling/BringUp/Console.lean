import BringUp.Console.Message
import BringUp.Console.Sink
import BringUp.Console.Uart
import BringUp.Part

/-!
# The console

Everything printed goes to the serial line, one printer at a time: the port lock is held from a
text's first piece to its last, and a logger's record lock around that. Records of level `error`
and fatal texts come from code that may have interrupted a holder of either lock, so they never
wait: they take what is free and print over whoever holds the rest.

This is the console of a hosted build that unwinds. On the bare machine an ordinary text or record
is printed with interrupts held off; here nothing is done to the flag. A printer that fails gives
back the locks it has taken. Logging goes by the threshold alone: it does not ask whether a logger
was put in place.

How a lock is taken, tried and given back, and that a level passes a threshold if it is not above
it, is documented behaviour of the lock and of the logging facade, fixed here by definition.
-/

namespace BringUp

set_option autoImplicit false

structure Console where
  /-- Records above this threshold are dropped; `none` drops all. -/
  maxLevel : Option Level
  installed : Bool
  /-- The lock around a whole record. -/
  recordHeld : Bool
  /-- The lock around the serial port. -/
  portHeld : Bool
  uart : Uart

/-- States of which a part is a console. -/
abbrev HasConsole (σ : Type) := HasPart Console σ

namespace HasConsole

variable {σ : Type} [HasConsole σ]

abbrev console (s : σ) : Console := HasPart.part s

abbrev withConsole (c : Console) (s : σ) : σ := HasPart.withPart c s

end HasConsole

namespace Console

/-- The console once a logger is in place, with both locks free. -/
def ready : Console where
  maxLevel := some .default
  installed := true
  recordHeld := false
  portHeld := false
  uart := .idle

def enabled (level : Level) (c : Console) : Bool := level.passes c.maxLevel

def releasePort (c : Console) : Console := { c with portHeld := false }

def releaseRecord (c : Console) : Console := { c with recordHeld := false }

/-- Takes the port lock if it is free; tells whether it was. -/
def tryTakePort : Action Console Bool := fun c => .ok (!c.portHeld) { c with portHeld := true }

def tryTakeRecord : Action Console Bool := fun c =>
  .ok (!c.recordHeld) { c with recordHeld := true }

/-- Takes the port lock, waiting while it is held. -/
def takePort : Action Console Unit := fun c =>
  if c.portHeld then .error .blocked c else .ok () { c with portHeld := true }

def takeRecord : Action Console Unit := fun c =>
  if c.recordHeld then .error .blocked c else .ok () { c with recordHeld := true }

/-- Sends a text; the line takes every text. -/
def put (shown : String) : Action Console Bool := fun c =>
  .ok true { c with uart := c.uart.sendText shown }

/-- Prints what `body` sends, with the port to itself. A body that fails breaks a rule: ordinary
printing has no way to go on. -/
def printing (body : Action Console Bool) : Action Console Unit := do
  takePort
  if ← body.releasing releasePort then pure () else throw (.fault .printFailed)

/-- Prints what `body` sends without ever waiting for the port, and lets failures pass. -/
def printingFatal (body : Action Console Bool) : Action Console Unit := do
  let _ ← writeOrSteal tryTakePort releasePort body body

/-- A record's line: the level in brackets, then what `body` sends, then a line end unless the
body failed. -/
def recordLine (level : Level) (body : Action Console Bool) : Action Console Bool := do
  let _ ← put ("[" ++ level.name ++ "] ")
  if ← body then put "\n" else pure false

/-- Logs a record whose text is what `body` sends, under a record lock of the logger's own that
nobody else holds. -/
def loggingAlone (level : Level) (body : Action Console Bool) : Action Console Unit := do
  if enabled level (← get) then
    if level = .error then printingFatal (recordLine level body)
    else printing (recordLine level body)

/-- Logs a record whose text is what `body` sends. Errors do without the record lock when it is
held; other records wait for it. -/
def logging (level : Level) (body : Action Console Bool) : Action Console Unit := do
  if enabled level (← get) then
    if level = .error then
      if ← tryTakeRecord then
        (printingFatal (recordLine level body)).releasing releaseRecord
      else printingFatal (recordLine level body)
    else do
      takeRecord
      (printing (recordLine level body)).releasing releaseRecord

/-- Puts a logger in place, once, and resets the threshold. Tells whether it was the first. -/
def install : Action Console Bool := fun c =>
  if c.installed then .ok false c
  else .ok true { c with installed := true, maxLevel := some .default }

/-- What the second to put a logger in place is told. -/
def installRefusal : String :=
  "attempted to set a logger after the logging system was already initialized"

/-- Puts a logger in place where none can be yet. -/
def installFirst : Action Console Unit := do
  if ← install then pure () else throw (.fault .loggerPresent)

end Console

namespace Message

/-- Sends a message piece by piece. What arises on the way is printed where it arises; the
answer tells whether the whole message was produced. -/
def send : Message → Action Console Bool
  | finish => pure true
  | text shown rest => do
      let _ ← Console.put shown
      rest.send
  | record level inner rest => do
      Console.logging level inner.send
      rest.send
  | fatal shown rest => do
      Console.printingFatal (Console.put shown)
      rest.send
  | failure => pure false

/-- Writes a message into a writer other than the console, whose pieces `offer` takes or
refuses. The first refused piece ends the message. -/
def write {σ : Type} (offer : String → Action σ Bool)
    (onConsole : Action Console Unit → Action σ Unit) :
    Message → Action σ Bool
  | finish => pure true
  | text shown rest => do
      if ← offer shown then rest.write offer onConsole else pure false
  | record level inner rest => do
      onConsole (Console.logging level inner.send)
      rest.write offer onConsole
  | fatal shown rest => do
      onConsole (Console.printingFatal (Console.put shown))
      rest.write offer onConsole
  | failure => pure false

end Message

namespace Console

def print (message : Message) : Action Console Unit := printing message.send

def printLine (message : Message) : Action Console Unit :=
  printing do if ← message.send then put "\n" else pure false

/-- Prints a message on the way to a halt. -/
def printFatal (message : Message) : Action Console Unit := printingFatal message.send

def log {σ : Type} [HasConsole σ] (level : Level) (shown : String) : Action σ Unit :=
  Action.inPlace (logging level (put shown))

end Console

end BringUp
