import BringUp.Controller.Chip
import BringUp.Ports

/-!
# The bus with the two chips

Two chips sit in the port space, and the bus remembers every access in order. Only the data
ports answer reads, with the mask register; all other ports read as zero, and writes to them
have no effect.
-/

namespace BringUp.Controller

set_option autoImplicit false

def masterCommand : UInt16 := 0x20
def masterData : UInt16 := 0x21
def slaveCommand : UInt16 := 0xA0
def slaveData : UInt16 := 0xA1

structure Bus where
  /-- All accesses, oldest first. -/
  log : List PortOperation
  master : Chip
  slave : Chip

namespace Bus

def reset : Bus := ⟨[], .reset, .reset⟩

def answer (port : UInt16) (bus : Bus) : UInt8 :=
  if port = masterData then bus.master.mask
  else if port = slaveData then bus.slave.mask
  else 0

def read (port : UInt16) (bus : Bus) : UInt8 × Bus :=
  (bus.answer port, { bus with log := bus.log ++ [.read port (bus.answer port)] })

/-- The chips' reaction to a written byte. -/
def react (port : UInt16) (value : UInt8) (bus : Bus) : Bus :=
  if port = masterCommand then { bus with master := bus.master.command value }
  else if port = slaveCommand then { bus with slave := bus.slave.command value }
  else if port = masterData then { bus with master := bus.master.data value }
  else if port = slaveData then { bus with slave := bus.slave.data value }
  else bus

def write (port : UInt16) (value : UInt8) (bus : Bus) : Bus :=
  let logged : Bus := { bus with log := bus.log ++ [.write port value] }
  logged.react port value

/-- A chip reacts without any access of its own. -/
theorem log_write (port : UInt16) (value : UInt8) (bus : Bus) :
    (bus.write port value).log = bus.log ++ [.write port value] := by
  simp only [write, react]
  repeat' split
  all_goals rfl

theorem read_snd (port : UInt16) (bus : Bus) :
    (bus.read port).2 = { bus with log := bus.log ++ [.read port (bus.answer port)] } := rfl

instance : PortSpace Bus where
  input := read
  output := write

/-- The bytes written so far and their ports, without the writes that only pass time. -/
def writes (bus : Bus) : List (UInt16 × UInt8) :=
  bus.log.filterMap fun
    | .write port value => if port = Port.settling then none else some (port, value)
    | .read _ _ => none

def clearLog (bus : Bus) : Bus := { bus with log := [] }

def outlineOperation : PortOperation → Text.Outline
  | .read port value =>
      .wrapped "Read" [.number port.toNat, .number value.toNat]
  | .write port value =>
      .wrapped "Write" [.number port.toNat, .number value.toNat]

def outline (bus : Bus) : Text.Outline :=
  .record "MockPorts" [
    .part "log" (.sequence (bus.log.map outlineOperation)),
    .part "master" bus.master.outline,
    .part "slave" bus.slave.outline]

end Bus

end BringUp.Controller
