import BringUp.Ports

/-!
# The serial transmitter

Text leaves the machine through the first serial port. A byte is handed over once the line
status port reports an empty holding register, and the two erasing control bytes are sent as
backspace, space, backspace so that a terminal blanks the character it steps back over.

The replacement, the wait for the line status and the writes that set the device up are the
documented behaviour of its driver, fixed here by definition.
-/

namespace BringUp

set_option autoImplicit false

/-- The transmitter: how often it answers "not yet" ahead of each byte, and the bytes handed
over so far. -/
structure Uart where
  busyPolls : Nat
  sent : List UInt8

namespace Uart

/-- Port of the data register, the first of the device's eight ports. -/
def dataPort : UInt16 := 0x3F8

def statusPort : UInt16 := dataPort + 5

/-- The status bit for an empty holding register. -/
def ready : UInt8 := 0x20

def idle : Uart := ⟨0, []⟩

/-- What is handed to the device for one byte of text. -/
def outgoing (byte : UInt8) : List UInt8 :=
  if byte = 0x08 ∨ byte = 0x7F then [0x08, 0x20, 0x08] else [byte]

/-- The bytes of a text, each character in one to four of them. -/
def encode (text : String) : List UInt8 :=
  text.toList.flatMap String.utf8EncodeChar

/-- Sends bytes as they are, with nothing replaced. -/
def sendRaw (bytes : List UInt8) (u : Uart) : Uart :=
  { u with sent := u.sent ++ bytes }

def sendByte (byte : UInt8) (u : Uart) : Uart :=
  u.sendRaw (outgoing byte)

def sendText (text : String) (u : Uart) : Uart :=
  u.sendRaw ((encode text).flatMap outgoing)

/-- The port accesses that hand over one byte. -/
def handOver (busyPolls : Nat) (byte : UInt8) : List PortOperation :=
  List.replicate busyPolls (.read statusPort 0) ++
    [.read statusPort ready, .write dataPort byte]

/-- The port accesses behind everything sent so far. -/
def traffic (u : Uart) : List PortOperation :=
  u.sent.flatMap (handOver u.busyPolls)

/-- The device's one-time set-up: interrupts off, divisor 3, eight data bits, queues on, line
signals raised, interrupts on. -/
def setUp : List PortOperation :=
  [.write (dataPort + 1) 0x00,
   .write (dataPort + 3) 0x80,
   .write dataPort 0x03,
   .write (dataPort + 1) 0x00,
   .write (dataPort + 3) 0x03,
   .write (dataPort + 2) 0xC7,
   .write (dataPort + 4) 0x0B,
   .write (dataPort + 1) 0x01]

end Uart

end BringUp
