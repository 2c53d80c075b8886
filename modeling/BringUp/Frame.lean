import BringUp.LittleEndian
import BringUp.Text.Hexadecimal
import BringUp.Text.Outline

/-!
# Interrupt frames

When an interrupt arrives, the entry code leaves a snapshot of the registers on the stack: what
it saved itself, then the vector and the error code, then what the processor pushed. Only the
low byte of the vector word counts.
-/

namespace BringUp

set_option autoImplicit false

/-- The snapshot, lowest address first. -/
structure Frame where
  ds : UInt32
  edi : UInt32
  esi : UInt32
  ebp : UInt32
  esp : UInt32
  ebx : UInt32
  edx : UInt32
  ecx : UInt32
  eax : UInt32
  vector : UInt32
  errorCode : UInt32
  eip : UInt32
  cs : UInt32
  eflags : UInt32
  deriving DecidableEq

namespace Frame

def zero : Frame := ⟨0, 0, 0, 0, 0, 0, 0, 0, 0, 0, 0, 0, 0, 0⟩

/-- The frame of a vector that arrives with all registers clear. -/
def ofVector (vector : UInt8) : Frame := { zero with vector := vector.toUInt32 }

def withErrorCode (errorCode : UInt32) (frame : Frame) : Frame := { frame with errorCode }

/-- The vector that the frame is about. -/
def vectorByte (frame : Frame) : UInt8 := frame.vector.toUInt8

def wordNames : List String :=
  ["ds", "edi", "esi", "ebp", "esp", "ebx", "edx", "ecx", "eax", "vector", "error_code", "eip",
   "cs", "eflags"]

/-- The words, lowest address first. -/
def words (frame : Frame) : List UInt32 :=
  [frame.ds, frame.edi, frame.esi, frame.ebp, frame.esp, frame.ebx, frame.edx, frame.ecx,
   frame.eax, frame.vector, frame.errorCode, frame.eip, frame.cs, frame.eflags]

/-- The frame whose word at each position is given. -/
def ofWords (word : Fin 14 → UInt32) : Frame :=
  ⟨word 0, word 1, word 2, word 3, word 4, word 5, word 6, word 7, word 8, word 9, word 10,
   word 11, word 12, word 13⟩

/-- The frame as it lies on the stack. -/
def bytes (frame : Frame) : List UInt8 := frame.words.flatMap LittleEndian.ofUInt32

/-- The frame with its words shown by `number`. -/
def outline (number : Nat → Text.Outline) (frame : Frame) : Text.Outline :=
  .record "InterruptFrame"
    (List.zipWith (fun name word => .part name (number word.toNat)) wordNames frame.words)

def line (frame : Frame) : String := (frame.outline .number).line

def dump (frame : Frame) : String := (frame.outline fun n => .text (Text.hex n)).lines

theorem vectorByte_ofVector (vector : UInt8) : (ofVector vector).vectorByte = vector := by
  simp [ofVector, vectorByte]

end Frame

end BringUp
