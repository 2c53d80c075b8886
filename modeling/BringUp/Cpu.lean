import BringUp.TablePointer

/-!
# Privileged processor state

Bring-up loads two table pointers, the segment registers and the page directory, turns paging
on and sets the interrupt flag. Any state on which these operations are defined can stand for
the processor.
-/

namespace BringUp

set_option autoImplicit false

/-- A segment selector: eight times the descriptor's index, plus the requested ring. -/
abbrev Selector := UInt16

/-- The selector of the descriptor at `index` for ring 0. -/
def Selector.ring0 (index : UInt16) : Selector := index <<< 3

/-- States of which a part is a processor. -/
class Cpu (σ : Type) where
  loadGdt (pointer : TablePointer) (s : σ) : σ
  /-- Loads the data segment registers and, by a far return, the code segment. -/
  reloadSegments (code data : Selector) (s : σ) : σ
  loadIdt (pointer : TablePointer) (s : σ) : σ
  writeCr3 (directory : UInt32) (s : σ) : σ
  enablePaging (s : σ) : σ
  /-- The address whose access caused the latest page fault. -/
  readCr2 (s : σ) : UInt32 × σ
  enableInterrupts (s : σ) : σ
  disableInterrupts (s : σ) : σ
  interruptsEnabled (s : σ) : Bool
  /-- Holds interrupts off and stops the processor. -/
  halt (s : σ) : σ

/-- A state has the processor of its part. `view` finds the part and `update` puts it back. -/
@[reducible]
def Cpu.ofPart {σ τ : Type} [Cpu τ] (view : σ → τ) (update : τ → σ → σ) : Cpu σ where
  loadGdt pointer s := update (loadGdt pointer (view s)) s
  reloadSegments code data s := update (reloadSegments code data (view s)) s
  loadIdt pointer s := update (loadIdt pointer (view s)) s
  writeCr3 directory s := update (writeCr3 directory (view s)) s
  enablePaging s := update (enablePaging (view s)) s
  readCr2 s := ((readCr2 (view s)).1, update (readCr2 (view s)).2 s)
  enableInterrupts s := update (enableInterrupts (view s)) s
  disableInterrupts s := update (disableInterrupts (view s)) s
  interruptsEnabled s := interruptsEnabled (view s)
  halt s := update (halt (view s)) s

inductive Ring where
  | ring0
  | ring1
  | ring2
  | ring3
  deriving DecidableEq

namespace Ring

/-- The ring in bits 5 and 6 of a descriptor's access byte. -/
def ofAccess (access : UInt8) : Ring :=
  match (access.toNat / 32) % 4 with
  | 0 => ring0
  | 1 => ring1
  | 2 => ring2
  | _ => ring3

def name : Ring → String
  | ring0 => "Ring0"
  | ring1 => "Ring1"
  | ring2 => "Ring2"
  | ring3 => "Ring3"

end Ring

end BringUp
