import BringUp.Kernel

/-!
# The timer

The timer sits on controller line 0. Each of its interrupts advances the tick counter, which
starts over after 2^64 ticks.
-/

namespace BringUp.Timer

set_option autoImplicit false

def line : UInt8 := 0

def tick {M H E : Type} : Action (Kernel M H E) Unit :=
  modify fun kernel => { kernel with ticks := kernel.ticks + 1 }

end BringUp.Timer
