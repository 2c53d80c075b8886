import BringUp.Controller.Bus
import BringUp.Machine.Tracked

/-!
# The test bench

A bench joins the controller bus with a processor that keeps track. The two do not see each
other.
-/

namespace BringUp

set_option autoImplicit false

structure Bench where
  bus : Controller.Bus
  cpu : TrackedCpu

namespace Bench

def reset : Bench := ⟨.reset, .reset⟩

instance : PortSpace Bench := .ofPart bus fun bus bench => { bench with bus }

instance : Cpu Bench := .ofPart cpu fun cpu bench => { bench with cpu }

end Bench

end BringUp
