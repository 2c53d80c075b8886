import BringUp.Boot.Context
import BringUp.Boot.Header
import BringUp.Boot.LinkArguments
import BringUp.Boot.Sequence
import BringUp.Boot.Stage
import BringUp.Code
import BringUp.Console
import BringUp.Console.Level
import BringUp.Console.Message
import BringUp.Console.Relay
import BringUp.Console.Sink
import BringUp.Console.Uart
import BringUp.Controller.Bus
import BringUp.Controller.Chip
import BringUp.Controller.Pair
import BringUp.Cpu
import BringUp.Exception.Name
import BringUp.Exception.PageFault
import BringUp.Exception.Report
import BringUp.Fault
import BringUp.Frame
import BringUp.Gate.Descriptor
import BringUp.Gate.Table
import BringUp.Kernel
import BringUp.Kernel.Dispatch
import BringUp.Kernel.HandlerTable
import BringUp.Kernel.Interrupts
import BringUp.Kernel.Probe
import BringUp.Kernel.Timer
import BringUp.LittleEndian
import BringUp.Machine.Bench
import BringUp.Machine.Processor
import BringUp.Machine.System
import BringUp.Machine.Tracked
import BringUp.Paging.Entry
import BringUp.Paging.Flags
import BringUp.Paging.Identity
import BringUp.Paging.Table
import BringUp.Ports
import BringUp.Segment.Descriptor
import BringUp.Segment.Table
import BringUp.TablePointer
import BringUp.Text.Capped
import BringUp.Text.Hexadecimal
import BringUp.Text.Outline
import BringUp.Text.Utf8
import BringUp.Proofs.Console.Logging
import BringUp.Proofs.Controller.Acknowledgement
import BringUp.Proofs.Kernel.Registration
import BringUp.Proofs.Kernel.Routing
import BringUp.Proofs.Kernel.Delivery
import BringUp.Proofs.Code.Guarantee
import BringUp.Proofs.Kernel.Acknowledgement
import BringUp.Proofs.Kernel.Steady
import BringUp.Proofs.Kernel.Discipline
import BringUp.Proofs.Kernel.Interleaving
import BringUp.Proofs.Boot.Calls
import BringUp.Proofs.Paging.Window
import BringUp.Proofs.Boot.Order
import BringUp.Proofs.Boot.Stages
import BringUp.Proofs.Exception.Texts
import BringUp.Proofs.Kernel.Fatal
import BringUp.Proofs.Kernel.HandlerTable
import BringUp.Proofs.Kernel.History
import BringUp.Proofs.Kernel.Blind
import BringUp.Proofs.Kernel.Entries
import BringUp.Proofs.Paging.Filling
import BringUp.Proofs.Paging.Relocation
import BringUp.Proofs.Controller.Lines
import BringUp.Proofs.Controller.Operations
import BringUp.Proofs.Console.Nesting
import BringUp.Proofs.Gate.Rebuild
import BringUp.Proofs.Machine.Memory
import BringUp.Proofs.Gate.Lookup
import BringUp.Proofs.Boot.Resolution
import BringUp.Proofs.Controller.Vectors
import BringUp.Proofs.Code.Simulation
import BringUp.Proofs.Machine.Alike
import BringUp.Proofs.Machine.Processor
import BringUp.Proofs.Machine.Wired
import BringUp.Proofs.Boot.Alike
import BringUp.Proofs.Boot.Backends
import BringUp.Proofs.Kernel.Guarded
import BringUp.Proofs.Kernel.Ticking
import BringUp.Proofs.Boot.Ticking
import BringUp.Proofs.Exception.Unambiguous
import BringUp.Proofs.Paging.Retained
import BringUp.Proofs.Segment.Entries
import BringUp.Proofs.Console.Relaying
import BringUp.Proofs.Code.Passage
import BringUp.Proofs.Kernel.Sparing
import BringUp.Proofs.Paging.Edits
import BringUp.Proofs.Kernel.Masking
