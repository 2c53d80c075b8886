import BringUp.Proofs.Boot.Calls
import BringUp.Proofs.Gate.Lookup
import BringUp.Proofs.Gate.Rebuild

/-!
# Where the vectors lead

Once both tables are live, a vector that arrives takes the processor through two lookups in memory
to the code that starts at its entry point, or to eight zero bytes if there is none. What the
tables held before does not matter, and a gate that is written later is the only one to change.
-/

namespace BringUp.Boot

set_option autoImplicit false

/-- An interrupt gate to an entry point, in a ring 0 code segment over the whole address space. -/
def interruptTo (entry : UInt32) : Resolution where
  gate :=
    { present := true, ring := .ring0, kind := 0x0E, zero := 0, selector := 0x08, target := entry }
  segment := some
    { present := true, ring := .ring0, executable := true, base := 0, limit := 0xFFFFF,
      inPages := true }

/-- What a processor finds in a memory that holds both tables. -/
structure Leads (entries : Gate.EntryPoints) (segments : Segment.Table) (gates : Gate.Table)
    (segmentsAddress gatesAddress : UInt32) (cpu : TrackedCpu) (memory : Memory) : Prop where
  /-- A vector with an entry point leads to it. -/
  entered : ∀ (vector : UInt8) (h : vector.toNat < 48),
    cpu.resolve memory vector = some (interruptTo entries[vector.toNat])
  missing : ∀ vector : UInt8, 48 ≤ vector.toNat →
    cpu.gateBytes memory vector = some (List.replicate 8 0)
  /-- Two vectors lead to the same code only if they have the same entry point. -/
  repeated : ∀ first second : UInt8, first.toNat < 48 → second.toNat < 48 → first ≠ second →
    ∀ target, (cpu.resolve memory first).map (·.gate.target) = some target →
      (cpu.resolve memory second).map (·.gate.target) = some target →
      ∃ i j : Fin 48, i ≠ j ∧ entries.get i = target ∧ entries.get j = target
  /-- A gate that is written later is found for its own vector only. -/
  kept : ∀ (changed : UInt8) (gate : Gate.Descriptor) (later : Memory),
    later.Holds segmentsAddress segments.bytes →
    later.Holds gatesAddress (gates.set changed gate).bytes →
    ∀ vector, vector ≠ changed →
      cpu.gateBytes later vector = cpu.gateBytes memory vector ∧
      cpu.resolve later vector = cpu.resolve memory vector

theorem view_flat (entry : UInt32) (flags : UInt8) :
    Segment.Table.flat.entries[(Gate.Descriptor.pack entry Segment.codeSelector flags).selector.toNat
      / 8]?.map Segment.Descriptor.view =
      some ⟨true, .ring0, true, 0, 0xFFFFF, true⟩ := by
  show Segment.Table.flat.entries[Segment.codeSelector.toNat / 8]?.map Segment.Descriptor.view = _
  decide

section Live

variable {memory : Memory} {cpu : TrackedCpu} {segmentsAddress gatesAddress : UInt32}

theorem lookup_set {later : Memory} {segments : Segment.Table} {gates : Gate.Table}
    {changed vector : UInt8} {gate : Gate.Descriptor}
    (hgdtr : cpu.gdtr = some (Segment.Table.pointer segmentsAddress))
    (hidtr : cpu.idtr = some (Gate.Table.pointer gatesAddress))
    (hsegments : memory.Holds segmentsAddress segments.bytes)
    (hgates : memory.Holds gatesAddress gates.bytes)
    (hsegments' : later.Holds segmentsAddress segments.bytes)
    (hgates' : later.Holds gatesAddress (gates.set changed gate).bytes) (hother : vector ≠ changed) :
    cpu.gateBytes later vector = cpu.gateBytes memory vector ∧
      cpu.resolve later vector = cpu.resolve memory vector := by
  have hgate : (gates.set changed gate).gate vector = gates.gate vector := by
    rw [Gate.Table.gate_set, if_neg hother]
  rw [TrackedCpu.gateBytes_eq hidtr hgates', TrackedCpu.gateBytes_eq hidtr hgates,
    TrackedCpu.resolve_eq hgdtr hidtr hsegments' hgates',
    TrackedCpu.resolve_eq hgdtr hidtr hsegments hgates, hgate]
  exact ⟨rfl, rfl⟩

theorem leads_ofEntryPoints (entries : Gate.EntryPoints)
    (hgdtr : cpu.gdtr = some (Segment.Table.pointer segmentsAddress))
    (hidtr : cpu.idtr = some (Gate.Table.pointer gatesAddress))
    (hsegments : memory.Holds segmentsAddress Segment.Table.flat.bytes)
    (hgates : memory.Holds gatesAddress (Gate.Table.ofEntryPoints entries).bytes) :
    Leads entries .flat (.ofEntryPoints entries) segmentsAddress gatesAddress cpu memory := by
  have hentered (vector : UInt8) (h : vector.toNat < 48) :
      cpu.resolve memory vector = some (interruptTo entries[vector.toNat]) := by
    rw [TrackedCpu.resolve_eq hgdtr hidtr hsegments hgates, Gate.Table.ofEntryPoints_gate,
      dif_pos h, view_flat, Gate.Descriptor.view_interrupt]
    rfl
  constructor
  case entered => exact hentered
  case missing =>
    intro vector h
    rw [TrackedCpu.gateBytes_eq hidtr hgates, Gate.Table.ofEntryPoints_gate,
      dif_neg (Nat.not_lt.mpr h)]
    rfl
  case repeated =>
    intro first second hfirst hsecond hapart target hto hto'
    rw [hentered first hfirst] at hto
    rw [hentered second hsecond] at hto'
    refine ⟨⟨first.toNat, hfirst⟩, ⟨second.toNat, hsecond⟩, ?_, Option.some.inj hto,
      Option.some.inj hto'⟩
    intro hsame
    have hnat : first.toNat = second.toNat := Fin.mk.inj hsame
    exact hapart (UInt8.toNat_inj.mp hnat)
  case kept =>
    intro changed gate later hsegments' hgates' vector hother
    exact lookup_set hgdtr hidtr hsegments hgates hsegments' hgates' hother

end Live

/-- Makes first the segments and then the gates live, over whatever both tables hold. -/
def installTables (entries : Gate.EntryPoints) (segmentsAddress gatesAddress : UInt32) :
    Action (System (Board Bench)) Unit := do
  Segment.Table.install segmentsAddress
  Gate.Table.install entries gatesAddress

/-- The bench whose processor was told of both tables. -/
def toldOf (segmentsAddress gatesAddress : UInt32) (bench : Bench) : Bench :=
  Cpu.loadIdt (Gate.Table.pointer gatesAddress)
    (Cpu.reloadSegments Segment.codeSelector Segment.dataSelector
      (Cpu.loadGdt (Segment.Table.pointer segmentsAddress) bench))

theorem installTables_free {s : System (Board Bench)} (hfree : s.console.Free)
    (entries : Gate.EntryPoints) (segmentsAddress gatesAddress : UInt32) :
    ∃ console, installTables entries segmentsAddress gatesAddress s =
      .ok () ⟨⟨{ s.machine.context with segments := .flat, gates := .ofEntryPoints entries },
        toldOf segmentsAddress gatesAddress s.machine.machine⟩, console⟩ := by
  obtain ⟨console, hconsole, hsegments⟩ := install_segments_free hfree segmentsAddress
  obtain ⟨console', -, hgates⟩ := install_gates_free
    (s := ⟨⟨{ s.machine.context with segments := .flat },
      Cpu.reloadSegments Segment.codeSelector Segment.dataSelector
        (Cpu.loadGdt (Segment.Table.pointer segmentsAddress) s.machine.machine)⟩, console⟩)
    hconsole entries gatesAddress
  refine ⟨console', ?_⟩
  rw [installTables, Action.bind_ok hsegments]
  exact hgates

/-- For any entry points and addresses, and whatever the tables held before: once both are live,
every vector with an entry point leads to it through a ring 0 interrupt gate in flat code, all
others lead to nothing, and 48 gates are present. -/
theorem vectors_lead (entries : Gate.EntryPoints) (segmentsAddress gatesAddress : UInt32)
    {s : System (Board Bench)} (hfree : s.console.Free) :
    ∃ s', installTables entries segmentsAddress gatesAddress s = .ok () s' ∧
      s'.machine.machine.cpu.gdtr = some ⟨23, segmentsAddress⟩ ∧
      s'.machine.machine.cpu.idtr = some ⟨2047, gatesAddress⟩ ∧
      s'.machine.context.gates.presentCount = 48 ∧
      ∀ memory : Memory, memory.Holds segmentsAddress s'.machine.context.segments.bytes →
        memory.Holds gatesAddress s'.machine.context.gates.bytes →
        Leads entries s'.machine.context.segments s'.machine.context.gates segmentsAddress
          gatesAddress s'.machine.machine.cpu memory := by
  obtain ⟨console, hrun⟩ := installTables_free hfree entries segmentsAddress gatesAddress
  have hgdtr : (toldOf segmentsAddress gatesAddress s.machine.machine).cpu.gdtr =
      some (Segment.Table.pointer segmentsAddress) := rfl
  have hidtr : (toldOf segmentsAddress gatesAddress s.machine.machine).cpu.idtr =
      some (Gate.Table.pointer gatesAddress) := rfl
  refine ⟨_, hrun, hgdtr, hidtr, Gate.Table.presentCount_ofEntryPoints entries,
    fun memory hsegments hgates => ?_⟩
  exact leads_ofEntryPoints entries hgdtr hidtr hsegments hgates

/-- A context in which a gate for vector 200 was left over from before. -/
def stale : Context :=
  { Context.fresh (.numbered 256) with
    gates := Gate.Table.empty.set 200 (.pack 0x1234 Segment.dataSelector 0x8F) }

/-- The segments lie across the end of the address space, with the gates behind them. -/
theorem wrapped_vectors_lead :
    ∃ (s' : System (Board Bench)) (memory : Memory),
      installTables .bench 0xFFFFFFF0 8 ⟨⟨stale, .reset⟩, .ready⟩ = .ok () s' ∧
      memory.Holds 0xFFFFFFF0 s'.machine.context.segments.bytes ∧
      memory.Holds 8 s'.machine.context.gates.bytes ∧
      s'.machine.machine.cpu.resolve memory 33 = some (interruptTo 0x00100210) ∧
      s'.machine.machine.cpu.gateBytes memory 200 = some [0, 0, 0, 0, 0, 0, 0, 0] := by
  obtain ⟨s', hrun, -, -, -, hlookup⟩ := vectors_lead .bench 0xFFFFFFF0 8
    (s := ⟨⟨stale, .reset⟩, .ready⟩) Console.free_ready
  obtain ⟨memory, hsegments, hgates⟩ :=
    exists_memory s'.machine.context.segments s'.machine.context.gates 0xFFFFFFF0
  have hleads := hlookup memory hsegments hgates
  exact ⟨s', memory, hrun, hsegments, hgates, hleads.entered 33 (by decide),
    hleads.missing 200 (by decide)⟩

end BringUp.Boot
