import BringUp.Exception.Report
import BringUp.Proofs.Text.Delimited

/-!
# What a fatal report tells

A report is all that is left of a machine that has stopped. Read from the front, each of its
clauses shows where it ends, so two reports read the same only if they are the same. The clause
about a page fault tells in this way what the error code and the address said.
-/

namespace BringUp.Exception

set_option autoImplicit false

open Text (SelfDelimiting)

theorem Cause.selfDelimiting_text : SelfDelimiting Cause.text :=
  SelfDelimiting.of_apart fun first second => by cases first <;> cases second <;> decide

theorem Access.selfDelimiting_text : SelfDelimiting Access.text :=
  SelfDelimiting.of_apart fun first second => by cases first <;> cases second <;> decide

theorem Mode.selfDelimiting_text : SelfDelimiting Mode.text :=
  SelfDelimiting.of_apart fun first second => by cases first <;> cases second <;> decide

namespace PageFault

/-- The clauses at the end, each of them there or not. -/
def clauses (reservedBit fetch inWindow : Bool) : String :=
  (if reservedBit then ", reserved bit set" else "") ++
    ((if fetch then ", instruction fetch" else "") ++
      (if inWindow then "" else ", outside the identity-mapped window"))

theorem clauses_injective : ∀ reservedBit reservedBit' fetch fetch' inWindow inWindow' : Bool,
    clauses reservedBit fetch inWindow = clauses reservedBit' fetch' inWindow' →
      reservedBit = reservedBit' ∧ fetch = fetch' ∧ inWindow = inWindow' := by
  decide +kernel

theorem text_eq (fault : PageFault) :
    fault.text = fault.cause.text ++ (" on " ++ (fault.access.text ++ (" at " ++
      (Text.hexFilled 10 fault.address.toNat ++ (" in " ++ (fault.mode.text ++
        clauses fault.reservedBit fault.fetch fault.inWindow)))))) := by
  unfold text clauses
  simp only [String.append_assoc]

theorem text_injective {first second : PageFault} (h : first.text = second.text) :
    first = second := by
  rw [text_eq, text_eq] at h
  obtain ⟨hcause, h⟩ := Cause.selfDelimiting_text.read h
  obtain ⟨haccess, h⟩ := Access.selfDelimiting_text.read ((String.append_right_inj " on ").mp h)
  obtain ⟨haddress, h⟩ := Text.selfDelimiting_word.read ((String.append_right_inj " at ").mp h)
  obtain ⟨hmode, h⟩ := Mode.selfDelimiting_text.read ((String.append_right_inj " in ").mp h)
  obtain ⟨hreserved, hfetch, hwindow⟩ := clauses_injective _ _ _ _ _ _ h
  cases first
  cases second
  rw [mk.injEq]
  exact ⟨haddress, hcause, haccess, hmode, hreserved, hfetch, hwindow⟩

theorem eq_of_chosen_eq {α : Type} {set clear : α} {b b' : Bool}
    (h : (if b then set else clear) = if b' then set else clear) (hne : set ≠ clear) :
    b = b' := by
  cases b <;> cases b'
  · rfl
  · exact absurd h.symm hne
  · exact absurd h hne
  · rfl

/-- A decoded fault holds the address and the five low bits of the code, and nothing else. -/
theorem decode_eq_iff (code code' address address' : UInt32) :
    decode code address = decode code' address' ↔
      address = address' ∧ ∀ n < 5, bit code n = bit code' n := by
  constructor
  · intro h
    simp only [decode, mk.injEq] at h
    obtain ⟨haddress, hcause, haccess, hmode, hreserved, hfetch, -⟩ := h
    refine ⟨haddress, fun n hn => ?_⟩
    match n with
    | 0 => exact eq_of_chosen_eq hcause nofun
    | 1 => exact eq_of_chosen_eq haccess nofun
    | 2 => exact eq_of_chosen_eq hmode nofun
    | 3 => exact hreserved
    | 4 => exact hfetch
    | n + 5 => omega
  · rintro ⟨rfl, hbits⟩
    rw [decode, decode, hbits 0 (by decide), hbits 1 (by decide), hbits 2 (by decide),
      hbits 3 (by decide), hbits 4 (by decide)]

end PageFault

namespace Report

/-- A name that can stand ahead of the bracket with the vector. -/
abbrev OpenName : Type := { name : String // '(' ∉ name.toList }

theorem name_open {vector : UInt8} {name : String} (h : name? vector = some name) :
    '(' ∉ name.toList := by
  have hnames : ∀ name ∈ names, '(' ∉ name.toList := by decide
  exact hnames name (List.mem_of_getElem? h)

theorem selfDelimiting_name :
    SelfDelimiting fun name : OpenName => name.val ++ " (vector " := by
  refine SelfDelimiting.of_stop '(' ?_ (fun name => name.property) fun first second => Subtype.ext
  decide

theorem selfDelimiting_vector :
    SelfDelimiting fun vector : UInt8 => toString vector ++ ")" := by
  refine SelfDelimiting.of_stop ')' ?_ (fun vector => ?_) fun first second h => ?_
  · decide
  · exact Text.not_mem_toString (by decide) vector.toNat
  · exact UInt8.toNat_inj.mp (Text.toString_injective h)

theorem selfDelimiting_code :
    SelfDelimiting fun code : UInt32 => Text.hex code.toNat ++ " at " := by
  refine SelfDelimiting.of_stop ' ' ?_ (fun code => ?_) fun first second h => ?_
  · decide
  · exact Text.not_mem_hex (by decide) code.toNat
  · exact UInt32.toNat_inj.mp (Text.hex_injective h)

theorem selfDelimiting_selector :
    SelfDelimiting fun cs : UInt32 => Text.hexFilled 6 cs.toNat ++ ":" := by
  refine SelfDelimiting.of_stop ':' ?_ (fun cs => ?_) fun first second h => ?_
  · decide
  · exact Text.not_mem_hexFilled (by decide) 6 cs.toNat
  · exact UInt32.toNat_inj.mp (Text.hexFilled_injective h)

theorem errorCodeText_some (code : UInt32) (u : String) :
    errorCodeText (some code) ++ " at " ++ u =
      ", error code " ++ (Text.hex code.toNat ++ " at " ++ u) := by
  show ", error code " ++ Text.hex code.toNat ++ " at " ++ u = _
  rw [String.append_assoc, String.append_assoc, String.append_assoc]

theorem errorCode_apart (code : UInt32) (u v : String) :
    errorCodeText none ++ " at " ++ u ≠ errorCodeText (some code) ++ " at " ++ v := by
  rw [errorCodeText_some]
  exact Text.append_ne_append (c := ' ') rfl rfl (by decide) u _

theorem selfDelimiting_errorCode :
    SelfDelimiting fun code : Option UInt32 => errorCodeText code ++ " at " := by
  constructor
  intro code code' u v h
  cases code with
  | none =>
    cases code' with
    | none => exact ⟨rfl, (String.append_right_inj _).mp h⟩
    | some code' => exact absurd h (errorCode_apart code' u v)
  | some code =>
    cases code' with
    | none => exact absurd h.symm (errorCode_apart code v u)
    | some code' =>
      rw [errorCodeText_some, errorCodeText_some] at h
      obtain ⟨rfl, hrest⟩ := selfDelimiting_code.read ((String.append_right_inj _).mp h)
      exact ⟨rfl, hrest⟩

theorem pageFaultText_ne_empty (fault : PageFault) : pageFaultText (some fault) ≠ "" := by
  intro h
  have hlists : ("\n  page fault: " ++ fault.text).toList = [] := congrArg String.toList h
  rw [String.toList_append] at hlists
  exact absurd (List.append_eq_nil_iff.mp hlists).1 (by decide)

theorem pageFaultText_injective {fault fault' : Option PageFault}
    (h : pageFaultText fault = pageFaultText fault') : fault = fault' := by
  cases fault with
  | none =>
    cases fault' with
    | none => rfl
    | some fault' => exact absurd h.symm (pageFaultText_ne_empty fault')
  | some fault =>
    cases fault' with
    | none => exact absurd h (pageFaultText_ne_empty fault)
    | some fault' => rw [PageFault.text_injective ((String.append_right_inj _).mp h)]

/-- A report as pieces, each with the text that ends it. -/
theorem text_eq (report : Report) :
    report.text = "EXCEPTION: " ++ (report.name ++ " (vector " ++ (toString report.vector ++ ")" ++
      (errorCodeText report.errorCode ++ " at " ++ (Text.hexFilled 6 report.cs.toNat ++ ":" ++
        (Text.hexFilled 10 report.eip.toNat ++ (", eflags " ++
          (Text.hexFilled 10 report.eflags.toNat ++ pageFaultText report.pageFault))))))) := by
  unfold text
  simp only [String.append_assoc]

/-- Reports whose names leave the bracket behind them readable are the same if they read the
same. -/
theorem text_injective {first second : Report} (hfirst : '(' ∉ first.name.toList)
    (hsecond : '(' ∉ second.name.toList) (h : first.text = second.text) : first = second := by
  rw [text_eq, text_eq] at h
  obtain ⟨hname, h⟩ := selfDelimiting_name.read (a := ⟨first.name, hfirst⟩)
    (b := ⟨second.name, hsecond⟩) ((String.append_right_inj "EXCEPTION: ").mp h)
  obtain ⟨hvector, h⟩ := selfDelimiting_vector.read h
  obtain ⟨hcode, h⟩ := selfDelimiting_errorCode.read h
  obtain ⟨hcs, h⟩ := selfDelimiting_selector.read h
  obtain ⟨heip, h⟩ := Text.selfDelimiting_word.read h
  obtain ⟨heflags, h⟩ := Text.selfDelimiting_word.read ((String.append_right_inj ", eflags ").mp h)
  have hfault := pageFaultText_injective h
  cases first
  cases second
  rw [mk.injEq]
  exact ⟨hvector, Subtype.mk.inj hname, hcode, hfault, heip, hcs, heflags⟩

/-- What the frames and fault addresses behind two reports share if the reports are the same. -/
structure Alike (frame frame' : Frame) (address address' : UInt32) : Prop where
  vector : frame.vectorByte = frame'.vectorByte
  /-- Where the processor supplies no error code, the word in its place does not count. -/
  errorCode : pushesErrorCode frame.vectorByte = true → frame.errorCode = frame'.errorCode
  pageFault : frame.vectorByte = Gate.pageFaultVector →
    PageFault.decode frame.errorCode address = PageFault.decode frame'.errorCode address'
  eip : frame.eip = frame'.eip
  cs : frame.cs = frame'.cs
  eflags : frame.eflags = frame'.eflags

section Classified

variable {frame frame' : Frame} {address address' : UInt32} {report report' : Report}

theorem text_eq_iff (h : classify frame address = some report)
    (h' : classify frame' address' = some report') :
    report.text = report'.text ↔ report = report' := by
  obtain ⟨name, hname, rfl⟩ := Option.map_eq_some_iff.mp h
  obtain ⟨name', hname', rfl⟩ := Option.map_eq_some_iff.mp h'
  exact ⟨text_injective (name_open hname) (name_open hname'), congrArg text⟩

theorem eq_iff_alike (h : classify frame address = some report)
    (h' : classify frame' address' = some report') :
    report = report' ↔ Alike frame frame' address address' := by
  obtain ⟨name, hname, rfl⟩ := Option.map_eq_some_iff.mp h
  obtain ⟨name', hname', rfl⟩ := Option.map_eq_some_iff.mp h'
  constructor
  · intro hsame
    rw [mk.injEq] at hsame
    obtain ⟨hvector, -, hcode, hfault, heip, hcs, heflags⟩ := hsame
    rw [← hvector] at hcode hfault
    constructor
    case vector => exact hvector
    case errorCode =>
      intro hpushes
      rw [if_pos hpushes, if_pos hpushes] at hcode
      exact Option.some.inj hcode
    case pageFault =>
      intro hpage
      rw [if_pos hpage, if_pos hpage] at hfault
      exact Option.some.inj hfault
    case eip => exact heip
    case cs => exact hcs
    case eflags => exact heflags
  · intro halike
    have hnames : name = name' := by
      rw [halike.vector, hname'] at hname
      exact (Option.some.inj hname).symm
    have hcode : (if pushesErrorCode frame.vectorByte then some frame.errorCode else none) =
        if pushesErrorCode frame.vectorByte then some frame'.errorCode else none := by
      split
      case isTrue hpushes => rw [halike.errorCode hpushes]
      case isFalse => rfl
    have hfault : (if frame.vectorByte = Gate.pageFaultVector then
          some (PageFault.decode frame.errorCode address) else none) =
        if frame.vectorByte = Gate.pageFaultVector then
          some (PageFault.decode frame'.errorCode address') else none := by
      split
      case isTrue hpage => rw [halike.pageFault hpage]
      case isFalse => rfl
    rw [hcode, hfault, hnames, halike.vector, halike.eip, halike.cs, halike.eflags]

end Classified

end Report

/-- Two exceptions are reported in the same words only if all that their reports hold is the same,
and two page faults read the same only if their addresses and the five low bits of their error
codes agree. -/
theorem reports_unambiguous :
    (∀ (frame frame' : Frame) (address address' : UInt32),
      frame.vectorByte < 32 → frame'.vectorByte < 32 →
      ∃ report report', Report.classify frame address = some report ∧
        Report.classify frame' address' = some report' ∧
        (report.text = report'.text ↔ report = report') ∧
        (report = report' ↔ Report.Alike frame frame' address address')) ∧
    ∀ code code' address address' : UInt32,
      (PageFault.decode code address).text = (PageFault.decode code' address').text ↔
        address = address' ∧ ∀ n < 5, code.toNat.testBit n = code'.toNat.testBit n := by
  constructor
  · intro frame frame' address address' hframe hframe'
    obtain ⟨report, h⟩ := Report.classify_eq_some hframe address
    obtain ⟨report', h'⟩ := Report.classify_eq_some hframe' address'
    exact ⟨report, report', h, h', Report.text_eq_iff h h', Report.eq_iff_alike h h'⟩
  · intro code code' address address'
    exact Iff.trans ⟨PageFault.text_injective, congrArg PageFault.text⟩
      (PageFault.decode_eq_iff code code' address address')

/-- Two of the eight vectors that share a name, with a selector too wide for its place, still read
differently, and so do two page faults whose error codes differ in a bit that no clause names. -/
theorem reserved_vectors_told :
    let wide (vector : UInt8) : Frame := { Frame.ofVector vector with cs := 0x12345678 }
    let fault (code : UInt32) : Frame := (Frame.ofVector 14).withErrorCode code
    (∃ report report', Report.classify (wide 15) 0 = some report ∧
      Report.classify (wide 31) 0 = some report' ∧ report.name = report'.name ∧
      report.text ≠ report'.text) ∧
    ∃ report report', Report.classify (fault 0x02) 0x400000 = some report ∧
      Report.classify (fault 0x22) 0x400000 = some report' ∧
      report.pageFault = report'.pageFault ∧ report.text ≠ report'.text := by
  intro wide fault
  obtain ⟨hreports, -⟩ := reports_unambiguous
  constructor
  · obtain ⟨report, report', h, h', htext, halike⟩ :=
      hreports (wide 15) (wide 31) 0 0 (by decide) (by decide)
    refine ⟨report, report', h, h', ?_, fun hsame => ?_⟩
    · cases h
      cases h'
      rfl
    · exact absurd (halike.mp (htext.mp hsame)).vector (by decide)
  · obtain ⟨report, report', h, h', htext, halike⟩ :=
      hreports (fault 0x02) (fault 0x22) 0x400000 0x400000 (by decide) (by decide)
    refine ⟨report, report', h, h', ?_, fun hsame => ?_⟩
    · cases h
      cases h'
      show some (PageFault.decode 0x02 0x400000) = some (PageFault.decode 0x22 0x400000)
      decide
    · exact absurd ((halike.mp (htext.mp hsame)).errorCode (by decide)) (by decide)

end BringUp.Exception
