/-!
# Outlines of structured values

A register snapshot, a table entry or a whole controller is shown as an outline: a name and its
labelled parts. The same outline is laid out either on one line or with one part per line, each
level four columns further in and each part closed by a comma.
-/

namespace BringUp.Text

set_option autoImplicit false

/-- What stands around the parts of a group. `pad` separates the brackets from the parts when
the group is on one line. -/
structure Brackets where
  opening : String
  closing : String
  pad : String

/-- A value as text, as a labelled part, or as a group of parts. -/
inductive Outline where
  | text (shown : String)
  | part (label : String) (value : Outline)
  | group (brackets : Brackets) (parts : List Outline)

namespace Outline

def number (n : Nat) : Outline := text (toString n)

def flag (b : Bool) : Outline := text (toString b)

def record (name : String) (parts : List Outline) : Outline :=
  group ⟨name ++ " \x7b", "\x7d", " "⟩ parts

def wrapped (name : String) (parts : List Outline) : Outline :=
  group ⟨name ++ "(", ")", ""⟩ parts

def sequence (parts : List Outline) : Outline :=
  group ⟨"[", "]", ""⟩ parts

mutual

/-- The outline on one line. -/
def line : Outline → String
  | text shown => shown
  | part label value => label ++ ": " ++ value.line
  | group brackets [] => brackets.opening ++ brackets.closing
  | group brackets (first :: rest) =>
      brackets.opening ++ brackets.pad ++ first.line ++ lineRest rest ++ brackets.pad ++
        brackets.closing

def lineRest : List Outline → String
  | [] => ""
  | first :: rest => ", " ++ first.line ++ lineRest rest

end

mutual

/-- The outline with one part per line, its inner lines starting with `margin`. -/
def block (margin : String) : Outline → String
  | text shown => shown
  | part label value => label ++ ": " ++ value.block margin
  | group brackets [] => brackets.opening ++ brackets.closing
  | group brackets (first :: rest) =>
      brackets.opening ++ "\n" ++ margin ++ "    " ++ first.block (margin ++ "    ") ++ ",\n" ++
        blockRest (margin ++ "    ") rest ++ margin ++ brackets.closing

def blockRest (margin : String) : List Outline → String
  | [] => ""
  | first :: rest => margin ++ first.block margin ++ ",\n" ++ blockRest margin rest

end

/-- The outline over several lines, starting at the left edge. -/
def lines (o : Outline) : String := o.block ""

end Outline

end BringUp.Text
