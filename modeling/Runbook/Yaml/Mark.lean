/-!
# Places in a YAML text, and why a text cannot be read

A place counts the bytes of the text's UTF-8 encoding before it, and lines and columns
(in characters) from zero; a carriage return and line feed pair is one line break. Messages show
lines and columns counted from one.

A reading error is a problem at a place, found either on its own or while reading a
larger construct that began at another place; a character that no YAML text may hold;
an alias of an anchor that was never set; or the end of the events where a value should
have been.
-/

namespace Runbook.Yaml

/-- A place in a text: the bytes before it, and its line and column, counted from zero. -/
structure Mark where
  index : Nat
  line : Nat
  column : Nat
  deriving Repr, DecidableEq, Inhabited

/-- The start of a text. -/
def Mark.start : Mark := ⟨0, 0, 0⟩

/-- A place as messages show it, counting lines and columns from one. -/
def Mark.render (m : Mark) : String :=
  "line " ++ toString (m.line + 1) ++ " column " ++ toString (m.column + 1)

/-- Whether a place is on the first line at the first column, which messages leave
unsaid. -/
def Mark.isStart (m : Mark) : Bool := m.line == 0 && m.column == 0

/-- Whether two places are on the same line at the same column. -/
def Mark.samePlace (a b : Mark) : Bool := a.line == b.line && a.column == b.column

/-- Why a text cannot be read as YAML. -/
inductive ReadError where
  /-- A problem at a place, found while reading a construct that began at another. -/
  | malformed (problem : String) (mark : Mark) (context : Option (String × Mark))
  /-- A character that no YAML text may hold, at this many bytes into the text. -/
  | forbidden (offset : Nat)
  /-- An alias of an anchor that no node before it set. -/
  | unknownAnchor (mark : Mark)
  /-- The events ended where a value should have been. -/
  | endOfStream
  deriving Repr

/-- The wording of a reading error. The place of the problem is left out on the first line
at the first column, and the place of the construct there or when it is the problem's own
place. -/
def ReadError.message : ReadError → String
  | .malformed problem mark context =>
    let place := if mark.isStart then "" else " at " ++ mark.render
    let within := match context with
      | none => ""
      | some (what, m) =>
        ", " ++ what ++ (if m.isStart || m.samePlace mark then "" else " at " ++ m.render)
    problem ++ place ++ within
  | .forbidden offset =>
    "control characters are not allowed" ++
      (if offset == 0 then "" else " at position " ++ toString offset)
  | .unknownAnchor mark => "unknown anchor" ++ (if mark.isStart then "" else " at " ++ mark.render)
  | .endOfStream => "EOF while parsing a value"

end Runbook.Yaml
