import Runbook.Json.Value
import Runbook.Number.Numeral
import Runbook.Text.Blank
import Runbook.Text.Printable
/-!
# Lenient parameter values

Step parameters are read leniently. An integer parameter takes integers, floats (truncated
toward zero and clamped to the 64-bit range) and numeric strings (trimmed; an integer
numeral first, a decimal numeral next), and `null` or a blank string for none. A text
parameter takes strings, and numbers and booleans in their JSON text. Other values are
refused with the wording of the decoder: `invalid type: <what was found>, expected <what
was wanted>`, where the found value is named `null`, ``boolean `true` ``, ``integer `5` ``,
``floating point `1.5` ``, `string "..."`, `sequence` or `map`.
-/

namespace Runbook.Params

open Json

/-- How the decoder names a value it did not expect. -/
def unexpected : Value → String
  | .null => "null"
  | .bool b => "boolean `" ++ (if b then "true" else "false") ++ "`"
  | .number (.unsigned n) => "integer `" ++ toString n ++ "`"
  | .number (.negative n) => "integer `" ++ toString n ++ "`"
  | .number (.float x) => "floating point `" ++ Shortest.display x ++ "`"
  | .string s => "string " ++ Text.debugQuote s
  | .array _ => "sequence"
  | .object _ => "map"

/-- `invalid type: <found>, expected <wanted>`. -/
def invalidType (v : Value) (expected : String) : String :=
  "invalid type: " ++ unexpected v ++ ", expected " ++ expected

/-- What an integer parameter accepts, as its errors say. -/
def integerExpected : String := "an integer, a number, or a numeric string"

/-- A finite float truncated toward zero and clamped to the 64-bit range; an infinite or
NaN value is refused. -/
def ofFloat (x : Float) : Except String Int :=
  match (Binary64.ofFloat x).truncate with
  | some n => .ok (saturate64 n)
  | none => .error (Shortest.display x ++ " is not a finite number")

/-- An integer parameter. -/
def lenientInt : Value → Except String (Option Int)
  | .null => .ok none
  | .number (.unsigned n) => .ok (some (min n Int64.maxValue))
  | .number (.negative n) => .ok (some n)
  | .number (.float x) => some <$> ofFloat x
  | .string s =>
    let t := Text.trim s
    if t.isEmpty then .ok none
    else match Numeral.readI64? t with
      | some n => .ok (some n)
      | none => match Numeral.readFloat? t with
        | some x => some <$> ofFloat x
        | none => .error ("'" ++ s ++ "' is not a number")
  | v => .error (invalidType v integerExpected)

/-- A text parameter. -/
def lenientString : Value → Except String (Option String)
  | .null => .ok none
  | .string s => .ok (some s)
  | .number n => .ok (some n.render)
  | .bool b => .ok (some (if b then "true" else "false"))
  | v => .error ("expected a scalar value, found " ++ v.render)

/-- Zero for a negative or missing count, else the count. -/
def nonNegative : Option Int → Nat
  | some n => n.toNat
  | none => 0

/-- Whether an optional text is missing or blank. -/
def isBlankOpt : Option String → Bool
  | some s => Text.isBlankText s
  | none => true

/-- An optional text that is present and not blank. -/
def nonBlank : Option String → Option String
  | some s => if Text.isBlankText s then none else some s
  | none => none

/-- A map of texts: an object whose values are all strings; `null` for none. -/
def textMap : Value → Except String (Option (List (String × String)))
  | .null => .ok none
  | .object fields =>
    some <$> fields.mapM fun (k, v) =>
      match v with
      | .string s => .ok (k, s)
      | other => .error (invalidType other "a string")
  | v => .error (invalidType v "a map")

end Runbook.Params
