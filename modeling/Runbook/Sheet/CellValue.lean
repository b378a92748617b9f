import Runbook.Json.Value
/-!
# Cell values

What a spreadsheet cell receives from a JSON value: `null` empties it, a boolean and a
number (as a float) are stored as such, a string as text, and a list or an object as the
text of its compact JSON.
-/

namespace Runbook.Sheet

open Json

/-- The content written into a cell. -/
inductive CellValue where
  | empty
  | bool (b : Bool)
  | number (x : Float)
  | text (s : String)

/-- The cell value of a JSON value. -/
def CellValue.ofValue : Value → CellValue
  | .null => .empty
  | .bool b => .bool b
  | .number n => .number n.toFloat
  | .string s => .text s
  | v => .text v.render

/-- A cell value as an object with its kind and value. -/
def CellValue.toValue : CellValue → Value
  | .empty => .object [("kind", .string "empty")]
  | .bool b => .object [("kind", .string "bool"), ("value", .bool b)]
  | .number x => .object [("kind", .string "number"), ("value", .number (.float x))]
  | .text s => .object [("kind", .string "text"), ("value", .string s)]

end Runbook.Sheet
