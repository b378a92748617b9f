import Runbook.Number.Shortest
/-!
# JSON values

A JSON value with numbers in three classes (unsigned and negative 64-bit integers and
binary64 floats) and objects kept as field lists sorted by key with each key once, so that
an object is a map: inserting a key that is present replaces its value.

The module also writes values: compactly (no blanks) and in the indented form (two spaces
per level, `"key": value`). Strings escape the quote, the backslash and control
characters; every other character is written as itself.
-/

namespace Runbook.Json

/-- A JSON number as it was read: a non-negative integer below `2 ^ 64`, a negative
integer not below `-2 ^ 63`, or any other number as a binary64 float. -/
inductive Number where
  | unsigned (n : Nat)
  | negative (n : Int)
  | float (x : Float)

/-- A JSON value; object fields are sorted by key and keys are distinct. -/
inductive Value where
  | null
  | bool (b : Bool)
  | number (n : Number)
  | string (s : String)
  | array (items : List Value)
  | object (fields : List (String × Value))

instance : Inhabited Value := ⟨.null⟩

namespace Number

/-- The number as a float: integers round to the nearest binary64 value. -/
def toFloat : Number → Float
  | .unsigned n => Binary64.ofNat n
  | .negative n => Binary64.ofInt n
  | .float x => x

/-- Integers in decimal; floats in their shortest text, and `null` when not finite. -/
def render : Number → String
  | .unsigned n => toString n
  | .negative n => toString n
  | .float x => (Shortest.finiteText Shortest.Notation.json x).getD "null"

end Number

/-- Inserts a field into a key-sorted list, replacing the value of an equal key. -/
def insertField (key : String) (v : Value) : List (String × Value) → List (String × Value)
  | [] => [(key, v)]
  | (k, w) :: rest =>
    if key < k then (key, v) :: (k, w) :: rest
    else if key = k then (key, v) :: rest
    else (k, w) :: insertField key v rest

/-- Builds an object from fields in any order; a later field replaces an earlier one with
the same key. -/
def Value.ofFields (fields : List (String × Value)) : Value :=
  .object (fields.foldl (fun acc (k, v) => insertField k v acc) [])

/-- The value stored under a key of an object. -/
def Value.field? (v : Value) (key : String) : Option Value :=
  match v with
  | .object fields => fields.lookup key
  | _ => none

/-- A value found under a key is smaller than the fields that hold it. -/
theorem sizeOf_lt_of_lookup {fields : List (String × Value)} {k : String} {v : Value}
    (h : fields.lookup k = some v) : sizeOf v < sizeOf fields := by
  induction fields with
  | nil => simp at h
  | cons kv rest ih =>
    obtain ⟨k', v'⟩ := kv
    rw [List.lookup_cons] at h
    split at h
    · cases h; simp; omega
    · have := ih h; simp; omega

/-- The noun phrase for the kind of a value, as loading errors word it. -/
def Value.kindPhrase : Value → String
  | .null => "null"
  | .bool _ => "a boolean"
  | .number _ => "a number"
  | .string _ => "a string"
  | .array _ => "a list"
  | .object _ => "an object"

/-- Lower-case hexadecimal digit. -/
def hexDigit (n : Nat) : Char :=
  if n < 10 then Char.ofNat (48 + n) else Char.ofNat (87 + n)

/-- The escaped form of one character inside a string literal. -/
def escapeChar (c : Char) : List Char :=
  if c = '"' then ['\\', '"']
  else if c = '\\' then ['\\', '\\']
  else if c = '\n' then ['\\', 'n']
  else if c = '\r' then ['\\', 'r']
  else if c = '\t' then ['\\', 't']
  else if c.toNat = 8 then ['\\', 'b']
  else if c.toNat = 12 then ['\\', 'f']
  else if c.toNat < 32 then
    ['\\', 'u', '0', '0', hexDigit (c.toNat / 16), hexDigit (c.toNat % 16)]
  else [c]

/-- A string literal: the text between quotes with `escapeChar` applied. -/
def quote (s : String) : String :=
  String.ofList ('"' :: (s.toList.flatMap escapeChar ++ ['"']))

mutual

/-- The compact text of a value. -/
def Value.render : Value → String
  | .null => "null"
  | .bool b => if b then "true" else "false"
  | .number n => n.render
  | .string s => quote s
  | .array items => "[" ++ renderItems items ++ "]"
  | .object fields => "\x7b" ++ renderFields fields ++ "\x7d"

/-- Compact array items separated by commas. -/
def renderItems : List Value → String
  | [] => ""
  | [v] => v.render
  | v :: rest => v.render ++ "," ++ renderItems rest

/-- Compact object fields separated by commas. -/
def renderFields : List (String × Value) → String
  | [] => ""
  | [(k, v)] => quote k ++ ":" ++ v.render
  | (k, v) :: rest => quote k ++ ":" ++ v.render ++ "," ++ renderFields rest

end

mutual

/-- How many arrays and objects nest in a value. -/
def Value.depth : Value → Nat
  | .array items => itemsDepth items + 1
  | .object fields => fieldsDepth fields + 1
  | _ => 0

/-- The greatest depth among array items. -/
def itemsDepth : List Value → Nat
  | [] => 0
  | v :: rest => max v.depth (itemsDepth rest)

/-- The greatest depth among field values. -/
def fieldsDepth : List (String × Value) → Nat
  | [] => 0
  | (_, v) :: rest => max v.depth (fieldsDepth rest)

end

/-- A newline and two spaces per level. -/
def newline (level : Nat) : String := "\n" ++ String.ofList (List.replicate (2 * level) ' ')

mutual

/-- The indented text of a value whose first line stands at `level`. -/
def Value.renderPretty (level : Nat) : Value → String
  | .array [] => "[]"
  | .object [] => "{}"
  | .array items => "[" ++ prettyItems (level + 1) items ++ newline level ++ "]"
  | .object fields => "\x7b" ++ prettyFields (level + 1) fields ++ newline level ++ "\x7d"
  | v => v.render

/-- Indented array items, one per line. -/
def prettyItems (level : Nat) : List Value → String
  | [] => ""
  | [v] => newline level ++ v.renderPretty level
  | v :: rest => newline level ++ v.renderPretty level ++ "," ++ prettyItems level rest

/-- Indented object fields, one per line. -/
def prettyFields (level : Nat) : List (String × Value) → String
  | [] => ""
  | [(k, v)] => newline level ++ quote k ++ ": " ++ v.renderPretty level
  | (k, v) :: rest =>
    newline level ++ quote k ++ ": " ++ v.renderPretty level ++ "," ++ prettyFields level rest

end

/-- The indented text of a value. -/
def Value.pretty (v : Value) : String := v.renderPretty 0

/-- A string value. -/
def str (s : String) : Value := .string s

/-- A natural number value. -/
def nat (n : Nat) : Value := .number (.unsigned n)

/-- An integer value. -/
def int (n : Int) : Value :=
  if n < 0 then .number (.negative n) else .number (.unsigned n.toNat)

/-- A float value. -/
def float (x : Float) : Value := .number (.float x)

/-- An optional value, `null` when absent. -/
def opt {α : Type} (f : α → Value) : Option α → Value
  | some a => f a
  | none => .null

end Runbook.Json
