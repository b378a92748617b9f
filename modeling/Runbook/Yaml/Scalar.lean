import Runbook.Number.Shortest
import Runbook.Number.Numeral
import Runbook.Params.Lenient
/-!
# What a YAML scalar means

A scalar is written plain, single-quoted, double-quoted, or as a literal or folded block.
A plain scalar without a tag means more than its text: the null words (and nothing at
all), the boolean words, integers in decimal, hexadecimal (`0x`), octal (`0o`) or binary
(`0b`) with an optional sign, and decimal fractions, tried in that order. Digits with a
leading zero, such as `0123`, stay text. Quoted and block scalars are text.

A tag overrides this: the core tags for booleans, integers, floats and null ask that the
text be read as one, and refuse a text that is not; a local tag on a plain scalar leaves
it to be resolved as if untagged; any other tag makes the scalar text.
-/

namespace Runbook.Yaml

/-- How a scalar was written. -/
inductive Style where
  | plain
  | singleQuoted
  | doubleQuoted
  | literal
  | folded
  deriving Repr, DecidableEq

/-- What a scalar means. -/
inductive Meaning where
  | null
  | bool (b : Bool)
  /-- An integer in the unsigned 64-bit range. -/
  | unsigned (n : Nat)
  /-- An integer written with a minus sign, in the signed 64-bit range. -/
  | signed (n : Int)
  /-- A larger integer in the unsigned 128-bit range. -/
  | wideUnsigned (n : Nat)
  /-- A negative integer beyond 64 bits in the signed 128-bit range. -/
  | wideNegative (n : Int)
  | float (x : Float)
  | text (s : String)

/-- The words that mean null. -/
def isNullWord (s : String) : Bool := s == "~" || s == "null" || s == "Null" || s == "NULL"

/-- The words that mean a boolean. -/
def boolWord? : String → Option Bool
  | "true" | "True" | "TRUE" => some true
  | "false" | "False" | "FALSE" => some false
  | _ => none

/-- The value of a digit in a radix up to 16. -/
def radixDigit? (radix : Nat) (c : Char) : Option Nat :=
  let d := if c.isDigit then some (c.toNat - 48)
    else if 'a' ≤ c ∧ c ≤ 'f' then some (c.toNat - 87)
    else if 'A' ≤ c ∧ c ≤ 'F' then some (c.toNat - 55)
    else none
  d.bind fun v => if v < radix then some v else none

/-- Reads digits in a radix, all of them, at least one. -/
def radixValue? (radix : Nat) (ds : List Char) : Option Nat :=
  if ds.isEmpty then none
  else ds.foldl (fun acc c => acc.bind fun a => (radixDigit? radix c).map (a * radix + ·)) (some 0)

/-- Reads an integer numeral in a radix, with an optional sign, within `[lo, hi]`. -/
def readRadix? (radix : Nat) (lo hi : Int) (s : List Char) : Option Int :=
  let (negative, ds) := match s with
    | '+' :: ds => (false, ds)
    | '-' :: ds => (true, ds)
    | ds => (false, ds)
  if negative ∧ lo ≥ 0 then none
  else (radixValue? radix ds).bind fun v =>
    let n : Int := if negative then -(v : Int) else v
    if lo ≤ n ∧ n ≤ hi then some n else none

/-- Whether a text is digits with a leading zero (after an optional sign), which stays
text rather than a number. -/
def leadingZeroDigits (s : String) : Bool :=
  let cs := match s.toList with
    | '-' :: rest => rest
    | '+' :: rest => rest
    | cs => cs
  match cs with
  | '0' :: rest => !rest.isEmpty && rest.all Char.isDigit
  | _ => false

/-- Whether a text starts with a sign. -/
def startsWithSign : List Char → Bool
  | '+' :: _ | '-' :: _ => true
  | _ => false

/-- Reads a non-negative integer numeral within `[0, hi]`: an optional `+`, then a
radix prefix and digits, or decimal digits without a leading zero. -/
def readUnsigned? (hi : Int) (s : String) : Option Nat :=
  let body := match s.toList with
    | '+' :: rest => rest
    | cs => cs
  let prefixed (radix : Nat) (rest : List Char) : Option Nat :=
    if startsWithSign rest then none else (readRadix? radix 0 hi rest).map Int.toNat
  let tried := match body with
    | '0' :: 'x' :: rest => prefixed 16 rest
    | '0' :: 'o' :: rest => prefixed 8 rest
    | '0' :: 'b' :: rest => prefixed 2 rest
    | _ => none
  match tried with
  | some n => some n
  | none =>
    if startsWithSign body || leadingZeroDigits s then none
    else (readRadix? 10 0 hi body).map Int.toNat

/-- Reads an integer numeral with a minus sign within `[lo, 0]`: `-` and a radix prefix
and digits, or decimal digits without a leading zero. -/
def readNegative? (lo : Int) (s : String) : Option Int :=
  let tried := match s.toList with
    | '-' :: '0' :: 'x' :: rest => readRadix? 16 lo 0 ('-' :: rest)
    | '-' :: '0' :: 'o' :: rest => readRadix? 8 lo 0 ('-' :: rest)
    | '-' :: '0' :: 'b' :: rest => readRadix? 2 lo 0 ('-' :: rest)
    | _ => none
  match tried with
  | some n => some n
  | none => if leadingZeroDigits s then none else readRadix? 10 lo 0 s.toList

/-- Reads a decimal fraction or one of the infinity and NaN words; other infinite
readings are text. -/
def readFraction? (s : String) : Option Float :=
  let body := match s.toList with
    | '+' :: rest => if startsWithSign rest then none else some (String.ofList rest)
    | _ => some s
  body.bind fun b =>
    if b == ".inf" || b == ".Inf" || b == ".INF" then some Numeral.infinity
    else if s == "-.inf" || s == "-.Inf" || s == "-.INF" then some (-Numeral.infinity)
    else if s == ".nan" || s == ".NaN" || s == ".NAN" then some Numeral.notANumber
    else (Numeral.readFloat? b).bind fun x =>
      if Binary64.isFinite x then some x else none

/-- What an integer numeral means, if it is one: in the unsigned or signed 64-bit range
first, then in the 128-bit ranges. -/
def integerMeaning? (s : String) : Option Meaning :=
  match readUnsigned? ((Nat.pow 2 64 : Int) - 1) s with
  | some n => some (.unsigned n)
  | none =>
  match readNegative? (-(Nat.pow 2 63 : Int)) s with
  | some n => some (.signed n)
  | none =>
  match readUnsigned? ((Nat.pow 2 128 : Int) - 1) s with
  | some n => some (.wideUnsigned n)
  | none => (readNegative? (-(Nat.pow 2 127 : Int)) s).map .wideNegative

/-- What the text of a plain scalar means. -/
def plainMeaning (s : String) : Meaning :=
  if s.isEmpty || isNullWord s then .null
  else match boolWord? s with
  | some b => .bool b
  | none =>
    match integerMeaning? s with
    | some m => m
    | none =>
      match (if leadingZeroDigits s then none else readFraction? s) with
      | some x => .float x
      | none => .text s

/-- What a scalar means: plain scalars are resolved, others are text. -/
def scalarMeaning (text : String) : Style → Meaning
  | .plain => plainMeaning text
  | _ => .text text

/-- Floats in decoding messages: the shortest digits, always positional, a whole number
with `.0`. -/
def messageNotation : Shortest.Notation := ⟨400, 400, "+"⟩

/-- How a decoder names a value of this meaning that it did not expect. -/
def Meaning.unexpected : Meaning → String
  | .null => "unit value"
  | .bool b => "boolean `" ++ (if b then "true" else "false") ++ "`"
  | .unsigned n => "integer `" ++ toString n ++ "`"
  | .signed n => "integer `" ++ toString n ++ "`"
  | .wideUnsigned n => "integer `" ++ toString n ++ "` as u128"
  | .wideNegative n => "integer `" ++ toString n ++ "` as i128"
  | .float x =>
    let shown := match Binary64.ofFloat x with
      | .finite .. => (Shortest.finiteText messageNotation x).getD ""
      | .infinite negative => if negative then "-inf" else "inf"
      | .nan => "NaN"
    "floating point `" ++ shown ++ "`"
  | .text s => "string " ++ Text.debugQuote s

/-- The core tag of booleans. -/
def boolTag : String := "tag:yaml.org,2002:bool"

/-- The core tag of integers. -/
def intTag : String := "tag:yaml.org,2002:int"

/-- The core tag of floats. -/
def floatTag : String := "tag:yaml.org,2002:float"

/-- The core tag of null. -/
def nullTag : String := "tag:yaml.org,2002:null"

/-- How a decoder reads a scalar it did not expect: as a value of some meaning, or as a
text that does not fit its tag, named by what the tag asked for. -/
inductive Reading where
  | meaning (m : Meaning)
  | unfit (wanted : String)

/-- How a decoder reads a scalar of a tag, text and style. -/
def scalarReading (tag : Option String) (text : String) (style : Style) : Reading :=
  match tag with
  | some t =>
    if t == boolTag then
      match boolWord? text with
      | some b => .meaning (.bool b)
      | none => .unfit "a boolean"
    else if t == intTag then
      match integerMeaning? text with
      | some m => .meaning m
      | none => .unfit "an integer"
    else if t == floatTag then
      match readFraction? text with
      | some x => .meaning (.float x)
      | none => .unfit "a float"
    else if t == nullTag then
      if isNullWord text then .meaning .null else .unfit "null"
    else if t.startsWith "!" && style == .plain then .meaning (plainMeaning text)
    else .meaning (.text text)
  | none => .meaning (scalarMeaning text style)

/-- The message of a scalar of a tag, text and style where a decoder expected
`expected`. -/
def scalarMismatch (tag : Option String) (text : String) (style : Style) (expected : String) :
    String :=
  match scalarReading tag text style with
  | .meaning m => "invalid type: " ++ m.unexpected ++ ", expected " ++ expected
  | .unfit wanted => "invalid value: string " ++ Text.debugQuote text ++ ", expected " ++ wanted

end Runbook.Yaml
