import Runbook.Json.Value
import Runbook.Json.Error
/-!
# Reading JSON text

`parse` reads one JSON value from a text, with blanks (space, tab, newline, carriage
return) around it. It follows the JSON grammar strictly and reports the first fault with
its position, as `SyntaxError`. Its particular rules:

* numbers without fraction or exponent are integers when they fit (`unsigned` below
  `2 ^ 64`, `negative` down to `-2 ^ 63`); `-0` and wider integers are floats;
* a float is computed from a 64-bit significand and a power of ten: digits beyond the
  significand's range are dropped (in the integer part they still scale by ten), the
  significand is rounded to a float once and multiplied or divided by the float nearest
  to `10 ^ k` (for exponents below `-308`, first divided by `1e308`); an infinite product
  is an error, `number out of range`;
* string escapes must pair surrogates; a lone one is an error;
* at most 127 arrays and objects may be open at once;
* a repeated object key keeps its last value.
-/

namespace Runbook.Json

/-- The unread bytes of a text and the offset where they start. -/
structure Cursor where
  rest : List UInt8
  offset : Nat

/-- A fault and the byte offset it is reported at. -/
structure Failure where
  kind : SyntaxKind
  offset : Nat

/-- A fault reported one byte past the cursor, or at the end of the text. -/
def Cursor.fail (c : Cursor) (kind : SyntaxKind) : Failure :=
  ⟨kind, if c.rest.isEmpty then c.offset else c.offset + 1⟩

/-- Whether a byte is a blank between tokens. -/
def isBlank (b : UInt8) : Bool := b == 32 || b == 10 || b == 9 || b == 13

/-- Whether a byte is an ASCII digit. -/
def isDigit (b : UInt8) : Bool := 48 ≤ b && b ≤ 57

/-- Skips blanks. -/
def skipBlank : List UInt8 → Nat → Cursor
  | b :: r, o => if isBlank b then skipBlank r (o + 1) else ⟨b :: r, o⟩
  | [], o => ⟨[], o⟩

/-- The value of a hexadecimal digit. -/
def hexValue (b : UInt8) : Option Nat :=
  if 48 ≤ b ∧ b ≤ 57 then some (b.toNat - 48)
  else if 97 ≤ b ∧ b ≤ 102 then some (b.toNat - 87)
  else if 65 ≤ b ∧ b ≤ 70 then some (b.toNat - 55)
  else none

/-- The UTF-8 bytes of a code point. -/
def utf8 (n : Nat) : List UInt8 := (String.singleton (Char.ofNat n)).toUTF8.toList

/-- Four hexadecimal digits of a `\u` escape. -/
def readHex4 (c : Cursor) : Except Failure (Nat × Cursor) :=
  match c.rest with
  | a :: b :: d :: e :: r =>
    match hexValue a, hexValue b, hexValue d, hexValue e with
    | some w, some x, some y, some z => .ok (((w * 16 + x) * 16 + y) * 16 + z, ⟨r, c.offset + 4⟩)
    | _, _, _, _ => .error ⟨.invalidEscape, c.offset + 4⟩
  | r => .error ⟨.eofInString, c.offset + r.length⟩

/-- A `\u` escape after its `u`: a character outside the surrogates, or a leading
surrogate followed at once by a `\u` escape of a trailing one. -/
def readUnicode (c : Cursor) : Except Failure (List UInt8 × Cursor) := do
  let (n, c) ← readHex4 c
  if 0xDC00 ≤ n ∧ n ≤ 0xDFFF then .error ⟨.loneLeadingSurrogate, c.offset⟩
  else if n < 0xD800 ∨ n > 0xDBFF then .ok (utf8 n, c)
  else
    match c.rest with
    | [] => .error ⟨.eofInString, c.offset⟩
    | b :: r =>
      if b ≠ 92 then .error ⟨.unexpectedEndOfHexEscape, c.offset + 1⟩ else
      match r with
      | [] => .error ⟨.eofInString, c.offset + 1⟩
      | b2 :: r2 =>
        if b2 ≠ 117 then .error ⟨.unexpectedEndOfHexEscape, c.offset + 2⟩ else do
        let (n2, c2) ← readHex4 ⟨r2, c.offset + 2⟩
        if n2 < 0xDC00 ∨ n2 > 0xDFFF then .error ⟨.loneLeadingSurrogate, c2.offset⟩
        else .ok (utf8 ((n - 0xD800) * 1024 + (n2 - 0xDC00) + 0x10000), c2)

/-- An escape after its backslash. -/
def readEscape (c : Cursor) : Except Failure (List UInt8 × Cursor) :=
  match c.rest with
  | [] => .error ⟨.eofInString, c.offset⟩
  | b :: r =>
    let c1 : Cursor := ⟨r, c.offset + 1⟩
    if b = 34 ∨ b = 92 ∨ b = 47 then .ok ([b], c1)
    else if b = 98 then .ok ([8], c1)
    else if b = 102 then .ok ([12], c1)
    else if b = 110 then .ok ([10], c1)
    else if b = 114 then .ok ([13], c1)
    else if b = 116 then .ok ([9], c1)
    else if b = 117 then readUnicode c1
    else .error ⟨.invalidEscape, c1.offset⟩

/-- The bytes of a string after its opening quote, up to and past the closing quote;
`acc` holds the bytes read so far in reverse. -/
def readStringBytes : Nat → Cursor → List UInt8 → Except Failure (List UInt8 × Cursor)
  | 0, c, _ => .error ⟨.eofInString, c.offset⟩
  | fuel + 1, c, acc =>
    match c.rest with
    | [] => .error ⟨.eofInString, c.offset⟩
    | b :: r =>
      if b = 34 then .ok (acc.reverse, ⟨r, c.offset + 1⟩)
      else if b = 92 then do
        let (bytes, c') ← readEscape ⟨r, c.offset + 1⟩
        readStringBytes fuel c' (bytes.reverse ++ acc)
      else if b < 32 then .error ⟨.controlCharacter, c.offset + 1⟩
      else readStringBytes fuel ⟨r, c.offset + 1⟩ (b :: acc)

/-- A string after its opening quote. -/
def readString (fuel : Nat) (c : Cursor) : Except Failure (String × Cursor) := do
  let (bytes, c') ← readStringBytes fuel c []
  .ok ((String.fromUTF8? (ByteArray.mk bytes.toArray)).getD "", c')

/-- The rest of a keyword such as `null` after its first letter. -/
def readWord (c : Cursor) : List UInt8 → Except Failure Cursor
  | [] => .ok c
  | w :: ws =>
    match c.rest with
    | [] => .error ⟨.eofInValue, c.offset⟩
    | b :: r => if b = w then readWord ⟨r, c.offset + 1⟩ ws else .error ⟨.expectedIdent, c.offset + 1⟩

/-- Whether appending digit `d` to `acc` passes `limit`. -/
def overflows (acc d limit : Nat) : Bool :=
  acc ≥ limit / 10 && (acc > limit / 10 || d > limit % 10)

/-- Appends digits to `acc` while the result stays within `limit`; returns the result and
how many digits were taken. -/
def accumulate (limit acc : Nat) : List UInt8 → Nat × Nat
  | [] => (acc, 0)
  | d :: ds =>
    let v := d.toNat - 48
    if overflows acc v limit then (acc, 0)
    else
      let (s, n) := accumulate limit (acc * 10 + v) ds
      (s, n + 1)

/-- The float nearest to `10 ^ k`. -/
def pow10 (k : Nat) : Float := Binary64.ofNat (Nat.pow 10 k)

/-- `f * 10 ^ e` step by step: one multiplication or division by a power of ten up to
`10 ^ 308`, after dividing by `1e308` while the exponent is below `-308`. `none` when the
result is infinite. -/
def scalePow10 : Nat → Float → Int → Option Float
  | 0, f, _ => some f
  | fuel + 1, f, e =>
    if e.natAbs ≤ 308 then
      if e ≥ 0 then
        let g := f * pow10 e.toNat
        if Binary64.isFinite g then some g else none
      else some (f / pow10 (-e).toNat)
    else if Binary64.isZero f then some f
    else if e ≥ 0 then none
    else scalePow10 fuel (f / pow10 308) (e + 308)

/-- The float of `± significand * 10 ^ exponent`, or `number out of range` at the cursor. -/
def fromParts (positive : Bool) (significand : Nat) (exponent : Int) (c : Cursor) :
    Except Failure (Number × Cursor) :=
  match scalePow10 (exponent.natAbs / 308 + 2) (Binary64.ofNat significand) exponent with
  | some f => .ok (.float (if positive then f else -f), c)
  | none => .error ⟨.numberOutOfRange, c.offset⟩

/-- The greatest 64-bit unsigned value. -/
def u64Limit : Nat := Nat.pow 2 64 - 1

/-- The greatest 32-bit signed value, the limit of a written exponent. -/
def i32Limit : Nat := Nat.pow 2 31 - 1

/-- Adds to an exponent within the 32-bit signed range. -/
def addExponent (a b : Int) : Int := max (-(Nat.pow 2 31 : Int)) (min (a + b) ((Nat.pow 2 31 : Int) - 1))

/-- The optional sign of an exponent: whether it counts up, and the cursor after it. -/
def exponentSign (c : Cursor) : Bool × Cursor :=
  match c.rest with
  | 43 :: r => (true, ⟨r, c.offset + 1⟩)
  | 45 :: r => (false, ⟨r, c.offset + 1⟩)
  | _ => (true, c)

/-- An exponent part at its `e`, applied to `significand * 10 ^ start`. -/
def readExponent (positive : Bool) (significand : Nat) (start : Int) (c : Cursor) :
    Except Failure (Number × Cursor) :=
  let (up, c1) := exponentSign ⟨c.rest.drop 1, c.offset + 1⟩
  match c1.rest with
  | [] => .error ⟨.eofInValue, c1.offset⟩
  | b :: r =>
    if !isDigit b then .error ⟨.invalidNumber, c1.offset + 1⟩ else
    let (ds, rest) := r.span isDigit
    let (exp, taken) := accumulate i32Limit (b.toNat - 48) ds
    let cEnd : Cursor := ⟨rest, c1.offset + 1 + ds.length⟩
    if taken < ds.length then
      if significand ≠ 0 ∧ up then .error ⟨.numberOutOfRange, c1.offset + 2 + taken⟩
      else .ok (.float (if positive then 0.0 else -0.0), cEnd)
    else fromParts positive significand (addExponent start (if up then exp else -(exp : Int))) cEnd

/-- Whether the cursor stands at an exponent mark. -/
def atExponent (c : Cursor) : Bool :=
  match c.rest with
  | b :: _ => b = 101 || b = 69
  | [] => false

/-- A fraction part at its point, applied to `significand * 10 ^ start`. -/
def readFraction (positive : Bool) (significand : Nat) (start : Int) (c : Cursor) :
    Except Failure (Number × Cursor) :=
  let afterPoint : Cursor := ⟨c.rest.drop 1, c.offset + 1⟩
  let (ds, rest) := afterPoint.rest.span isDigit
  if ds.isEmpty then
    .error (afterPoint.fail (if afterPoint.rest.isEmpty then .eofInValue else .invalidNumber))
  else
    let (sig, taken) := accumulate u64Limit significand ds
    let cEnd : Cursor := ⟨rest, afterPoint.offset + ds.length⟩
    let exponent := start - taken
    if atExponent cEnd then readExponent positive sig exponent cEnd
    else fromParts positive sig exponent cEnd

/-- What follows the integer digits: a fraction, an exponent, or the end of the number.
`wide` marks an integer that did not fit 64 bits, which is a float in any case. -/
def afterInteger (positive : Bool) (significand : Nat) (wide : Bool) (exponent : Int)
    (c : Cursor) : Except Failure (Number × Cursor) :=
  match c.rest with
  | 46 :: _ => readFraction positive significand exponent c
  | b :: _ =>
    if b = 101 ∨ b = 69 then readExponent positive significand exponent c
    else if wide then fromParts positive significand exponent c
    else integerResult
  | [] => if wide then fromParts positive significand exponent c else integerResult
where
  /-- A plain integer: unsigned, negative within 64 bits, or else a float. -/
  integerResult : Except Failure (Number × Cursor) :=
    if positive then .ok (.unsigned significand, c)
    else if significand = 0 then .ok (.float (-0.0), c)
    else if significand ≤ Nat.pow 2 63 then .ok (.negative (-(significand : Int)), c)
    else .ok (.float (-(Binary64.ofNat significand)), c)

/-- A number after its sign. -/
def readNumber (positive : Bool) (c : Cursor) : Except Failure (Number × Cursor) :=
  match c.rest with
  | [] => .error ⟨.eofInValue, c.offset⟩
  | b :: r =>
    let c1 : Cursor := ⟨r, c.offset + 1⟩
    if b = 48 then
      match r with
      | d :: _ => if isDigit d then .error ⟨.invalidNumber, c1.offset + 1⟩
                  else afterInteger positive 0 false 0 c1
      | [] => afterInteger positive 0 false 0 c1
    else if isDigit b then
      let (ds, rest) := r.span isDigit
      let (sig, taken) := accumulate u64Limit (b.toNat - 48) ds
      let extra := ds.length - taken
      afterInteger positive sig (extra > 0) extra ⟨rest, c1.offset + ds.length⟩
    else .error ⟨.invalidNumber, c1.offset⟩

/-- The most arrays and objects open at once. -/
def maxOpen : Nat := 127

mutual

/-- A value after optional blanks; `depth` counts the arrays and objects around it. -/
def readValue : Nat → Nat → Cursor → Except Failure (Value × Cursor)
  | 0, _, c => .error ⟨.eofInValue, c.offset⟩
  | fuel + 1, depth, c0 =>
    let c := skipBlank c0.rest c0.offset
    match c.rest with
    | [] => .error (c.fail .eofInValue)
    | b :: r =>
      let c1 : Cursor := ⟨r, c.offset + 1⟩
      if b = 110 then (fun c' => (Value.null, c')) <$> readWord c1 [117, 108, 108]
      else if b = 116 then (fun c' => (Value.bool true, c')) <$> readWord c1 [114, 117, 101]
      else if b = 102 then (fun c' => (Value.bool false, c')) <$> readWord c1 [97, 108, 115, 101]
      else if b = 45 then (fun (n, c') => (Value.number n, c')) <$> readNumber false c1
      else if isDigit b then (fun (n, c') => (Value.number n, c')) <$> readNumber true c
      else if b = 34 then (fun (s, c') => (Value.string s, c')) <$> readString fuel c1
      else if b = 91 then
        if depth ≥ maxOpen then .error ⟨.recursionLimit, c1.offset⟩
        else readItems fuel (depth + 1) true [] c1
      else if b = 123 then
        if depth ≥ maxOpen then .error ⟨.recursionLimit, c1.offset⟩
        else readFields fuel (depth + 1) true [] c1
      else .error (c.fail .expectedValue)

/-- Array items after the opening bracket or an item; `acc` holds the items in reverse. -/
def readItems : Nat → Nat → Bool → List Value → Cursor → Except Failure (Value × Cursor)
  | 0, _, _, _, c => .error ⟨.eofInList, c.offset⟩
  | fuel + 1, depth, first, acc, c0 =>
    let c := skipBlank c0.rest c0.offset
    match c.rest with
    | [] => .error (c.fail .eofInList)
    | b :: r =>
      if b = 93 then .ok (.array acc.reverse, ⟨r, c.offset + 1⟩)
      else if first then do
        let (v, c') ← readValue fuel depth c
        readItems fuel depth false (v :: acc) c'
      else if b = 44 then
        let c2 := skipBlank r (c.offset + 1)
        match c2.rest with
        | [] => .error (c2.fail .eofInValue)
        | b2 :: _ =>
          if b2 = 93 then .error (c2.fail .trailingComma) else do
          let (v, c') ← readValue fuel depth c2
          readItems fuel depth false (v :: acc) c'
      else .error (c.fail .expectedListCommaOrEnd)

/-- Object fields after the opening brace or a field; `acc` is kept sorted by key. -/
def readFields : Nat → Nat → Bool → List (String × Value) → Cursor →
    Except Failure (Value × Cursor)
  | 0, _, _, _, c => .error ⟨.eofInObject, c.offset⟩
  | fuel + 1, depth, first, acc, c0 =>
    let c := skipBlank c0.rest c0.offset
    match c.rest with
    | [] => .error (c.fail .eofInObject)
    | b :: r =>
      if b = 125 then .ok (.object acc, ⟨r, c.offset + 1⟩) else
      let keyAt : Except Failure Cursor :=
        if b = 44 ∧ !first then .ok (skipBlank r (c.offset + 1))
        else if first then .ok c
        else .error (c.fail .expectedObjectCommaOrEnd)
      match keyAt with
      | .error e => .error e
      | .ok k =>
        match k.rest with
        | [] => .error (k.fail .eofInValue)
        | b2 :: r2 =>
          if b2 = 34 then do
            let (key, c3) ← readString fuel ⟨r2, k.offset + 1⟩
            let c4 := skipBlank c3.rest c3.offset
            match c4.rest with
            | [] => .error (c4.fail .eofInObject)
            | b4 :: r4 =>
              if b4 = 58 then do
                let (v, c5) ← readValue fuel depth ⟨r4, c4.offset + 1⟩
                readFields fuel depth false (insertField key v acc) c5
              else .error (c4.fail .expectedColon)
          else if b2 = 125 then .error (k.fail .trailingComma)
          else .error (k.fail .keyMustBeString)

end

/-- Reads one value from UTF-8 bytes; only blanks may follow it. -/
def parseBytes (bytes : List UInt8) : Except SyntaxError Value :=
  let located (f : Failure) : SyntaxError :=
    let (line, column) := position bytes f.offset
    ⟨f.kind, line, column⟩
  match readValue (2 * bytes.length + 8) 0 ⟨bytes, 0⟩ with
  | .error f => .error (located f)
  | .ok (v, c) =>
    let c' := skipBlank c.rest c.offset
    if c'.rest.isEmpty then .ok v else .error (located (c'.fail .trailingCharacters))

/-- Reads one JSON value from a text. -/
def parse (s : String) : Except SyntaxError Value := parseBytes s.toUTF8.toList

end Runbook.Json
