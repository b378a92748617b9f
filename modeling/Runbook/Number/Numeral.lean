import Runbook.Number.Binary64
/-!
# Reading numerals

Integer numerals are an optional sign (`+`, or `-` where the target type is signed) and
one or more ASCII digits; the digits are read left to right, so a stray character or the
first digit that leaves the target range decides the error. Decimal numerals are an
optional sign and either `inf`, `infinity` or `nan` in any case, or digits with an optional
point and fraction (at least one digit in all) and an optional exponent `e` or `E` with an
optional sign and at least one digit; the value is the float nearest to the decimal.
-/

namespace Runbook.Numeral

/-- Why an integer numeral was refused. -/
inductive IntError where
  | empty
  | invalidDigit
  | tooLarge
  | tooSmall
  deriving Repr, DecidableEq

/-- The wording of an integer numeral error. -/
def IntError.message : IntError → String
  | .empty => "cannot parse integer from empty string"
  | .invalidDigit => "invalid digit found in string"
  | .tooLarge => "number too large to fit in target type"
  | .tooSmall => "number too small to fit in target type"

/-- The value of an ASCII digit. -/
def digitValue (c : Char) : Option Nat :=
  if c.isDigit then some (c.toNat - 48) else none

/-- Reads digits left to right into `acc`, moving away from zero in the direction of the
sign and staying within `[lo, hi]`. -/
def readDigits (negative : Bool) (lo hi : Int) (acc : Int) : List Char → Except IntError Int
  | [] => .ok acc
  | c :: rest =>
    match digitValue c with
    | none => .error .invalidDigit
    | some d =>
      let next := if negative then acc * 10 - d else acc * 10 + d
      if next > hi then .error .tooLarge
      else if next < lo then .error .tooSmall
      else readDigits negative lo hi next rest

/-- Reads an integer numeral of a type with range `[lo, hi]`; a leading `-` is a sign only
when `lo` is negative. -/
def readInteger (lo hi : Int) (s : String) : Except IntError Int :=
  match s.toList with
  | [] => .error .empty
  | ['+'] => .error .invalidDigit
  | ['-'] => .error .invalidDigit
  | '+' :: rest => readDigits false lo hi 0 rest
  | '-' :: rest => if lo < 0 then readDigits true lo hi 0 rest else .error .invalidDigit
  | cs => readDigits false lo hi 0 cs

/-- Reads a signed 64-bit integer numeral. -/
def readI64? (s : String) : Option Int :=
  match readInteger Int64.minValue Int64.maxValue s with
  | .ok n => some n
  | .error _ => none

/-- The float pattern of a positive infinity. -/
def infinity : Float := Float.ofBits (Binary64.infinityBits false).toUInt64

/-- A quiet NaN. -/
def notANumber : Float := Float.ofBits 0x7FF8000000000000

/-- The number of decimal digits of a positive number. -/
def digitCount (n : Nat) : Nat := (toString n).length

/-- The float nearest to `± m * 10 ^ e`. Far beyond the range of floats the result is an
infinity or a zero without computing the power. -/
def decimalToFloat (negative : Bool) (m : Nat) (e : Int) : Float :=
  if m = 0 then (if negative then -0.0 else 0.0)
  else if e + digitCount m > 310 then (if negative then -infinity else infinity)
  else if e + digitCount m < -330 then (if negative then -0.0 else 0.0)
  else Binary64.nearest negative (m * Nat.pow 10 e.toNat) (Nat.pow 10 (-e).toNat)

/-- The digits of a list of digit characters as a number. -/
def digitsValue (ds : List Char) : Nat := ds.foldl (fun acc c => acc * 10 + (c.toNat - 48)) 0

/-- Reads a decimal numeral as the nearest float. -/
def readFloat? (s : String) : Option Float :=
  let (negative, body) := match s.toList with
    | '+' :: rest => (false, rest)
    | '-' :: rest => (true, rest)
    | cs => (false, cs)
  let word := String.ofList (body.map Char.toLower)
  if word = "inf" ∨ word = "infinity" then some (if negative then -infinity else infinity)
  else if word = "nan" then some notANumber
  else
    let whole := body.takeWhile Char.isDigit
    let afterWhole := body.dropWhile Char.isDigit
    let (fraction, afterFraction) := match afterWhole with
      | '.' :: rest => (rest.takeWhile Char.isDigit, rest.dropWhile Char.isDigit)
      | cs => ([], cs)
    if whole.isEmpty ∧ fraction.isEmpty then none
    else
      let exponent : Option Int := match afterFraction with
        | [] => some 0
        | c :: rest =>
          if c = 'e' ∨ c = 'E' then
            let (expNegative, digits) := match rest with
              | '+' :: ds => (false, ds)
              | '-' :: ds => (true, ds)
              | ds => (false, ds)
            if !digits.isEmpty ∧ digits.all Char.isDigit then
              some (if expNegative then -(digitsValue digits : Int) else digitsValue digits)
            else none
          else none
      exponent.map fun e =>
        decimalToFloat negative (digitsValue (whole ++ fraction)) (e - fraction.length)

end Runbook.Numeral
