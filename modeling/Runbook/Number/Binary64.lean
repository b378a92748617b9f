/-!
# Binary64 values as exact numbers

A `Float` is taken apart through its bit pattern into a sign, an integer significand and a
power of two, so that every later computation on its value is exact `Nat` arithmetic.
Rounding goes the other way: the binary64 value nearest to a non-negative fraction, with a
tie going to the even significand, is assembled bit by bit. Truncation toward zero and
saturation to the 64-bit integer range are stated on the exact value.
-/

namespace Runbook

/-- The three shapes of a binary64 value: a finite number `± significand * 2 ^ exponent`,
an infinity, or not a number. -/
inductive Binary64 where
  | finite (negative : Bool) (significand : Nat) (exponent : Int)
  | infinite (negative : Bool)
  | nan
  deriving Repr, DecidableEq

namespace Binary64

/-- Exponent of the least significand bit of subnormal numbers. -/
def minExponent : Int := -1074

/-- Exponent of the least significand bit of the largest finite numbers. -/
def maxExponent : Int := 971

/-- The significand of a normal number lies in `[2 ^ 52, 2 ^ 53)`. -/
def hidden : Nat := Nat.pow 2 52

/-- Reads the sign bit, the eleven exponent bits and the fifty-two fraction bits. -/
def ofBits (bits : Nat) : Binary64 :=
  let negative := bits / Nat.pow 2 63 % 2 == 1
  let biased := bits / hidden % 2048
  let fraction := bits % hidden
  if biased = 2047 then
    if fraction = 0 then .infinite negative else .nan
  else if biased = 0 then .finite negative fraction minExponent
  else .finite negative (fraction + hidden) ((biased : Int) - 1075)

/-- The exact shape of a float. -/
def ofFloat (x : Float) : Binary64 := ofBits x.toBits.toNat

/-- The sign bit of a pattern. -/
def signBit (negative : Bool) : Nat := if negative then Nat.pow 2 63 else 0

/-- The pattern of an infinity. -/
def infinityBits (negative : Bool) : Nat := signBit negative + 2047 * hidden

/-- `num / den` scaled by `2 ^ -e`, as a quotient and a remainder over a common divisor. -/
def scaledDivMod (num den : Nat) (e : Int) : Nat × Nat × Nat :=
  let n := if e < 0 then num * Nat.pow 2 (-e).toNat else num
  let d := if e < 0 then den else den * Nat.pow 2 e.toNat
  (n / d, n % d, d)

/-- Rounds a quotient up when the remainder is above half the divisor, or exactly half
and the quotient odd. -/
def roundHalfEven (q r d : Nat) : Nat :=
  if 2 * r > d ∨ (2 * r = d ∧ q % 2 = 1) then q + 1 else q

/-- The bit pattern of the binary64 value nearest to `num / den`, ties to even, signed
by `negative`; a value beyond the largest finite number gives an infinity. -/
def roundBits (negative : Bool) (num den : Nat) : Nat :=
  if num = 0 ∨ den = 0 then signBit negative else
  let e0 : Int := (num.log2 : Int) - den.log2 - 53
  let e1 := if (scaledDivMod num den e0).1 ≥ 2 * hidden then e0 + 1 else e0
  let e := max e1 minExponent
  let (q, r, d) := scaledDivMod num den e
  let q' := roundHalfEven q r d
  let (q'', e') := if q' = 2 * hidden then (hidden, e + 1) else (q', e)
  if e' > maxExponent then infinityBits negative
  else if q'' < hidden then signBit negative + q''
  else signBit negative + (e' + 1075).toNat * hidden + (q'' - hidden)

/-- The float nearest to `num / den`, ties to even, negated when `negative`. -/
def nearest (negative : Bool) (num den : Nat) : Float :=
  Float.ofBits (roundBits negative num den).toUInt64

/-- The float nearest to a natural number. -/
def ofNat (n : Nat) : Float := nearest false n 1

/-- The float nearest to an integer. -/
def ofInt (n : Int) : Float := nearest (n < 0) n.natAbs 1

/-- Whether a float is neither infinite nor NaN. -/
def isFinite (x : Float) : Bool :=
  match ofFloat x with
  | .finite .. => true
  | _ => false

/-- Whether a float is a zero of either sign. -/
def isZero (x : Float) : Bool :=
  match ofFloat x with
  | .finite _ m _ => m == 0
  | _ => false

/-- The exact value of a finite float rounded toward zero. -/
def truncate : Binary64 → Option Int
  | .finite negative m e =>
    let magnitude : Nat := if e < 0 then m / Nat.pow 2 (-e).toNat else m * Nat.pow 2 e.toNat
    some (if negative then -(magnitude : Int) else magnitude)
  | _ => none

end Binary64

/-- The least value of a signed 64-bit word. -/
def Int64.minValue : Int := -(Nat.pow 2 63 : Int)

/-- The greatest value of a signed 64-bit word. -/
def Int64.maxValue : Int := (Nat.pow 2 63 : Int) - 1

/-- The greatest value of an unsigned 64-bit word. -/
def UInt64.maxValue : Nat := Nat.pow 2 64 - 1

/-- Clamps an integer into the signed 64-bit range. -/
def saturate64 (n : Int) : Int := max Int64.minValue (min n Int64.maxValue)

theorem saturate64_of_mem {n : Int} (lo : Int64.minValue ≤ n) (hi : n ≤ Int64.maxValue) :
    saturate64 n = n := by
  unfold saturate64; omega

theorem saturate64_mem (n : Int) :
    Int64.minValue ≤ saturate64 n ∧ saturate64 n ≤ Int64.maxValue := by
  have h : Int64.minValue ≤ Int64.maxValue := by decide
  unfold saturate64; omega

end Runbook
