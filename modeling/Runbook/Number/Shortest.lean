import Runbook.Number.Binary64
/-!
# Shortest decimal text of a binary64 value

A finite float is written with the fewest significant digits that read back as the same
float; of two such decimals with that many digits, the one nearer the exact value wins,
and an exact tie goes to the even last digit. The search is exact: for one digit, then
two, up to seventeen, the two neighbours of the value on that decimal grid are tested
against the interval of reals that round to the float (its ends belong to it exactly when
the significand is even).

`Notation` records where positional notation gives way to an exponent; `Notation.json` is
the form used for every number this library writes.
-/

namespace Runbook.Shortest

/-- A decimal `digits * 10 ^ exponent`. -/
structure Decimal where
  digits : Nat
  exponent : Int
  deriving Repr, DecidableEq

/-- `10 ^ k` as a multiplier on the side where it is a whole number. -/
def pow10Num (k : Int) : Nat := if k ≥ 0 then Nat.pow 10 k.toNat else 1

/-- `10 ^ k` as a divisor on the side where it is a whole number. -/
def pow10Den (k : Int) : Nat := if k < 0 then Nat.pow 10 (-k).toNat else 1

/-- `2 ^ w` as a multiplier on the side where it is a whole number. -/
def pow2Num (w : Int) : Nat := if w ≥ 0 then Nat.pow 2 w.toNat else 1

/-- `2 ^ w` as a divisor on the side where it is a whole number. -/
def pow2Den (w : Int) : Nat := if w < 0 then Nat.pow 2 (-w).toNat else 1

/-- Compares `a * 10 ^ k` with `b * 2 ^ w` exactly. -/
def compareScaled (a : Nat) (k : Int) (b : Nat) (w : Int) : Ordering :=
  compare (a * pow10Num k * pow2Den w) (b * pow2Num w * pow10Den k)

/-- `⌊m * 2 ^ e / 10 ^ k⌋`. -/
def floorScaled (m : Nat) (e k : Int) : Nat :=
  (m * pow2Num e * pow10Den k) / (pow2Den e * pow10Num k)

/-- The exponent `E` with `10 ^ E ≤ m * 2 ^ e < 10 ^ (E + 1)`, for `m > 0`. The estimate
`⌊(log₂ m + e) * 78913 / 2 ^ 18⌋` is never above `E` and at most one below it. -/
def decimalExponent (m : Nat) (e : Int) : Int :=
  let estimate := Int.fdiv (((m.log2 : Int) + e) * 78913) 262144
  if compareScaled 1 (estimate + 1) m e = .gt then estimate else estimate + 1

/-- The reals that round to `m * 2 ^ e`, in units of `2 ^ (e - 2)`: the lower end, the
upper end, and whether both ends belong to it. The gap below the least normal
significand is half the gap above it. -/
def roundingInterval (m : Nat) (e : Int) : Nat × Nat × Bool :=
  let lower := if m = Binary64.hidden ∧ e > Binary64.minExponent then 4 * m - 1 else 4 * m - 2
  (lower, 4 * m + 2, m % 2 == 0)

/-- Whether `c * 10 ^ k` rounds to `m * 2 ^ e`. -/
def readsBack (m : Nat) (e : Int) (c : Nat) (k : Int) : Bool :=
  let (lower, upper, closed) := roundingInterval m e
  let aboveLower := match compareScaled c k lower (e - 2) with
    | .gt => true
    | .eq => closed
    | .lt => false
  let belowUpper := match compareScaled c k upper (e - 2) with
    | .lt => true
    | .eq => closed
    | .gt => false
  aboveLower && belowUpper

/-- Of `lo * 10 ^ k` and `(lo + 1) * 10 ^ k`, the one nearer to `m * 2 ^ e`; a tie goes to
the even one. -/
def nearerNeighbour (m : Nat) (e : Int) (lo : Nat) (k : Int) : Nat :=
  match compareScaled (2 * lo + 1) k m (e + 1) with
  | .lt => lo + 1
  | .gt => lo
  | .eq => if lo % 2 = 0 then lo else lo + 1

/-- The `n`-digit decimal that reads back as `m * 2 ^ e`, if one exists. -/
def withDigits (m : Nat) (e : Int) (n : Nat) : Option Decimal :=
  let k := decimalExponent m e - n + 1
  let lo := floorScaled m e k
  let loFits := lo > 0 && readsBack m e lo k
  let hiFits := readsBack m e (lo + 1) k
  if loFits && hiFits then some ⟨nearerNeighbour m e lo k, k⟩
  else if loFits then some ⟨lo, k⟩
  else if hiFits then some ⟨lo + 1, k⟩
  else none

/-- Removes trailing zero digits, at most `fuel` of them. -/
def stripZeros : Nat → Decimal → Decimal
  | 0, d => d
  | fuel + 1, d =>
    if d.digits ≠ 0 ∧ d.digits % 10 = 0 then stripZeros fuel ⟨d.digits / 10, d.exponent + 1⟩
    else d

/-- The shortest decimal that reads back as `m * 2 ^ e`, for `m > 0`. Seventeen digits
always suffice; the last line is never reached for a float. -/
def shortest (m : Nat) (e : Int) : Decimal :=
  let found := (List.range 17).findSome? fun i => withDigits m e (i + 1)
  stripZeros 20 (found.getD ⟨floorScaled m e (decimalExponent m e - 16), decimalExponent m e - 16⟩)

/-- Where positional notation ends and how an exponent is marked. -/
structure Notation where
  /-- The most integer digits written without an exponent. -/
  maxWhole : Nat
  /-- The most zeros written between the point and the first significant digit. -/
  maxLeadingZeros : Nat
  /-- The mark before a non-negative exponent. -/
  plusMark : String

/-- Numbers are positional while the first significant digit stands at `10 ^ -5` to
`10 ^ 15`; otherwise one digit, a point and the rest, then `e+` or `e-` and the exponent.
A whole number keeps a `.0`. -/
def Notation.json : Notation := ⟨16, 4, "+"⟩

/-- `n` zero characters. -/
def zeros (n : Nat) : List Char := List.replicate n '0'

/-- The text of a non-negative decimal in a notation. -/
def Decimal.render (style : Notation) (d : Decimal) : String :=
  let s := (toString d.digits).toList
  let n := s.length
  let point : Int := n + d.exponent
  if d.exponent ≥ 0 ∧ point ≤ style.maxWhole then
    String.ofList (s ++ zeros d.exponent.toNat ++ ['.', '0'])
  else if 0 < point ∧ point ≤ style.maxWhole then
    String.ofList (s.take point.toNat ++ ['.'] ++ s.drop point.toNat)
  else if -(style.maxLeadingZeros : Int) ≤ point ∧ point ≤ 0 then
    String.ofList (['0', '.'] ++ zeros (-point).toNat ++ s)
  else
    let power := point - 1
    let mantissa := if n = 1 then s else s.take 1 ++ ['.'] ++ s.drop 1
    String.ofList mantissa ++ "e" ++ (if power < 0 then "-" else style.plusMark) ++
      toString power.natAbs

/-- The text of a finite float: a sign for negative values (also `-0.0`), then the
shortest digits in the notation. Infinities and NaN have no number text. -/
def finiteText (style : Notation) (x : Float) : Option String :=
  match Binary64.ofFloat x with
  | .finite negative m e =>
    let body := if m = 0 then "0.0" else (shortest m e).render style
    some ((if negative then "-" else "") ++ body)
  | _ => none

/-- How a float is displayed in a message: its number text, or `inf`, `-inf`, `NaN`. -/
def display (x : Float) : String :=
  match Binary64.ofFloat x with
  | .finite .. => (finiteText Notation.json x).getD ""
  | .infinite negative => if negative then "-inf" else "inf"
  | .nan => "NaN"

end Runbook.Shortest
