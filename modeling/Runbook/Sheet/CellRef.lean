import Runbook.Text.Blank
/-!
# A1 cell references

A cell reference names a column by one to three letters (`A` is 1, `Z` 26, `AA` 27, as in
a bijective base-26 numeral, in either case) and a row by decimal digits (leading zeros
allowed), each optionally after a `$`: `B12`, `$C$4`. Blanks around the reference are
ignored. The grid has columns 1 to 16384 (`XFD`) and rows 1 to 1048576. The text is split
at its first digit, or at its first `$` after the first character.
-/

namespace Runbook.Sheet

/-- The largest column number. -/
def maxColumn : Nat := 16384

/-- The largest row number. -/
def maxRow : Nat := 1048576

/-- The largest value a row numeral may have before it is refused outright. -/
def maxRowNumeral : Nat := Nat.pow 2 32 - 1

/-- Whether a character is an ASCII letter. -/
def isLetter (c : Char) : Bool := c.isUpper || c.isLower

/-- The number of a column name: bijective base 26 over the upper-cased letters. -/
def columnNumber (letters : List Char) : Nat :=
  letters.foldl (fun acc c => acc * 26 + (c.toUpper.toNat - 'A'.toNat + 1)) 0

/-- The value of a row numeral, unless it exceeds the numeral limit. -/
def rowNumber? (digits : List Char) : Option Nat :=
  let n := digits.foldl (fun acc c => acc * 10 + (c.toNat - 48)) 0
  if n ≤ maxRowNumeral then some n else none

/-- Where a reference splits into its column and row parts: the first digit, or the first
`$` after the first character. -/
def splitPoint? (cs : List Char) : Option Nat :=
  (List.range cs.length).find? fun i =>
    match cs[i]? with
    | some c => c.isDigit || (c = '$' && i > 0)
    | none => false

/-- Drops one leading `$`. -/
def dropDollar : List Char → List Char
  | '$' :: rest => rest
  | cs => cs

/-- The column and row of a reference, if it is one inside the grid. -/
def parseCell (s : String) : Option (Nat × Nat) := do
  let cs := Text.trimList s.toList
  let i ← splitPoint? cs
  let letters := dropDollar (cs.take i)
  let digits := dropDollar (cs.drop i)
  if letters.isEmpty || letters.length > 3 || !letters.all isLetter then none
  else if digits.isEmpty || !digits.all Char.isDigit then none
  else
    let column := columnNumber letters
    let row ← rowNumber? digits
    if 1 ≤ column ∧ column ≤ maxColumn ∧ 1 ≤ row ∧ row ≤ maxRow then some (column, row)
    else none

end Runbook.Sheet
