import Runbook.Files.Store
/-!
# Summed-area tables

The summed-area table of a picture of `W × H` gray levels has `H + 1` rows of `W + 1`
entries; the entry at column `x`, row `y` is the sum of the levels left of `x` and above
`y`. Row `y + 1` is row `y` plus the running sums of picture row `y`. The sum over any
window is then four look-ups: bottom right, less top right and bottom left, plus top left.
The table is kept in exact natural numbers; a table of squared levels is built the same
way.
-/

namespace Runbook.SummedArea

/-- The running sums of a row: entry `i` is the sum of the first `i + 1` values. -/
def runningSums (row : List Nat) : List Nat :=
  (row.foldl (fun (acc : List Nat × Nat) v => ((acc.2 + v) :: acc.1, acc.2 + v)) ([], 0)).1.reverse

/-- The next table row: `0`, then the row above plus the running sums of a picture row. -/
def nextRow (above : List Nat) (row : List Nat) : List Nat :=
  0 :: List.zipWith (· + ·) above.tail (runningSums row)

/-- The table of a picture's rows, each of width `w`. -/
def table (w : Nat) (rows : List (List Nat)) : Array (Array Nat) :=
  ((rows.scanl nextRow (List.replicate (w + 1) 0)).map List.toArray).toArray

/-- An entry of a table, `0` outside it. -/
def entry (t : Array (Array Nat)) (x y : Nat) : Nat :=
  (t.getD y #[]).getD x 0

/-- The sum over the window of width `w` and height `h` at column `x`, row `y`. -/
def window (t : Array (Array Nat)) (x y w h : Nat) : Int :=
  (entry t (x + w) (y + h) : Int) - entry t (x + w) y - entry t x (y + h) + entry t x y

end Runbook.SummedArea
