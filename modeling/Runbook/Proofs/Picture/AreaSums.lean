import Mathlib
import Runbook.Picture.SummedArea
/-!
# The summed-area table holds the sums over rectangles

The table of rows of width `W` is filled one row at a time: row `y + 1` is row `y` plus the
running sums of picture row `y`, read one column to the left. By induction on the rows
filled, every entry at column `x`, row `y` is the sum of the values left of `x` and above
`y` (`entry_table`), and the four look-ups of a window inside the picture give the sum over
the window (`window_table`), since the two rectangles the window subtracts overlap in the one
it adds back. Sums over windows are monotone in the window's size and bounded by its area
times a bound on the values, which bounds every value the table holds.
-/

namespace Runbook

namespace SummedArea

/-- The value at column `x`, row `y` of rows of values, `0` off them. -/
def cell (rows : List (List Nat)) (x y : Nat) : Nat := (rows.getD y []).getD x 0

/-- The sum of the values in the window of width `w` and height `h` whose top-left corner is
at column `x`, row `y`. -/
def windowSum (rows : List (List Nat)) (x y w h : Nat) : Nat :=
  ∑ j ∈ Finset.range h, ∑ i ∈ Finset.range w, cell rows (x + i) (y + j)

theorem windowSum_add_width (rows : List (List Nat)) (x y w₁ w₂ h : Nat) :
    windowSum rows x y (w₁ + w₂) h = windowSum rows x y w₁ h + windowSum rows (x + w₁) y w₂ h := by
  simp only [windowSum, Finset.sum_range_add, Nat.add_assoc, Finset.sum_add_distrib]

theorem windowSum_add_height (rows : List (List Nat)) (x y w h₁ h₂ : Nat) :
    windowSum rows x y w (h₁ + h₂) = windowSum rows x y w h₁ + windowSum rows x (y + h₁) w h₂ := by
  simp only [windowSum, Finset.sum_range_add, Nat.add_assoc]

/-- The running sums of a row, built in front of `acc` from the sum `s` on. -/
theorem foldl_runningSums (row acc : List Nat) (s : Nat) :
    (row.foldl (fun (acc : List Nat × Nat) v => ((acc.2 + v) :: acc.1, acc.2 + v)) (acc, s)).1 =
      ((List.range row.length).map fun i => s + ∑ k ∈ Finset.range (i + 1), row.getD k 0).reverse ++
        acc := by
  induction row generalizing acc s with
  | nil => simp
  | cons v row ih =>
    rw [List.foldl_cons, ih, List.length_cons, List.range_succ_eq_map, List.map_cons,
      List.map_map, List.reverse_cons, List.append_assoc]
    -- the first running sum is `s + v`, and the later ones start from it
    have hlater : ∀ i, s + ∑ k ∈ Finset.range (i + 1 + 1), (v :: row).getD k 0 =
        s + v + ∑ k ∈ Finset.range (i + 1), row.getD k 0 := by
      intro i
      rw [Finset.sum_range_succ']
      simp only [List.getD_cons_succ, List.getD_cons_zero]
      omega
    congr 2
    exact List.map_congr_left fun i _ => (hlater i).symm

/-- Entry `i` of the running sums of a row sums its first `i + 1` values. -/
theorem runningSums_eq (row : List Nat) :
    runningSums row = (List.range row.length).map fun i => ∑ k ∈ Finset.range (i + 1), row.getD k 0 := by
  rw [runningSums, foldl_runningSums, List.append_nil, List.reverse_reverse]
  simp

/-- One step of the fill: a table row of values `f`, starting at `0`, followed by a picture row,
gives the row of values `f` plus the sums of the picture row left of each column. -/
theorem nextRow_map {w : Nat} {f : Nat → Nat} (hf : f 0 = 0) {row : List Nat}
    (hrow : row.length = w) :
    nextRow ((List.range (w + 1)).map f) row =
      (List.range (w + 1)).map fun x => f x + ∑ k ∈ Finset.range x, row.getD k 0 := by
  rw [nextRow, runningSums_eq, hrow, List.range_succ_eq_map, List.map_cons, List.map_cons,
    List.tail_cons, List.map_map, List.map_map, List.zipWith_map, List.zipWith_self]
  simp [hf]

/-- Row `y` of the table of rows of width `w` holds, at each column `x`, the sum of the values
left of `x` and above `y`. Induction on `y`, one fill step at a time. -/
theorem scanl_nextRow {w : Nat} {rows : List (List Nat)} (hrows : ∀ r ∈ rows, r.length = w) :
    ∀ y ≤ rows.length, (rows.scanl nextRow (List.replicate (w + 1) 0))[y]? =
      some ((List.range (w + 1)).map fun x => windowSum rows 0 0 x y) := by
  intro y
  induction y with
  | zero =>
    intro _
    rw [List.getElem?_scanl_zero]
    simp [windowSum, List.map_const']
  | succ y ih =>
    intro hy
    have hyl : y < rows.length := by omega
    rw [List.getElem?_succ_scanl, ih (by omega), List.getElem?_eq_getElem hyl]
    simp only [Option.bind_some, Option.map_some]
    rw [nextRow_map (by simp [windowSum]) (hrows _ (List.getElem_mem hyl))]
    congr 2
    funext x
    -- the new row adds the sums of picture row `y` left of each column
    rw [windowSum_add_height rows 0 0 x y 1]
    simp [windowSum, cell, List.getD_eq_getElem?_getD, List.getElem?_eq_getElem hyl]

/-- Every entry of the table of rows of width `w`, inside it, is the sum of the values left of its
column and above its row. -/
theorem entry_table {w : Nat} {rows : List (List Nat)} (hrows : ∀ r ∈ rows, r.length = w)
    {x y : Nat} (hx : x ≤ w) (hy : y ≤ rows.length) :
    entry (table w rows) x y = windowSum rows 0 0 x y := by
  unfold entry table
  simp only [Array.getD_eq_getD_getElem?, List.getElem?_toArray, List.getElem?_map,
    scanl_nextRow hrows y hy, Option.map_some, Option.getD_some,
    List.getElem?_range (Nat.lt_succ_of_le hx)]

/-- The sums up to the far and the near corner of a window count the window once more than
the sums up to the other two corners. -/
theorem windowSum_corners (rows : List (List Nat)) (x y w h : Nat) :
    windowSum rows 0 0 (x + w) (y + h) + windowSum rows 0 0 x y =
      windowSum rows 0 0 (x + w) y + windowSum rows 0 0 x (y + h) + windowSum rows x y w h := by
  -- split the corners at column `x` and row `y`
  have hcorner := windowSum_add_height rows 0 0 (x + w) y h
  have htop := windowSum_add_width rows 0 0 x w y
  have hbottom := windowSum_add_width rows 0 y x w h
  have hleft := windowSum_add_height rows 0 0 x y h
  simp only [Nat.zero_add] at hcorner htop hbottom hleft
  omega

/-- The four look-ups of a window inside the table give the sum over the window. -/
theorem window_table {W : Nat} {rows : List (List Nat)} (hrows : ∀ r ∈ rows, r.length = W)
    {x y w h : Nat} (hx : x + w ≤ W) (hy : y + h ≤ rows.length) :
    window (table W rows) x y w h = windowSum rows x y w h := by
  unfold window
  rw [entry_table hrows hx hy, entry_table hrows hx (by omega), entry_table hrows (by omega) hy,
    entry_table hrows (by omega) (by omega)]
  have hcorners := windowSum_corners rows x y w h
  omega

/-! ## Bounds -/

theorem cell_le {rows : List (List Nat)} {M : Nat} (h : ∀ r ∈ rows, ∀ v ∈ r, v ≤ M) (x y : Nat) :
    cell rows x y ≤ M := by
  unfold cell
  simp only [List.getD_eq_getElem?_getD]
  cases hr : rows[y]? with
  | none => simp
  | some r =>
    cases hv : r[x]? with
    | none => simp [hv]
    | some v => simpa [hv] using h r (List.mem_of_getElem? hr) v (List.mem_of_getElem? hv)

/-- A window of values at most `M` sums to at most its area times `M`. -/
theorem windowSum_le {rows : List (List Nat)} {M : Nat} (hM : ∀ x y, cell rows x y ≤ M)
    (x y w h : Nat) : windowSum rows x y w h ≤ w * h * M := by
  calc windowSum rows x y w h ≤ ∑ _j ∈ Finset.range h, ∑ _i ∈ Finset.range w, M :=
        Finset.sum_le_sum fun j _ => Finset.sum_le_sum fun i _ => hM _ _
    _ = w * h * M := by
      simp only [Finset.sum_const, Finset.card_range, smul_eq_mul]
      ring

theorem windowSum_mono (rows : List (List Nat)) (x y : Nat) {w w' h h' : Nat} (hw : w ≤ w')
    (hh : h ≤ h') : windowSum rows x y w h ≤ windowSum rows x y w' h' := by
  obtain ⟨dw, rfl⟩ := Nat.exists_eq_add_of_le hw
  obtain ⟨dh, rfl⟩ := Nat.exists_eq_add_of_le hh
  rw [windowSum_add_height, windowSum_add_width]
  omega

/-- Every value the table of rows of width `W` holds is at most the sum of all the rows. -/
theorem le_of_mem_scanl {W : Nat} {rows : List (List Nat)} (hrows : ∀ r ∈ rows, r.length = W)
    {t : List Nat} (ht : t ∈ rows.scanl nextRow (List.replicate (W + 1) 0)) {v : Nat}
    (hv : v ∈ t) : v ≤ windowSum rows 0 0 W rows.length := by
  obtain ⟨y, hy⟩ := List.mem_iff_getElem?.1 ht
  have hyl : y ≤ rows.length := by
    have hlt := (List.getElem?_eq_some_iff.1 hy).1
    rw [List.length_scanl] at hlt
    omega
  rw [scanl_nextRow hrows y hyl, Option.some_inj] at hy
  subst hy
  obtain ⟨x, hx, rfl⟩ := List.mem_map.1 hv
  exact windowSum_mono rows 0 0 (Nat.lt_succ_iff.mp (List.mem_range.1 hx)) hyl

end SummedArea

end Runbook
