import Mathlib
import Runbook.Proofs.Picture.AreaSums
import Runbook.Proofs.Picture.Matching
import Runbook.Proofs.Number.ExactIntegers
/-!
# Summed-area tables filled in binary64 are exact

The matcher keeps its summed-area tables in natural numbers. `BinarySums` fills them the
way a binary64 program does: levels and squares rounded to floats, running sums and
entries added in binary64, a window read back as `((A - B) - C) + D`. When the picture's
area times `255 ^ 2` is below `2 ^ 53`, every value this touches is an integer below
`2 ^ 53`, each operation is exact (`Binary64.ofNat_add`), and by induction on the rows the
binary64 tables are the exact ones rounded entry by entry.

Main statement: `Picture.Gray.exactAreaSums`.
-/

namespace Runbook

open Binary64

namespace SummedArea

/-! ## The binary64 fill -/

/-- The running sums of a row of floats, each the last one plus the next value. -/
def floatRunningSums (row : List Float) : List Float :=
  (row.foldl (fun (acc : List Float × Float) v => ((acc.2 + v) :: acc.1, acc.2 + v)) ([], 0.0)).1.reverse

/-- The next table row: `0`, then the row above plus the running sums of a row of floats. -/
def floatNextRow (above row : List Float) : List Float :=
  0.0 :: List.zipWith (· + ·) above.tail (floatRunningSums row)

/-- The table of rows of floats, each of width `w`. -/
def floatTable (w : Nat) (rows : List (List Float)) : Array (Array Float) :=
  ((rows.scanl floatNextRow (List.replicate (w + 1) 0.0)).map List.toArray).toArray

/-- An entry of a table of floats, `0` outside it. -/
def floatEntry (t : Array (Array Float)) (x y : Nat) : Float :=
  (t.getD y #[]).getD x 0.0

/-- The window of width `w` and height `h` at column `x`, row `y`: bottom right, less top
right, less bottom left, plus top left, in that order. -/
def floatWindow (t : Array (Array Float)) (x y w h : Nat) : Float :=
  floatEntry t (x + w) (y + h) - floatEntry t (x + w) y - floatEntry t x (y + h) + floatEntry t x y

end SummedArea

/-- The summed-area tables of a picture's levels and of their squares, filled in binary64. -/
structure BinarySums where
  sum : Array (Array Float)
  sumSq : Array (Array Float)

/-- The binary64 tables of a picture: each level rounded to a float, and squared in
binary64. -/
def BinarySums.ofPicture (p : Picture) : BinarySums where
  sum := SummedArea.floatTable p.width (p.rows.map (·.map ofNat))
  sumSq := SummedArea.floatTable p.width (p.rows.map (·.map fun v => ofNat v * ofNat v))

/-- The sums of the levels and of their squares over a window. -/
def BinarySums.window (t : BinarySums) (x y w h : Nat) : Float × Float :=
  (SummedArea.floatWindow t.sum x y w h, SummedArea.floatWindow t.sumSq x y w h)

namespace SummedArea

/-! ## Each step of the fill is exact -/

theorem foldl_floatRunningSums (row acc : List Nat) (s : Nat) (h : s + row.sum < 2 ^ 53) :
    ((row.map ofNat).foldl (fun (acc : List Float × Float) v => ((acc.2 + v) :: acc.1, acc.2 + v))
        (acc.map ofNat, ofNat s)).1 =
      (row.foldl (fun (acc : List Nat × Nat) v => ((acc.2 + v) :: acc.1, acc.2 + v))
        (acc, s)).1.map ofNat := by
  induction row generalizing acc s with
  | nil => rfl
  | cons v row ih =>
    rw [List.sum_cons] at h
    simp only [List.map_cons, List.foldl_cons]
    rw [ofNat_add (by omega), ← List.map_cons]
    exact ih _ _ (by omega)

/-- The running sums of a row of naturals with a total below `2 ^ 53`, in binary64, are the
exact running sums. -/
theorem floatRunningSums_map {row : List Nat} (h : row.sum < 2 ^ 53) :
    floatRunningSums (row.map ofNat) = (runningSums row).map ofNat := by
  have hinit : (([] : List Float), (0.0 : Float)) = (([] : List Nat).map ofNat, ofNat 0) := by
    rw [ofNat_zero]
    rfl
  rw [floatRunningSums, runningSums, hinit, foldl_floatRunningSums _ _ _ (by omega),
    List.map_reverse]

theorem zipWith_add_map : ∀ (l₁ l₂ : List Nat),
    (∀ v ∈ List.zipWith (· + ·) l₁ l₂, v < 2 ^ 53) →
      List.zipWith (· + ·) (l₁.map ofNat) (l₂.map ofNat) = (List.zipWith (· + ·) l₁ l₂).map ofNat
  | [], _, _ => by simp
  | _ :: _, [], _ => by simp
  | a :: l₁, b :: l₂, h => by
    simp only [List.map_cons, List.zipWith_cons_cons] at h ⊢
    rw [ofNat_add (h _ (by simp)), zipWith_add_map l₁ l₂ fun v hv => h v (by simp [hv])]

/-- One binary64 fill step on naturals is the exact step, while the new row's values and the
picture row's total are below `2 ^ 53`. -/
theorem floatNextRow_map {above row : List Nat} (hsum : row.sum < 2 ^ 53)
    (h : ∀ v ∈ nextRow above row, v < 2 ^ 53) :
    floatNextRow (above.map ofNat) (row.map ofNat) = (nextRow above row).map ofNat := by
  rw [floatNextRow, nextRow, floatRunningSums_map hsum, ← List.map_tail,
    zipWith_add_map _ _ fun v hv => h v (List.mem_cons_of_mem _ hv), List.map_cons, ofNat_zero]

/-- The binary64 fill of rows of naturals is the exact fill, row by row, while every table
value and every row's total are below `2 ^ 53`. -/
theorem scanl_floatNextRow : ∀ (rows : List (List Nat)) (init : List Nat),
    (∀ r ∈ rows, r.sum < 2 ^ 53) → (∀ t ∈ rows.scanl nextRow init, ∀ v ∈ t, v < 2 ^ 53) →
      (rows.map (·.map ofNat)).scanl floatNextRow (init.map ofNat) =
        (rows.scanl nextRow init).map (·.map ofNat)
  | [], init, _, _ => by simp
  | r :: rows, init, hsum, hval => by
    have hnext : nextRow init r ∈ (r :: rows).scanl nextRow init := by
      rw [List.scanl_cons]
      cases rows <;> simp
    rw [List.map_cons, List.scanl_cons, List.scanl_cons, List.map_cons,
      floatNextRow_map (hsum r (by simp)) (hval _ hnext),
      scanl_floatNextRow rows (nextRow init r) (fun r' hr' => hsum r' (by simp [hr']))
        fun t ht => hval t (by rw [List.scanl_cons]; exact List.mem_cons_of_mem _ ht)]

theorem floatTable_map {W : Nat} {rows : List (List Nat)} (hsum : ∀ r ∈ rows, r.sum < 2 ^ 53)
    (hval : ∀ t ∈ rows.scanl nextRow (List.replicate (W + 1) 0), ∀ v ∈ t, v < 2 ^ 53) :
    floatTable W (rows.map (·.map ofNat)) = (table W rows).map (·.map ofNat) := by
  have hzero : List.replicate (W + 1) (0.0 : Float) = (List.replicate (W + 1) 0).map ofNat := by
    rw [List.map_replicate, ofNat_zero]
  rw [floatTable, table, hzero, scanl_floatNextRow _ _ hsum hval]
  simp

@[simp]
theorem floatEntry_map (t : Array (Array Nat)) (x y : Nat) :
    floatEntry (t.map (·.map ofNat)) x y = ofNat (entry t x y) := by
  unfold floatEntry entry
  simp only [Array.getD_eq_getD_getElem?, Array.getElem?_map]
  cases t[y]? with
  | none => simp [ofNat_zero]
  | some r => cases hx : r[x]? <;> simp [hx, ofNat_zero]

/-- A window of the exact table, read in binary64, is exact: its partial results lie between
minus and plus its largest corner. -/
theorem floatWindow_map {W : Nat} {rows : List (List Nat)} (hrows : ∀ r ∈ rows, r.length = W)
    {x y w h : Nat} (hx : x + w ≤ W) (hy : y + h ≤ rows.length)
    (hbound : windowSum rows 0 0 (x + w) (y + h) < 2 ^ 53) :
    floatWindow ((table W rows).map (·.map ofNat)) x y w h = ofNat (windowSum rows x y w h) := by
  have hcorners := windowSum_corners rows x y w h
  have hB := windowSum_mono rows 0 0 (le_refl (x + w)) (Nat.le_add_right y h)
  have hC := windowSum_mono rows 0 0 (Nat.le_add_right x w) (le_refl (y + h))
  have hD := windowSum_mono rows 0 0 (le_refl x) (Nat.le_add_right y h)
  unfold floatWindow
  simp only [floatEntry_map]
  rw [entry_table hrows hx hy, entry_table hrows hx (by omega), entry_table hrows (by omega) hy,
    entry_table hrows (by omega) (by omega)]
  have hA := holds_ofNat hbound
  have hAB := hA.sub (holds_ofNat (lt_of_le_of_lt hB hbound)) (by omega) (by omega) (by omega)
  have hABC := hAB.sub (holds_ofNat (lt_of_le_of_lt hC hbound)) (by omega) (by omega) (by omega)
  have hwin := hABC.add (holds_ofNat (show windowSum rows 0 0 x y < 2 ^ 53 by omega))
    (by omega) (by omega) (by omega)
  have hexact := holds_ofNat (show windowSum rows x y w h < 2 ^ 53 by omega)
  rw [show ((windowSum rows x y w h : Nat) : Int) =
    windowSum rows 0 0 (x + w) (y + h) - windowSum rows 0 0 (x + w) y -
      windowSum rows 0 0 x (y + h) + windowSum rows 0 0 x y by omega] at hexact
  exact hwin.eq hexact

/-! ## Tables of bounded values -/

/-- Rows of width `W` and values at most `M` whose area times `M` is below `2 ^ 53`: every
sum over a rectangle inside them is below `2 ^ 53`. -/
structure Bounded (W M : Nat) (rows : List (List Nat)) : Prop where
  row_length : ∀ r ∈ rows, r.length = W
  le : ∀ r ∈ rows, ∀ v ∈ r, v ≤ M
  area_lt : W * rows.length * M < 2 ^ 53

namespace Bounded

variable {W M : Nat} {rows : List (List Nat)} (hb : Bounded W M rows)
include hb

theorem total_lt : windowSum rows 0 0 W rows.length < 2 ^ 53 :=
  lt_of_le_of_lt (windowSum_le (cell_le hb.le) _ _ _ _) hb.area_lt

theorem sum_lt {r : List Nat} (hr : r ∈ rows) : r.sum < 2 ^ 53 := by
  -- a row sums to at most its width times `M`, and it is one of the rows
  have hlen : 1 ≤ rows.length := List.length_pos_of_mem hr
  calc r.sum ≤ r.length * M := by simpa using List.sum_le_card_nsmul r M (hb.le r hr)
    _ = W * 1 * M := by rw [hb.row_length r hr, Nat.mul_one]
    _ ≤ W * rows.length * M := Nat.mul_le_mul_right M (Nat.mul_le_mul_left W hlen)
    _ < 2 ^ 53 := hb.area_lt

/-- Bounded rows filled in binary64 give the exact table rounded entry by entry. -/
theorem floatTable_eq : floatTable W (rows.map (·.map ofNat)) = (table W rows).map (·.map ofNat) :=
  floatTable_map (fun _ hr => hb.sum_lt hr)
    fun _ ht _ hv => lt_of_le_of_lt (le_of_mem_scanl hb.row_length ht hv) hb.total_lt

/-- A window inside bounded rows, read from their binary64 table, is the exact sum over it. -/
theorem floatWindow_eq {x y w h : Nat} (hx : x + w ≤ W) (hy : y + h ≤ rows.length) :
    floatWindow (floatTable W (rows.map (·.map ofNat))) x y w h = ofNat (windowSum rows x y w h) := by
  rw [hb.floatTable_eq]
  exact floatWindow_map hb.row_length hx hy
    (lt_of_le_of_lt (windowSum_mono rows 0 0 hx hy) hb.total_lt)

end Bounded

theorem cell_squares (rows : List (List Nat)) (x y : Nat) :
    cell (rows.map fun r => r.map fun v => v * v) x y = cell rows x y ^ 2 := by
  unfold cell
  simp only [List.getD_eq_getElem?_getD, List.getElem?_map]
  cases rows[y]? with
  | none => simp
  | some r => cases hv : r[x]? <;> simp [hv, sq]

end SummedArea

open SummedArea

/-! ## The tables of a gray picture -/

theorem Picture.level_grid (p : Picture) (x y : Nat) : level p.grid x y = cell p.rows x y := by
  unfold level Picture.grid cell
  simp only [Array.getD_eq_getD_getElem?, List.getElem?_toArray, List.getElem?_map,
    List.getD_eq_getElem?_getD]
  cases p.rows[y]? <;> simp

theorem Picture.windowSum_rows (p : Picture) (x y w h : Nat) :
    windowSum p.rows x y w h =
      ∑ j ∈ Finset.range h, ∑ i ∈ Finset.range w, level p.grid (x + i) (y + j) := by
  simp only [windowSum, Picture.level_grid]

theorem Picture.windowSum_squareRows (p : Picture) (x y w h : Nat) :
    windowSum (p.rows.map fun r => r.map fun v => v * v) x y w h =
      ∑ j ∈ Finset.range h, ∑ i ∈ Finset.range w, level p.grid (x + i) (y + j) ^ 2 := by
  simp only [windowSum, cell_squares, Picture.level_grid]

/-- Squaring a byte in binary64 is exact. -/
theorem Picture.Gray.floatSquares {p : Picture} (hp : p.Gray) :
    p.rows.map (·.map fun v => ofNat v * ofNat v) =
      (p.rows.map fun r => r.map fun v => v * v).map (·.map ofNat) := by
  rw [List.map_map]
  refine List.map_congr_left fun r hr => ?_
  rw [Function.comp_apply, List.map_map]
  refine List.map_congr_left fun v hv => ?_
  have hv := hp.level_lt r hr v hv
  exact ofNat_mul (by omega) (by omega) (by nlinarith)

theorem Picture.Gray.bounded_levels {p : Picture} (hp : p.Gray)
    (hbound : p.width * p.height * 255 ^ 2 < 2 ^ 53) : Bounded p.width 255 p.rows where
  row_length := hp.row_length
  le r hr v hv := by
    have := hp.level_lt r hr v hv
    omega
  area_lt := by
    rw [hp.rows_length]
    exact lt_of_le_of_lt (Nat.mul_le_mul_left _ (by norm_num)) hbound

theorem Picture.Gray.bounded_squares {p : Picture} (hp : p.Gray)
    (hbound : p.width * p.height * 255 ^ 2 < 2 ^ 53) :
    Bounded p.width (255 ^ 2) (p.rows.map fun r => r.map fun v => v * v) where
  row_length := by simpa using hp.row_length
  le := by
    simp only [List.mem_map, forall_exists_index, and_imp, forall_apply_eq_imp_iff₂]
    intro r hr v hv
    have := hp.level_lt r hr v hv
    nlinarith
  area_lt := by simpa only [List.length_map, hp.rows_length] using hbound

/-- What the summed-area tables of a picture give. The exact tables hold at every corner
inside the picture the sums of the levels and of their squares above and left of it. The
binary64 tables are the exact ones rounded entry by entry, their windows are the exact sums
over the window, and so are the sums the matcher scores a placement with, the exact window
sums rounded once. -/
structure Picture.ExactAreaSums (p : Picture) : Prop where
  entry_levelTable : ∀ x ≤ p.width, ∀ y ≤ p.height,
    entry p.levelTable x y = ∑ j ∈ Finset.range y, ∑ i ∈ Finset.range x, level p.grid i j
  entry_squareTable : ∀ x ≤ p.width, ∀ y ≤ p.height,
    entry p.squareTable x y = ∑ j ∈ Finset.range y, ∑ i ∈ Finset.range x, level p.grid i j ^ 2
  sum_eq : (BinarySums.ofPicture p).sum = p.levelTable.map (·.map ofNat)
  sumSq_eq : (BinarySums.ofPicture p).sumSq = p.squareTable.map (·.map ofNat)
  window_eq : ∀ x y w h, x + w ≤ p.width → y + h ≤ p.height →
    (BinarySums.ofPicture p).window x y w h =
      (ofNat (∑ j ∈ Finset.range h, ∑ i ∈ Finset.range w, level p.grid (x + i) (y + j)),
        ofNat (∑ j ∈ Finset.range h, ∑ i ∈ Finset.range w, level p.grid (x + i) (y + j) ^ 2))
  matcher_window_eq : ∀ x y w h, x + w ≤ p.width → y + h ≤ p.height →
    (ofInt (window p.levelTable x y w h), ofInt (window p.squareTable x y w h)) =
      (BinarySums.ofPicture p).window x y w h

/-- The summed-area tables of a gray picture whose area times `255 ^ 2` is below `2 ^ 53` are
exact, filled in natural numbers or in binary64. -/
theorem Picture.Gray.exactAreaSums {p : Picture} (hp : p.Gray)
    (hbound : p.width * p.height * 255 ^ 2 < 2 ^ 53) : p.ExactAreaSums := by
  have hheight := hp.rows_length
  have hlev := hp.bounded_levels hbound
  have hsq := hp.bounded_squares hbound
  have hsqHeight : (p.rows.map fun r => r.map fun v => v * v).length = p.height := by
    rw [List.length_map, hheight]
  -- the binary64 windows, from which the matcher's sums follow
  have hwindow : ∀ x y w h, x + w ≤ p.width → y + h ≤ p.height →
      (BinarySums.ofPicture p).window x y w h =
        (ofNat (windowSum p.rows x y w h),
          ofNat (windowSum (p.rows.map fun r => r.map fun v => v * v) x y w h)) := by
    intro x y w h hx hy
    simp only [BinarySums.window, BinarySums.ofPicture]
    rw [hlev.floatWindow_eq hx (by omega), hp.floatSquares, hsq.floatWindow_eq hx (by omega)]
  refine ⟨fun x hx y hy => ?_, fun x hx y hy => ?_, hlev.floatTable_eq, ?_,
    fun x y w h hx hy => ?_, fun x y w h hx hy => ?_⟩
  · rw [Picture.levelTable, entry_table hlev.row_length hx (by omega)]
    simpa using p.windowSum_rows 0 0 x y
  · rw [Picture.squareTable, entry_table hsq.row_length hx (by omega)]
    simpa using p.windowSum_squareRows 0 0 x y
  · rw [BinarySums.ofPicture, hp.floatSquares]
    exact hsq.floatTable_eq
  · rw [hwindow x y w h hx hy, p.windowSum_rows, p.windowSum_squareRows]
  · rw [hwindow x y w h hx hy, Picture.levelTable, Picture.squareTable,
      window_table hlev.row_length hx (by omega), window_table hsq.row_length hx (by omega),
      ofInt_natCast, ofInt_natCast]

theorem exactAreaSums_strip :
    Picture.Gray ⟨2, 1, [[7, 9]]⟩ ∧ 2 * 1 * 255 ^ 2 < 2 ^ 53 ∧
      Picture.ExactAreaSums ⟨2, 1, [[7, 9]]⟩ :=
  have hp : Picture.Gray ⟨2, 1, [[7, 9]]⟩ := ⟨rfl, by decide, by decide, by decide, by decide⟩
  ⟨hp, by norm_num, Picture.Gray.exactAreaSums hp (by norm_num)⟩

end Runbook
