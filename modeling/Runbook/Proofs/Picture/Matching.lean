import Mathlib
import Runbook.Picture.Match
import Runbook.Proofs.Number.FloatArithmetic
/-!
# Template matching finds the first best placement

The matcher scores every placement of a template inside a picture and keeps the first, in
row-major order, with the highest score. The scores are binary64 values: levels are bytes,
so every sum stays finite, energies are sums of squares, and the score is a clamped
quotient by a positive square root, never NaN and within `[-1, 1]`. Scores that are no NaN
compare, so the scan's strict comparison keeps the first best placement
(`bestPlacement_firstBest`), and every read lies inside the picture (`readsInside`).

Main statement: `findTemplate_first_best`.
-/

namespace Runbook

open Float.Model Float.Model.UnpackedFloat Binary64

/-! ## The score of a placement -/

/-- The number of template levels as a float, `tw * th` rounded. -/
def Picture.levelCount (t : Picture) : Float := Binary64.ofNat t.width * Binary64.ofNat t.height

/-- The mean of the template's levels. -/
def Picture.levelMean (t : Picture) : Float :=
  Binary64.ofNat (t.rows.flatten.foldl (· + ·) 0) / t.levelCount

/-- The template's levels less their mean, row after row. -/
def Picture.centredLevels (t : Picture) : Array Float :=
  (t.rows.flatten.map fun v => Binary64.ofNat v - t.levelMean).toArray

/-- The energy of the centred template levels, summed in row order. -/
def Picture.templateEnergy (t : Picture) : Float :=
  t.centredLevels.foldl (fun acc c => acc + c * c) 0.0

/-- The summed-area table of a picture's levels. -/
def Picture.levelTable (p : Picture) : Array (Array Nat) := SummedArea.table p.width p.rows

/-- The summed-area table of a picture's squared levels. -/
def Picture.squareTable (p : Picture) : Array (Array Nat) :=
  SummedArea.table p.width (p.rows.map fun r => r.map fun v => v * v)

/-- The score of the template placed with its top-left corner at column `x`, row `y`. -/
def placementScore (template haystack : Picture) (x y : Nat) : Float :=
  let cross := crossSum template.centredLevels template.width template.height haystack.grid x y
  let s := Binary64.ofInt (SummedArea.window haystack.levelTable x y template.width template.height)
  let s2 :=
    Binary64.ofInt (SummedArea.window haystack.squareTable x y template.width template.height)
  let e := s2 - s * s / template.levelCount
  correlation cross template.templateEnergy (if e > 0.0 then e else 0.0)

/-- The placements of a `tw × th` template inside a `hw × hh` picture, rows first. -/
def placements (tw th hw hh : Nat) : List (Nat × Nat) :=
  (List.range (hh - th + 1)).flatMap fun y => (List.range (hw - tw + 1)).map fun x => (x, y)

/-- One step of the scan: a placement replaces the best so far only with a strictly higher
score. -/
def bestStep (score : Nat × Nat → Float) (best : Option Placement) (p : Nat × Nat) :
    Option Placement :=
  let c := score p
  match best with
  | some b => if c > b.confidence then some ⟨p.1, p.2, c⟩ else some b
  | none => some ⟨p.1, p.2, c⟩

/-- The best placement of a scan over a list of placements. -/
def bestPlacement (score : Nat × Nat → Float) (l : List (Nat × Nat)) : Option Placement :=
  l.foldl (bestStep score) none

/-- The matcher is its two guards, then a scan of `bestStep` over the placements, rows first. -/
theorem findTemplate_eq (template haystack : Picture) :
    findTemplate template haystack =
      if template.width = 0 ∨ template.height = 0 then
        .error (matchFault "template image is empty")
      else if template.width > haystack.width ∨ template.height > haystack.height then
        .error (matchFault ("template " ++ toString template.width ++ "x" ++
          toString template.height ++ " is larger than image " ++ toString haystack.width ++ "x" ++
          toString haystack.height))
      else
        match bestPlacement (fun p => placementScore template haystack p.1 p.2)
            (placements template.width template.height haystack.width haystack.height) with
        | some b => .ok b
        | none => .error (matchFault "no candidate positions") := by
  simp only [findTemplate, bestPlacement, placements, List.foldl_flatMap, List.foldl_map]
  rfl

/-! ## The scan keeps the first best placement -/

/-- What the scan over `l` keeps: a placement of `l` scored by `score`, which no placement
of `l` beats and every placement before it scores strictly less than. -/
structure FirstBest (score : Nat × Nat → Float) (l : List (Nat × Nat)) (b : Placement) :
    Prop where
  confidence_eq : b.confidence = score (b.x, b.y)
  le : ∀ p ∈ l, score p ≤ b.confidence
  first : ∃ pre post, l = pre ++ (b.x, b.y) :: post ∧ ∀ p ∈ pre, score p < b.confidence

theorem bestPlacement_snoc (score : Nat × Nat → Float) (l : List (Nat × Nat)) (p : Nat × Nat) :
    bestPlacement score (l ++ [p]) = bestStep score (bestPlacement score l) p := by
  simp [bestPlacement, List.foldl_append]

section Scan

variable {score : Nat × Nat → Float}

/-- A scan over placements whose scores are no NaN ends at the first best one. Step: a
placement that scores strictly higher than the best so far beats every earlier one, and
one that does not scores at most the best so far, since scores that are no NaN compare. -/
theorem bestPlacement_firstBest {l : List (Nat × Nat)}
    (hnan : ∀ p ∈ l, (score p).isNaN = false) (hl : l ≠ []) :
    ∃ b, bestPlacement score l = some b ∧ FirstBest score l b := by
  induction l using List.reverseRecOn with
  | nil => exact absurd rfl hl
  | append_singleton l a ih =>
    have ha : (score a).isNaN = false := hnan a (by simp)
    rw [bestPlacement_snoc]
    by_cases hl0 : l = []
    · -- the first placement is the best so far
      subst hl0
      refine ⟨⟨a.1, a.2, score a⟩, rfl, rfl, ?_, [], [], rfl, by simp⟩
      intro p hp
      simp only [List.nil_append, List.mem_singleton] at hp
      subst hp
      exact float_le_refl ha
    · obtain ⟨b, hb, hfirst⟩ := ih (fun p hp => hnan p (by simp [hp])) hl0
      obtain ⟨pre, post, hsplit, hpre⟩ := hfirst.first
      have hbnan : b.confidence.isNaN = false := by
        rw [hfirst.confidence_eq]
        exact hnan _ (by simp [hsplit])
      rw [hb]
      by_cases hgt : b.confidence < score a
      · -- a strictly higher score replaces the best and beats every earlier placement
        have hbeat : ∀ p ∈ l, score p < score a := fun p hp =>
          float_lt_of_le_of_lt (hnan p (by simp [hp])) hbnan ha (hfirst.le p hp) hgt
        refine ⟨⟨a.1, a.2, score a⟩, by simp [bestStep, hgt], rfl, ?_, l, [], rfl, hbeat⟩
        intro p hp
        rcases List.mem_append.1 hp with hp | hp
        · exact float_le_of_lt (hnan p (by simp [hp])) ha (hbeat p hp)
        · simp only [List.mem_singleton] at hp
          subst hp
          exact float_le_refl ha
      · -- otherwise the best stays, and the new placement scores at most as much
        refine ⟨b, by simp [bestStep, hgt], hfirst.confidence_eq, ?_, pre, post ++ [a],
          by simp [hsplit], hpre⟩
        intro p hp
        rcases List.mem_append.1 hp with hp | hp
        · exact hfirst.le p hp
        · simp only [List.mem_singleton] at hp
          subst hp
          exact float_le_of_not_lt hbnan ha hgt

end Scan

/-! ## The score lies in `[-1, 1]` -/

theorem unpack_zero : (0.0 : Float).toModel.unpack = .zero .positive := rfl

theorem unpack_flatness :
    flatness.toModel.unpack = .finite .positive 4835703278458517 (-82) (by decide) := rfl

theorem isNaN_float_one : (1.0 : Float).isNaN = false := rfl

theorem isNaN_float_neg_one : (-1.0 : Float).isNaN = false := rfl

theorem float_neg_one_le_one : (-1.0 : Float) ≤ 1.0 := by decide

theorem float_neg_one_le_zero : (-1.0 : Float) ≤ 0.0 := by decide

theorem float_zero_le_one : (0.0 : Float) ≤ 1.0 := by decide

/-- Clamping a float that is no NaN into `[-1, 1]` lands there. -/
theorem clampFloat_mem {q : Float} (hq : q.isNaN = false) :
    (clampFloat (-1.0) 1.0 q).isNaN = false ∧ -1.0 ≤ clampFloat (-1.0) 1.0 q ∧
      clampFloat (-1.0) 1.0 q ≤ 1.0 := by
  unfold clampFloat
  split_ifs with hlo hhi
  · exact ⟨isNaN_float_neg_one, float_le_refl isNaN_float_neg_one, float_neg_one_le_one⟩
  · exact ⟨isNaN_float_one, float_neg_one_le_one, float_le_refl isNaN_float_one⟩
  · exact ⟨hq, float_le_of_not_lt hq isNaN_float_neg_one hlo,
      float_le_of_not_lt isNaN_float_one hq hhi⟩

/-- A float above zero has sign `+`. -/
theorem signed_of_zero_lt {e : Float} (h : 0.0 < e) : Signed .positive e.toModel.unpack := by
  rw [float_lt_iff, show (0.0 : Float).toModel.unpack = .zero .positive from rfl] at h
  generalize e.toModel.unpack = u at h ⊢
  rcases u with ⟨_ | _⟩ | _ | ⟨_ | _⟩ | ⟨_ | _, m, x, hm⟩ <;>
    simp [UnpackedFloat.lt, UnpackedFloat.compare, Signed] at h ⊢

/-- An energy of sign `+` that is not below `1e-9` is positive, with an exponent of at least
`-82`, the exponent of `1e-9`. -/
theorem positiveFrom_of_not_lt_flatness {u : Float} (hs : Signed .positive u.toModel.unpack)
    (h : ¬u < flatness) : PositiveFrom (-82) u.toModel.unpack := by
  rw [float_lt_iff_orderKey hs.isNaN rfl, unpack_flatness, not_lt] at h
  obtain hz | ⟨m, e, hm, hu⟩ | hinf := hs.shape
  · rw [hz] at h
    exact absurd h (by decide)
  · rw [hu] at h ⊢
    simp only [orderKey, Prod.Lex.toLex_le_toLex] at h
    show -82 ≤ e
    omega
  · rw [hinf]
    trivial

/-- The score of a placement is no NaN and lies in `[-1, 1]` when the cross sum is finite and
both energies have sign `+`. Two flat energies give `1` and one gives `0`; otherwise both are
at least `1e-9`, so their product does not underflow, its square root is positive and no
zero, and the quotient of the cross sum by it is no NaN before it is clamped. -/
theorem correlation_mem {cross te we : Float} {K : Int} (hcross : AtMost K cross.toModel.unpack)
    (hte : Signed .positive te.toModel.unpack) (hwe : Signed .positive we.toModel.unpack) :
    (correlation cross te we).isNaN = false ∧ -1.0 ≤ correlation cross te we ∧
      correlation cross te we ≤ 1.0 := by
  unfold correlation
  dsimp only
  split_ifs with hboth hone
  · exact ⟨isNaN_float_one, float_neg_one_le_one, float_le_refl isNaN_float_one⟩
  · exact ⟨rfl, float_neg_one_le_zero, float_zero_le_one⟩
  · rw [not_or] at hone
    have hpt := positiveFrom_of_not_lt_flatness hte hone.1
    have hpw := positiveFrom_of_not_lt_flatness hwe hone.2
    have hp := positiveFrom_float_mul (by norm_num) hpt hpw
    exact clampFloat_mem (isNaN_float_div hcross (positiveFrom_float_sqrt hp))

/-! ## Bounds on the quantities of a score -/

/-- A gray picture as the matcher receives one: `height` rows of `width` levels each, every
level a byte, and both sizes below `2 ^ 32`. -/
structure Picture.Gray (p : Picture) : Prop where
  rows_length : p.rows.length = p.height
  row_length : ∀ r ∈ p.rows, r.length = p.width
  level_lt : ∀ r ∈ p.rows, ∀ v ∈ r, v < 256
  width_lt : p.width < 2 ^ 32
  height_lt : p.height < 2 ^ 32

theorem Picture.Gray.flatten_length {p : Picture} (hp : p.Gray) :
    p.rows.flatten.length = p.width * p.height := by
  rw [List.length_flatten, List.map_congr_left hp.row_length, List.map_const',
    List.sum_replicate, smul_eq_mul, hp.rows_length, Nat.mul_comm]

theorem Picture.Gray.mem_flatten_lt {p : Picture} (hp : p.Gray) {v : Nat}
    (hv : v ∈ p.rows.flatten) : v < 256 := by
  obtain ⟨r, hr, hvr⟩ := List.mem_flatten.1 hv
  exact hp.level_lt r hr v hvr

/-- Every level a scan reads from a gray picture is a byte, also off the picture, where it
reads `0`. -/
theorem Picture.Gray.level_grid_lt {p : Picture} (hp : p.Gray) (x y : Nat) :
    level p.grid x y < 256 := by
  unfold level Picture.grid
  simp only [Array.getD_eq_getD_getElem?, List.getElem?_toArray, List.getElem?_map]
  cases hrow : p.rows[y]? with
  | none => simp
  | some r =>
    have hr : r ∈ p.rows := List.mem_of_getElem? hrow
    cases hv : r[x]? with
    | none => simp [hv]
    | some v => simpa [hv] using hp.level_lt r hr v (List.mem_of_getElem? hv)

section Template

variable {template : Picture} (ht : template.Gray) (hw : 0 < template.width)
  (hh : 0 < template.height)
include ht hw hh

theorem atLeast_levelCount : AtLeast 0 template.levelCount.toModel.unpack :=
  atLeast_ofNat_mul hw ht.width_lt hh ht.height_lt

omit hw hh in
/-- The levels of a template of fewer than `2 ^ 64` bytes sum to less than `2 ^ 72`. -/
theorem levelSum_lt : template.rows.flatten.foldl (· + ·) 0 < 2 ^ 72 := by
  rw [← List.sum_eq_foldl]
  have hle := List.sum_le_card_nsmul template.rows.flatten 255
    (fun v hv => Nat.lt_succ_iff.mp (ht.mem_flatten_lt hv))
  rw [ht.flatten_length, smul_eq_mul] at hle
  have hsize : template.width * template.height < 2 ^ 64 := by
    calc template.width * template.height < 2 ^ 32 * 2 ^ 32 :=
          Nat.mul_lt_mul'' ht.width_lt ht.height_lt
      _ = 2 ^ 64 := by rw [← Nat.pow_add]
  omega

/-- The mean of the template's levels is within `2 ^ 73`: a quotient of a sum below `2 ^ 72`
by a count of at least `1`. -/
theorem atMost_levelMean : AtMost 73 template.levelMean.toModel.unpack :=
  atMost_float_div (by norm_num) (by norm_num) (atMost_ofNat (levelSum_lt ht) (by norm_num))
    (atLeast_levelCount ht hw hh)

/-- A level less the mean is within `2 ^ 74`. -/
theorem atMost_of_mem_centred {c : Float}
    (hc : c ∈ template.rows.flatten.map fun v => Binary64.ofNat v - template.levelMean) :
    AtMost 74 c.toModel.unpack := by
  obtain ⟨v, hv, rfl⟩ := List.mem_map.1 hc
  have hv256 : v < 2 ^ 8 := ht.mem_flatten_lt hv
  exact atMost_float_sub (by norm_num) (by norm_num)
    ((atMost_ofNat hv256 (by norm_num)).mono (by norm_num)) (atMost_levelMean ht hw hh)

/-- Every centred level the cross sum reads is within `2 ^ 74`, also off the template, where
it reads `0`. -/
theorem atMost_centredLevels_getD (i : Nat) :
    AtMost 74 (template.centredLevels.getD i 0.0).toModel.unpack := by
  unfold Picture.centredLevels
  simp only [Array.getD_eq_getD_getElem?, List.getElem?_toArray]
  cases hc : (template.rows.flatten.map fun v => Binary64.ofNat v - template.levelMean)[i]? with
  | none =>
    rw [Option.getD_none, unpack_zero]
    trivial
  | some c => exact atMost_of_mem_centred ht hw hh (List.mem_of_getElem? hc)

/-- The template's energy, a sum of squares, has sign `+`. -/
theorem signed_templateEnergy : Signed .positive template.templateEnergy.toModel.unpack := by
  unfold Picture.templateEnergy Picture.centredLevels
  rw [List.foldl_toArray]
  refine @List.foldlRecOn _ _ (fun acc : Float => Signed .positive acc.toModel.unpack) _ _ _ ?_ ?_
  · rw [unpack_zero]
    rfl
  · intro acc hacc c hc
    exact signed_float_add hacc (signed_float_mul_self (atMost_of_mem_centred ht hw hh hc))

end Template

/-- A cross sum of levels below `2 ^ 8` against centred levels within `2 ^ 74` stays within
`2 ^ 200`: each term is within `2 ^ 82`, and adding so small a term to a sum within `2 ^ 200`
rounds back inside it, however many terms there are. -/
theorem atMost_crossSum {centred : Array Float}
    (hc : ∀ i, AtMost 74 (centred.getD i 0.0).toModel.unpack) {g : Array (Array Nat)}
    (hg : ∀ x y, level g x y < 2 ^ 8) (tw th x y : Nat) :
    AtMost 200 (crossSum centred tw th g x y).toModel.unpack := by
  have hstep : ∀ (acc : Float) (tx ty : Nat), AtMost 200 acc.toModel.unpack →
      AtMost 200 (acc + centred.getD (ty * tw + tx) 0.0 *
        Binary64.ofNat (level g (x + tx) (y + ty))).toModel.unpack := by
    intro acc tx ty hacc
    have hterm := atMost_float_mul (by norm_num) (by norm_num) (hc (ty * tw + tx))
      (atMost_ofNat (hg (x + tx) (y + ty)) (by norm_num))
    exact atMost_float_add_small (by norm_num) (by norm_num) (by norm_num) hacc hterm
  unfold crossSum
  -- Both loops keep the running sum within `2 ^ 200`.
  refine @List.foldlRecOn _ _ (fun acc : Float => AtMost 200 acc.toModel.unpack) _ _ _ ?_ ?_
  · rw [unpack_zero]
    trivial
  · intro acc hacc ty _
    refine @List.foldlRecOn _ _ (fun acc : Float => AtMost 200 acc.toModel.unpack) _ _ _ hacc ?_
    intro acc hacc tx _
    exact hstep acc tx ty hacc

/-- The window energy floored at zero has sign `+`. -/
theorem signed_floorZero (e : Float) :
    Signed .positive (if e > 0.0 then e else 0.0).toModel.unpack := by
  split_ifs with he
  · exact signed_of_zero_lt he
  · rw [unpack_zero]
    rfl

/-- Every placement of a gray template with levels in a gray picture scores no NaN, and a
score in `[-1, 1]`, wherever it is placed. -/
theorem placementScore_mem {template haystack : Picture} (ht : template.Gray)
    (hw : 0 < template.width) (hh : 0 < template.height) (hp : haystack.Gray) (x y : Nat) :
    (placementScore template haystack x y).isNaN = false ∧
      -1.0 ≤ placementScore template haystack x y ∧
      placementScore template haystack x y ≤ 1.0 := by
  unfold placementScore
  dsimp only
  exact correlation_mem
    (atMost_crossSum (atMost_centredLevels_getD ht hw hh) hp.level_grid_lt _ _ _ _)
    (signed_templateEnergy ht hw hh) (signed_floorZero _)

/-! ## Reads stay inside the pictures and tables -/

/-- Column `x` of row `y` lies inside the rows of `g`, so a read there is no default. -/
def Inside (g : Array (Array Nat)) (x y : Nat) : Prop := y < g.size ∧ x < (g.getD y #[]).size

theorem inside_of_mem {rows : List (List Nat)} {x y : Nat} (hy : y < rows.length)
    (hx : ∀ r ∈ rows, x < r.length) : Inside (rows.map List.toArray).toArray x y := by
  refine ⟨by simpa using hy, ?_⟩
  rw [Array.getD_eq_getD_getElem?, List.getElem?_toArray, List.getElem?_map,
    List.getElem?_eq_getElem hy, Option.map_some, Option.getD_some, List.size_toArray]
  exact hx _ (List.getElem_mem hy)

theorem Picture.Gray.inside_grid {p : Picture} (hp : p.Gray) {x y : Nat} (hx : x < p.width)
    (hy : y < p.height) : Inside p.grid x y :=
  inside_of_mem (hp.rows_length ▸ hy) fun r hr => hp.row_length r hr ▸ hx

namespace SummedArea

theorem length_foldl_runningSums (row : List Nat) (acc : List Nat × Nat) :
    (row.foldl (fun (acc : List Nat × Nat) v => ((acc.2 + v) :: acc.1, acc.2 + v)) acc).1.length =
      acc.1.length + row.length := by
  induction row generalizing acc with
  | nil => rfl
  | cons v row ih =>
    rw [List.foldl_cons, ih, List.length_cons, List.length_cons]
    omega

@[simp]
theorem length_runningSums (row : List Nat) : (runningSums row).length = row.length := by
  rw [runningSums, List.length_reverse, length_foldl_runningSums, List.length_nil, Nat.zero_add]

theorem length_nextRow {above row : List Nat} (h : above.length = row.length + 1) :
    (nextRow above row).length = row.length + 1 := by
  simp [nextRow, h]

/-- Every row of the table of rows of width `w` has `w + 1` entries. -/
theorem length_of_mem_scanl {w : Nat} {rows : List (List Nat)}
    (hrows : ∀ r ∈ rows, r.length = w) {init : List Nat} (hinit : init.length = w + 1) :
    ∀ r ∈ rows.scanl nextRow init, r.length = w + 1 := by
  induction rows generalizing init with
  | nil => simpa using hinit
  | cons row rows ih =>
    have hrow : row.length = w := hrows row (by simp)
    intro r hr
    rw [List.scanl_cons, List.mem_cons] at hr
    rcases hr with rfl | hr
    · exact hinit
    · exact ih (fun r hr => hrows r (by simp [hr])) (hrow ▸ length_nextRow (hrow ▸ hinit)) r hr

/-- Every corner of a window inside the picture lies inside its table. -/
theorem inside_table {w : Nat} {rows : List (List Nat)} (hrows : ∀ r ∈ rows, r.length = w)
    {x y : Nat} (hx : x ≤ w) (hy : y ≤ rows.length) : Inside (table w rows) x y := by
  refine inside_of_mem (by simpa using Nat.lt_succ_of_le hy) fun r hr => ?_
  rw [length_of_mem_scanl hrows (List.length_replicate) r hr]
  omega

end SummedArea

/-! ## The candidates, in row-major order -/

theorem mem_placements {tw th hw hh : Nat} {p : Nat × Nat} :
    p ∈ placements tw th hw hh ↔ p.1 ≤ hw - tw ∧ p.2 ≤ hh - th := by
  obtain ⟨x, y⟩ := p
  simp only [placements, List.mem_flatMap, List.mem_map, List.mem_range, Prod.mk.injEq]
  constructor
  · rintro ⟨y', hy', x', hx', rfl, rfl⟩
    omega
  · rintro ⟨hx, hy⟩
    exact ⟨y, by omega, x, by omega, rfl, rfl⟩

/-- Placement `p` comes before `q` in row-major order: on an earlier row, or on the same row
further left. -/
def RowMajorBefore (p q : Nat × Nat) : Prop := p.2 < q.2 ∨ p.2 = q.2 ∧ p.1 < q.1

theorem pairwise_placements (tw th hw hh : Nat) :
    (placements tw th hw hh).Pairwise RowMajorBefore := by
  rw [placements, List.pairwise_flatMap]
  refine ⟨fun y _ => ?_, ?_⟩
  · rw [List.pairwise_map]
    exact List.pairwise_lt_range.imp fun h => Or.inr ⟨rfl, h⟩
  · refine List.pairwise_lt_range.imp fun hy => ?_
    intro p hp q hq
    obtain ⟨_, _, rfl⟩ := List.mem_map.1 hp
    obtain ⟨_, _, rfl⟩ := List.mem_map.1 hq
    exact Or.inl hy

/-- In a list in row-major order, a member that comes before a split point lies in the part
before it. -/
theorem mem_left_of_rowMajorBefore {pre post : List (Nat × Nat)} {b p : Nat × Nat}
    (hl : (pre ++ b :: post).Pairwise RowMajorBefore) (hp : p ∈ pre ++ b :: post)
    (hpb : RowMajorBefore p b) : p ∈ pre := by
  have hafter : ∀ q ∈ post, RowMajorBefore b q :=
    (List.pairwise_cons.1 (List.pairwise_append.1 hl).2.1).1
  unfold RowMajorBefore at hafter hpb
  rcases List.mem_append.1 hp with hp | hp
  · exact hp
  · rcases List.mem_cons.1 hp with rfl | hp
    · omega
    · have := hafter p hp
      omega

/-! ## The matcher -/

/-- What the matcher returns for a template that fits: a placement inside the picture, scored
as placed, that no placement beats, that every placement before it in row-major order scores
strictly less than, and whose score is a number in `[-1, 1]`. -/
structure BestMatch (template haystack : Picture) (m : Placement) : Prop where
  x_le : m.x ≤ haystack.width - template.width
  y_le : m.y ≤ haystack.height - template.height
  confidence_eq : m.confidence = placementScore template haystack m.x m.y
  le : ∀ x ≤ haystack.width - template.width, ∀ y ≤ haystack.height - template.height,
    placementScore template haystack x y ≤ m.confidence
  lt_of_before : ∀ x ≤ haystack.width - template.width,
    ∀ y ≤ haystack.height - template.height, RowMajorBefore (x, y) (m.x, m.y) →
      placementScore template haystack x y < m.confidence
  isNaN_eq : m.confidence.isNaN = false
  neg_one_le : -1.0 ≤ m.confidence
  le_one : m.confidence ≤ 1.0

/-- Every read the score of the placement at `(x, y)` makes lies inside what it reads: the
centred template levels, the picture's levels under the template, and the four corners of
the window in both summed-area tables. -/
structure ReadsInside (template haystack : Picture) (x y : Nat) : Prop where
  centred : ∀ tx < template.width, ∀ ty < template.height,
    ty * template.width + tx < template.centredLevels.size
  grid : ∀ tx < template.width, ∀ ty < template.height, Inside haystack.grid (x + tx) (y + ty)
  levelTable : ∀ cx ∈ [x, x + template.width], ∀ cy ∈ [y, y + template.height],
    Inside haystack.levelTable cx cy
  squareTable : ∀ cx ∈ [x, x + template.width], ∀ cy ∈ [y, y + template.height],
    Inside haystack.squareTable cx cy

section Matcher

variable {template haystack : Picture}

theorem size_centredLevels (ht : template.Gray) :
    template.centredLevels.size = template.width * template.height := by
  rw [Picture.centredLevels, List.size_toArray, List.length_map, ht.flatten_length]

/-- Every placement of a template that fits reads only inside the template, the picture and
its tables. -/
theorem readsInside (ht : template.Gray) (hp : haystack.Gray)
    (hfw : template.width ≤ haystack.width) (hfh : template.height ≤ haystack.height)
    {x y : Nat} (hx : x ≤ haystack.width - template.width)
    (hy : y ≤ haystack.height - template.height) :
    ReadsInside template haystack x y where
  centred tx htx ty hty := by
    rw [size_centredLevels ht]
    calc ty * template.width + tx < (ty + 1) * template.width := by
          rw [Nat.succ_mul]
          omega
      _ ≤ template.height * template.width := Nat.mul_le_mul_right _ hty
      _ = template.width * template.height := Nat.mul_comm _ _
  grid tx htx ty hty := hp.inside_grid (by omega) (by omega)
  levelTable cx hcx cy hcy := by
    simp only [List.mem_cons, List.not_mem_nil, or_false] at hcx hcy
    exact SummedArea.inside_table hp.row_length (by omega) (by rw [hp.rows_length]; omega)
  squareTable cx hcx cy hcy := by
    simp only [List.mem_cons, List.not_mem_nil, or_false] at hcx hcy
    refine SummedArea.inside_table (fun r hr => ?_) (by omega)
      (by rw [List.length_map, hp.rows_length]; omega)
    obtain ⟨r, hr', rfl⟩ := List.mem_map.1 hr
    rw [List.length_map, hp.row_length r hr']

/-- An empty template, or one larger than the picture, is a matching fault. -/
theorem findTemplate_of_not_fits
    (h : template.width = 0 ∨ template.height = 0 ∨ haystack.width < template.width ∨
      haystack.height < template.height) :
    ∃ msg, findTemplate template haystack = .error (matchFault msg) := by
  rw [findTemplate_eq]
  by_cases h0 : template.width = 0 ∨ template.height = 0
  · exact ⟨_, if_pos h0⟩
  · rw [if_neg h0, if_pos (by omega)]
    exact ⟨_, rfl⟩

/-- A gray template that fits in a gray picture is found, at its first best placement: the
scan sees every placement, none of them scores NaN, and it keeps the first best. -/
theorem findTemplate_of_fits (ht : template.Gray) (hp : haystack.Gray) (hw : 0 < template.width)
    (hh : 0 < template.height) (hfw : template.width ≤ haystack.width)
    (hfh : template.height ≤ haystack.height) :
    ∃ m, findTemplate template haystack = .ok m ∧ BestMatch template haystack m := by
  have hnan : ∀ p ∈ placements template.width template.height haystack.width haystack.height,
      (placementScore template haystack p.1 p.2).isNaN = false :=
    fun p _ => (placementScore_mem ht hw hh hp p.1 p.2).1
  have hne : placements template.width template.height haystack.width haystack.height ≠ [] :=
    List.ne_nil_of_mem
      (mem_placements.2 ⟨Nat.zero_le _, Nat.zero_le _⟩ : ((0, 0) : Nat × Nat) ∈ _)
  obtain ⟨m, hm, hbest⟩ := bestPlacement_firstBest hnan hne
  refine ⟨m, ?_, ?_⟩
  · rw [findTemplate_eq, if_neg (by omega), if_neg (by omega), hm]
  obtain ⟨pre, post, hsplit, hpre⟩ := hbest.first
  have hmem := mem_placements.1 (hsplit ▸ List.mem_append_right pre List.mem_cons_self :
    (m.x, m.y) ∈ placements template.width template.height haystack.width haystack.height)
  have hrange := placementScore_mem ht hw hh hp m.x m.y
  have hsorted := hsplit ▸ pairwise_placements template.width template.height haystack.width
    haystack.height
  rw [← hbest.confidence_eq] at hrange
  exact {
    x_le := hmem.1
    y_le := hmem.2
    confidence_eq := hbest.confidence_eq
    le := fun x hx y hy => hbest.le (x, y) (mem_placements.2 ⟨hx, hy⟩)
    lt_of_before := fun x hx y hy hb =>
      hpre (x, y) (mem_left_of_rowMajorBefore hsorted (hsplit ▸ mem_placements.2 ⟨hx, hy⟩) hb)
    isNaN_eq := hrange.1
    neg_one_le := hrange.2.1
    le_one := hrange.2.2 }

/-- Matching a gray template in a gray picture fails exactly when the template is empty or
larger than the picture, and then with a matching fault. Otherwise it returns the first
placement in row-major order with the highest score, a number in `[-1, 1]`, and every
placement it scores reads only inside the template, the picture and its tables. -/
theorem findTemplate_first_best (ht : template.Gray) (hp : haystack.Gray) :
    ((∃ f, findTemplate template haystack = .error f) ↔ template.width = 0 ∨
        template.height = 0 ∨ haystack.width < template.width ∨
        haystack.height < template.height) ∧
      (∀ f, findTemplate template haystack = .error f → ∃ msg, f = matchFault msg) ∧
      ∀ m, findTemplate template haystack = .ok m → BestMatch template haystack m ∧
        ∀ x ≤ haystack.width - template.width, ∀ y ≤ haystack.height - template.height,
          ReadsInside template haystack x y := by
  by_cases hfit : template.width = 0 ∨ template.height = 0 ∨ haystack.width < template.width ∨
      haystack.height < template.height
  · -- the guards answer before any placement is scored
    obtain ⟨msg, hmsg⟩ := findTemplate_of_not_fits hfit
    rw [hmsg]
    refine ⟨iff_of_true ⟨_, rfl⟩ hfit, fun f hf => ?_, fun m hm => nomatch hm⟩
    cases hf
    exact ⟨msg, rfl⟩
  · obtain ⟨m, hm, hbest⟩ :=
      findTemplate_of_fits ht hp (by omega) (by omega) (by omega) (by omega)
    rw [hm]
    refine ⟨iff_of_false ?_ hfit, fun _ hf => ?_, fun m' hm' => ?_⟩
    · rintro ⟨_, hf⟩
      cases hf
    · cases hf
    cases hm'
    exact ⟨hbest, fun x hx y hy => readsInside ht hp (by omega) (by omega) hx hy⟩

theorem findTemplate_first_best_strip :
    Picture.Gray ⟨1, 1, [[7]]⟩ ∧ Picture.Gray ⟨2, 1, [[7, 9]]⟩ ∧
      ((∃ f, findTemplate ⟨1, 1, [[7]]⟩ ⟨2, 1, [[7, 9]]⟩ = .error f) ↔
        1 = 0 ∨ 1 = 0 ∨ 2 < 1 ∨ 1 < 1) ∧
      (∀ f, findTemplate ⟨1, 1, [[7]]⟩ ⟨2, 1, [[7, 9]]⟩ = .error f →
        ∃ msg, f = matchFault msg) ∧
      ∀ m, findTemplate ⟨1, 1, [[7]]⟩ ⟨2, 1, [[7, 9]]⟩ = .ok m →
        BestMatch ⟨1, 1, [[7]]⟩ ⟨2, 1, [[7, 9]]⟩ m ∧
        ∀ x ≤ 2 - 1, ∀ y ≤ 1 - 1, ReadsInside ⟨1, 1, [[7]]⟩ ⟨2, 1, [[7, 9]]⟩ x y :=
  have ht : Picture.Gray ⟨1, 1, [[7]]⟩ := ⟨rfl, by decide, by decide, by decide, by decide⟩
  have hp : Picture.Gray ⟨2, 1, [[7, 9]]⟩ :=
    ⟨rfl, by decide, by decide, by decide, by decide⟩
  ⟨ht, hp, findTemplate_first_best ht hp⟩

end Matcher

end Runbook
