import Runbook.Picture.SummedArea
import Runbook.Run.Fault
import Runbook.Files.Image
import Runbook.Number.Binary64
/-!
# Finding a template in a picture

The template is slid over every placement inside the picture, rows first, and each
placement is scored by the normalised cross-correlation of the template's levels, less
their mean, with the picture's levels under it. The score is computed in binary64 in a
fixed order: the template's centred levels and their energy, then per placement the cross
sum in row order, and the window's energy `Σp² - (Σp)² / n` from the summed-area tables,
floored at zero. Energies below `1e-9` count as flat: two flat sides score `1`, one flat
side `0`, else the cross sum over the square root of the energies' product, clamped to
`[-1, 1]`. A later placement replaces the best one only with a strictly higher score.
-/

namespace Runbook

/-- The best placement of a template: its top-left corner and its score. -/
structure Placement where
  x : Nat
  y : Nat
  confidence : Float

/-- The centre of a placement of a template of width `w` and height `h`. -/
def Placement.center (m : Placement) (w h : Nat) : Nat × Nat := (m.x + w / 2, m.y + h / 2)

/-- The fault of template matching. -/
def matchFault (message : String) : Fault := .failed "template matching" message

/-- Energies below this count as flat. -/
def flatness : Float := Binary64.nearest false 1 (Nat.pow 10 9)

/-- Clamps a float into `[lo, hi]`. -/
def clampFloat (lo hi x : Float) : Float := if x < lo then lo else if x > hi then hi else x

/-- The score of a placement from its cross sum and the two energies. -/
def correlation (cross templateEnergy windowEnergy : Float) : Float :=
  let flatTemplate := templateEnergy < flatness
  let flatWindow := windowEnergy < flatness
  if flatTemplate ∧ flatWindow then 1.0
  else if flatTemplate ∨ flatWindow then 0.0
  else clampFloat (-1.0) 1.0 (cross / Float.sqrt (templateEnergy * windowEnergy))

/-- A picture's levels as rows of an array. -/
def Picture.grid (p : Picture) : Array (Array Nat) := (p.rows.map List.toArray).toArray

/-- The level at column `x`, row `y` of a grid. -/
def level (g : Array (Array Nat)) (x y : Nat) : Nat := (g.getD y #[]).getD x 0

/-- The cross sum of centred template levels with the picture under a placement. -/
def crossSum (centred : Array Float) (tw th : Nat) (g : Array (Array Nat)) (x y : Nat) : Float :=
  (List.range th).foldl (fun acc ty =>
    (List.range tw).foldl (fun acc tx =>
      acc + centred.getD (ty * tw + tx) 0.0 * Binary64.ofNat (level g (x + tx) (y + ty))) acc) 0.0

/-- Finds the best placement of a template in a picture. -/
def findTemplate (template haystack : Picture) : Except Fault Placement :=
  let tw := template.width
  let th := template.height
  let hw := haystack.width
  let hh := haystack.height
  if tw = 0 ∨ th = 0 then .error (matchFault "template image is empty")
  else if tw > hw ∨ th > hh then
    .error (matchFault ("template " ++ toString tw ++ "x" ++ toString th ++ " is larger than image " ++
      toString hw ++ "x" ++ toString hh))
  else
    let n := Binary64.ofNat tw * Binary64.ofNat th
    let levels := template.rows.flatten
    let mean := Binary64.ofNat (levels.foldl (· + ·) 0) / n
    let centred := (levels.map fun v => Binary64.ofNat v - mean).toArray
    let templateEnergy := centred.foldl (fun acc c => acc + c * c) 0.0
    let sums := SummedArea.table hw haystack.rows
    let squares := SummedArea.table hw (haystack.rows.map fun r => r.map fun v => v * v)
    let g := haystack.grid
    let score (x y : Nat) : Float :=
      let cross := crossSum centred tw th g x y
      let s := Binary64.ofInt (SummedArea.window sums x y tw th)
      let s2 := Binary64.ofInt (SummedArea.window squares x y tw th)
      let e := s2 - s * s / n
      correlation cross templateEnergy (if e > 0.0 then e else 0.0)
    let best := (List.range (hh - th + 1)).foldl (fun best y =>
      (List.range (hw - tw + 1)).foldl (fun (best : Option Placement) x =>
        let c := score x y
        match best with
        | some b => if c > b.confidence then some ⟨x, y, c⟩ else some b
        | none => some ⟨x, y, c⟩) best) none
    match best with
    | some b => .ok b
    | none => .error (matchFault "no candidate positions")

/-- Opens both pictures from a store and finds the template in the picture. -/
def findTemplateFiles (fs : FileStore) (templatePath imagePath : String) : Except Fault Placement := do
  let load (path : String) : Except Fault Picture :=
    match fs.openPicture path with
    | .ok p => .ok p
    | .error m => .error (matchFault ("cannot load " ++ path ++ ": " ++ m))
  let template ← load templatePath
  let haystack ← load imagePath
  findTemplate template haystack

end Runbook
