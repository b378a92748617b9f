import Runbook.Run.Executor
import Mathlib
/-!
# Where a click lands

The position of a click comes from the first rule that applies: the middle of the element
found, when a query is given; where the pointer is, with no coordinate; the coordinates,
with both; and with one, the pointer's place on the other axis, asked first. The element
and the pointer's place are what the bench gives on the desk they are asked on. A coordinate
that does not fit a signed 32-bit word is refused, `x` before `y`, never cut down. Each rule
is an equation between the click step and a list of calls made in order (`Bench.calls`),
so the click is made once, last, and only when every earlier call went through. The
middle of a rectangle lies in it exactly when both sums of opposite edges fit 32 bits.

Main statements: `clickStep_aims` and `Bounds.center_mem_iff_sums_fit`.
-/

namespace Runbook

open Json Params

/-- Makes provider calls in order, stopping at the first that fails. -/
def Bench.calls (bench : Bench) : List Event → Work Unit
  | [] => pure ()
  | e :: es => do bench.work e; bench.calls es

@[simp] theorem Bench.calls_nil (bench : Bench) : bench.calls [] = pure () := rfl

@[simp] theorem Bench.calls_cons (bench : Bench) (e : Event) (es : List Event) :
    bench.calls (e :: es) = (do bench.work e; bench.calls es) := rfl

/-! ## Coordinates -/

/-- Whether an integer fits a signed 32-bit word, the range of screen coordinates. -/
def Fits32 (n : Int) : Prop := coordinateRange.1 ≤ n ∧ n ≤ coordinateRange.2

instance : DecidablePred Fits32 := fun _ => inferInstanceAs (Decidable (_ ∧ _))

theorem fits32_iff {n : Int} : Fits32 n ↔ -2147483648 ≤ n ∧ n ≤ 2147483647 := by
  have h : (Nat.pow 2 31 : Int) = 2147483648 := rfl
  simp only [Fits32, coordinateRange, h]
  omega

/-- The fault of a coordinate that does not fit 32 bits. -/
def coordinateFault (name : String) (v : Int) : Fault :=
  .invalidParameter .click name (toString v ++ " is out of range for a screen coordinate")

theorem coordinate_of_fits {name : String} {v : Int} (h : Fits32 v) : coordinate name v = pure v :=
  if_pos h

theorem coordinate_of_not_fits {name : String} {v : Int} (h : ¬Fits32 v) :
    coordinate name v = throw (coordinateFault name v) :=
  if_neg h

/-- A parameter its reader accepts is read without a fault. -/
theorem readParam_of_ok {α : Type} {kind : StepKind} {params : Params} {key : String}
    {reader : Value → Except String (Option α)} {v : Option α}
    (h : reader ((params.lookup key).getD .null) = .ok v) :
    readParam kind params key reader = pure v := by
  unfold readParam
  rw [h]

/-! ## The rules of a click -/

section Rules

variable {bench : Bench} {params : Params} {x y : Option Int}

theorem clickStep_of_element {q : List (String × String)}
    (he : textMap ((params.lookup "element").getD .null) = .ok (some q))
    (hx : lenientInt ((params.lookup "x").getD .null) = .ok x)
    (hy : lenientInt ((params.lookup "y").getD .null) = .ok y) :
    clickStep bench params =
      (do
        let desk ← get
        bench.calls [.locate q, .click (some (bench.bounds q desk).center)]
        pure .completed) := by
  simp only [clickStep, readParam_of_ok he, readParam_of_ok hx, readParam_of_ok hy, pure_bind,
    Bench.ask, Bench.calls, bind_assoc]

theorem clickStep_of_no_position
    (he : textMap ((params.lookup "element").getD .null) = .ok none)
    (hx : lenientInt ((params.lookup "x").getD .null) = .ok none)
    (hy : lenientInt ((params.lookup "y").getD .null) = .ok none) :
    clickStep bench params = (do bench.calls [.click none]; pure .completed) := by
  simp only [clickStep, readParam_of_ok he, readParam_of_ok hx, readParam_of_ok hy, pure_bind,
    Bench.calls, bind_assoc]

theorem clickStep_of_both {vx vy : Int}
    (he : textMap ((params.lookup "element").getD .null) = .ok none)
    (hx : lenientInt ((params.lookup "x").getD .null) = .ok (some vx))
    (hy : lenientInt ((params.lookup "y").getD .null) = .ok (some vy)) :
    clickStep bench params =
      if Fits32 vx then
        if Fits32 vy then (do bench.calls [.click (some (vx, vy))]; pure .completed)
        else throw (coordinateFault "y" vy)
      else throw (coordinateFault "x" vx) := by
  simp only [clickStep, readParam_of_ok he, readParam_of_ok hx, readParam_of_ok hy, pure_bind]
  by_cases hfx : Fits32 vx
  · by_cases hfy : Fits32 vy
    · simp only [coordinate_of_fits hfx, coordinate_of_fits hfy, if_pos hfx, if_pos hfy,
        pure_bind, Bench.calls, bind_assoc]
    · simp only [coordinate_of_fits hfx, coordinate_of_not_fits hfy, if_pos hfx, if_neg hfy,
        pure_bind, ExceptT.bind_throw]
  · simp only [coordinate_of_not_fits hfx, if_neg hfx, ExceptT.bind_throw]

theorem clickStep_of_x_only {vx : Int}
    (he : textMap ((params.lookup "element").getD .null) = .ok none)
    (hx : lenientInt ((params.lookup "x").getD .null) = .ok (some vx))
    (hy : lenientInt ((params.lookup "y").getD .null) = .ok none) :
    clickStep bench params =
      (do
        let desk ← get
        bench.work .cursor
        if Fits32 vx then
          (do bench.calls [.click (some (vx, (bench.cursor desk).2))]; pure .completed)
        else throw (coordinateFault "x" vx)) := by
  simp only [clickStep, readParam_of_ok he, readParam_of_ok hx, readParam_of_ok hy, pure_bind,
    Bench.ask, bind_assoc]
  congr 1
  funext desk
  congr 1
  funext _
  by_cases hfx : Fits32 vx
  · simp only [coordinate_of_fits hfx, if_pos hfx, pure_bind, Bench.calls, bind_assoc]
  · simp only [coordinate_of_not_fits hfx, if_neg hfx, ExceptT.bind_throw]

theorem clickStep_of_y_only {vy : Int}
    (he : textMap ((params.lookup "element").getD .null) = .ok none)
    (hx : lenientInt ((params.lookup "x").getD .null) = .ok none)
    (hy : lenientInt ((params.lookup "y").getD .null) = .ok (some vy)) :
    clickStep bench params =
      (do
        let desk ← get
        bench.work .cursor
        if Fits32 vy then
          (do bench.calls [.click (some ((bench.cursor desk).1, vy))]; pure .completed)
        else throw (coordinateFault "y" vy)) := by
  simp only [clickStep, readParam_of_ok he, readParam_of_ok hx, readParam_of_ok hy, pure_bind,
    Bench.ask, bind_assoc]
  congr 1
  funext desk
  congr 1
  funext _
  by_cases hfy : Fits32 vy
  · simp only [coordinate_of_fits hfy, if_pos hfy, pure_bind, Bench.calls, bind_assoc]
  · simp only [coordinate_of_not_fits hfy, if_neg hfy, ExceptT.bind_throw]

end Rules

/-- The rules of a click, for every payload that reads and every bench. An element query wins
and the click lands at the middle of the rectangle lookup finds on the desk it is asked on,
whatever the coordinates say. With no coordinate the pointer clicks where it is. With both,
it clicks there, a coordinate that does not fit 32 bits being refused, `x` first. With one,
the pointer's place is asked first and, as the bench gives it then, gives the other axis. In every rule the click is the last call, made once and only
when every earlier call and check went through, at coordinates taken as they were read. -/
theorem clickStep_aims (bench : Bench) (params : Params)
    (element : Option (List (String × String))) (x y : Option Int)
    (he : textMap ((params.lookup "element").getD .null) = .ok element)
    (hx : lenientInt ((params.lookup "x").getD .null) = .ok x)
    (hy : lenientInt ((params.lookup "y").getD .null) = .ok y) :
    (∀ q, element = some q → clickStep bench params =
      (do
        let desk ← get
        bench.calls [.locate q, .click (some (bench.bounds q desk).center)]
        pure .completed)) ∧
    (element = none → x = none → y = none →
      clickStep bench params = (do bench.calls [.click none]; pure .completed)) ∧
    (∀ vx vy, element = none → x = some vx → y = some vy → clickStep bench params =
      if Fits32 vx then
        if Fits32 vy then (do bench.calls [.click (some (vx, vy))]; pure .completed)
        else throw (coordinateFault "y" vy)
      else throw (coordinateFault "x" vx)) ∧
    (∀ vx, element = none → x = some vx → y = none → clickStep bench params =
      (do
        let desk ← get
        bench.work .cursor
        if Fits32 vx then
          (do bench.calls [.click (some (vx, (bench.cursor desk).2))]; pure .completed)
        else throw (coordinateFault "x" vx))) ∧
    (∀ vy, element = none → x = none → y = some vy → clickStep bench params =
      (do
        let desk ← get
        bench.work .cursor
        if Fits32 vy then
          (do bench.calls [.click (some ((bench.cursor desk).1, vy))]; pure .completed)
        else throw (coordinateFault "y" vy))) := by
  refine ⟨?_, ?_, ?_, ?_, ?_⟩
  · rintro q rfl
    exact clickStep_of_element he hx hy
  · rintro rfl rfl rfl
    exact clickStep_of_no_position he hx hy
  · rintro vx vy rfl rfl rfl
    exact clickStep_of_both he hx hy
  · rintro vx rfl rfl rfl
    exact clickStep_of_x_only he hx hy
  · rintro vy rfl rfl rfl
    exact clickStep_of_y_only he hx hy

/-- A click given `12` and `-7` as its coordinates and no element clicks at `(12, -7)`. -/
theorem clickStep_aims_bothCoordinates :
    let params : Params := [("x", .number (.unsigned 12)), ("y", .number (.negative (-7)))]
    textMap ((params.lookup "element").getD .null) = .ok none ∧
    lenientInt ((params.lookup "x").getD .null) = .ok (some 12) ∧
    lenientInt ((params.lookup "y").getD .null) = .ok (some (-7)) ∧
    clickStep {} params =
      if Fits32 12 then
        if Fits32 (-7) then (do Bench.calls {} [.click (some (12, -7))]; pure .completed)
        else throw (coordinateFault "y" (-7))
      else throw (coordinateFault "x" 12) := by
  intro params
  have hl : params.lookup "element" = none := rfl
  have he : textMap ((params.lookup "element").getD .null) = .ok none := by rw [hl]; rfl
  have hx : lenientInt ((params.lookup "x").getD .null) = .ok (some 12) := rfl
  have hy : lenientInt ((params.lookup "y").getD .null) = .ok (some (-7)) := rfl
  exact ⟨he, hx, hy,
    (clickStep_aims {} params none (some 12) (some (-7)) he hx hy).2.2.1 12 (-7) rfl rfl rfl⟩

/-! ## The middle of a rectangle -/

/-- Whether a point lies in a rectangle, its edges included. -/
def Bounds.Contains (b : Bounds) (p : Int × Int) : Prop :=
  b.left ≤ p.1 ∧ p.1 ≤ b.right ∧ b.top ≤ p.2 ∧ p.2 ≤ b.bottom

instance (b : Bounds) (p : Int × Int) : Decidable (b.Contains p) :=
  inferInstanceAs (Decidable (_ ∧ _ ∧ _ ∧ _))

/-- A rectangle as element lookup can report it: edges of 32 bits, the left edge not right
of the right one and the top not below the bottom. -/
structure Bounds.Proper (b : Bounds) : Prop where
  left_fits : Fits32 b.left
  top_fits : Fits32 b.top
  right_fits : Fits32 b.right
  bottom_fits : Fits32 b.bottom
  left_le_right : b.left ≤ b.right
  top_le_bottom : b.top ≤ b.bottom

theorem wrap32_eq (n : Int) : wrap32 n = (n + 2147483648) % 4294967296 - 2147483648 := rfl

theorem wrap32_of_fits {n : Int} (h : Fits32 n) : wrap32 n = n := by
  rw [fits32_iff] at h
  rw [wrap32_eq]
  omega

/-- Halving toward zero is halving toward minus infinity, one up for a negative odd number. -/
theorem tdiv_two_eq (n : Int) : n.tdiv 2 = n / 2 + if 0 ≤ n ∨ n % 2 = 0 then 0 else 1 := by
  rw [Int.tdiv_eq_ediv]
  simp only [Int.dvd_iff_emod_eq_zero]
  rfl

/-- The halved 32-bit sum of two edges lies between them exactly when the sum fits 32 bits. -/
theorem halfSum_mem_iff {a c : Int} (ha : Fits32 a) (hc : Fits32 c) (hac : a ≤ c) :
    (a ≤ (wrap32 (a + c)).tdiv 2 ∧ (wrap32 (a + c)).tdiv 2 ≤ c) ↔ Fits32 (a + c) := by
  rw [fits32_iff] at ha hc ⊢
  rw [tdiv_two_eq, wrap32_eq]
  -- a sum past the 32-bit range wraps to the other sign, and its half then lies beyond an edge
  split <;> omega

/-- The middle of a rectangle with 32-bit edges lies in it exactly when the sums of
opposite edges fit 32 bits, and it is then the pair of midpoints rounded toward zero. -/
theorem Bounds.center_mem_iff_sums_fit (b : Bounds) (hb : b.Proper) :
    (b.Contains b.center ↔ Fits32 (b.left + b.right) ∧ Fits32 (b.top + b.bottom)) ∧
    (Fits32 (b.left + b.right) → Fits32 (b.top + b.bottom) →
      b.center = ((b.left + b.right).tdiv 2, (b.top + b.bottom).tdiv 2)) := by
  have hx := halfSum_mem_iff hb.left_fits hb.right_fits hb.left_le_right
  have hy := halfSum_mem_iff hb.top_fits hb.bottom_fits hb.top_le_bottom
  refine ⟨?_, fun hfx hfy => ?_⟩
  · simp only [Bounds.Contains, Bounds.center]
    rw [← hx, ← hy]
    tauto
  · simp only [Bounds.center, wrap32_of_fits hfx, wrap32_of_fits hfy]

/-- The rectangle from `(10, 20)` to `(30, 60)` has its middle at `(20, 40)`, inside it. -/
theorem Bounds.center_mem_iff_sums_fit_sample :
    let b : Bounds := ⟨10, 20, 30, 60⟩
    b.Proper ∧
      ((b.Contains b.center ↔ Fits32 (b.left + b.right) ∧ Fits32 (b.top + b.bottom)) ∧
      (Fits32 (b.left + b.right) → Fits32 (b.top + b.bottom) →
        b.center = ((b.left + b.right).tdiv 2, (b.top + b.bottom).tdiv 2))) := by
  intro b
  have hb : b.Proper := ⟨by decide, by decide, by decide, by decide, by decide, by decide⟩
  exact ⟨hb, Bounds.center_mem_iff_sums_fit b hb⟩

/-- A rectangle one column wide at the largest coordinate and spanning every row: both
sums leave the 32-bit range, the middle comes out as `(-1, 0)`, outside the rectangle, and
a click on an element found there lands at `(-1, 0)`. -/
theorem clickStep_outside_extreme_bounds :
    let b : Bounds := ⟨2147483647, -2147483648, 2147483647, -2147483648⟩
    b.Proper ∧ b.center = (-1, 0) ∧ ¬b.Contains (-1, 0) ∧
      clickStep { bounds := fun _ _ => b } [("element", .object [("id", .string "a")])] =
        (do Bench.calls { bounds := fun _ _ => b } [.locate [("id", "a")], .click (some (-1, 0))]
            pure .completed) := by
  intro b
  have hb : b.Proper := ⟨by decide, by decide, by decide, by decide, by decide, by decide⟩
  have hc : b.center = (-1, 0) := by decide
  have he : textMap (([("element", .object [("id", .string "a")])] : Params).lookup "element"
      |>.getD .null) = .ok (some [("id", "a")]) := rfl
  have hx : lenientInt (([("element", .object [("id", .string "a")])] : Params).lookup "x"
      |>.getD .null) = .ok none := rfl
  have hy : lenientInt (([("element", .object [("id", .string "a")])] : Params).lookup "y"
      |>.getD .null) = .ok none := rfl
  refine ⟨hb, hc, by decide, ?_⟩
  -- the element is found where it is, whatever the desk
  rw [clickStep_of_element he hx hy]
  simp only [hc]
  rfl

end Runbook
