import Mathlib
/-!
# The order of binary64 values

Core compares two unpacked floats by kind first (infinities, zeros, finite numbers) and two
finite numbers of one sign by exponent, then mantissa, reversed for negative numbers. On
values that are no NaN this is the lexicographic order of a key in `ℤ ×ₗ ℤ ×ₗ ℤ`: a rank
for the kind and sign, then the exponent and the mantissa, both negated for negative
numbers. Through the key, `<` and `≤` on floats that are no NaN obey the laws of a linear
order, which is what a running maximum and a clamp rely on.

Main statements: `lt_iff_orderKey`, `le_iff_orderKey`, and for `Float` the order laws
`float_le_of_not_lt`, `float_lt_of_le_of_lt`, `float_le_of_lt` and `float_le_refl`.
-/

namespace Runbook

open Float.Model Float.Model.UnpackedFloat

/-- A key whose lexicographic order is the order core gives to unpacked floats that are
no NaN: a rank for the kind and sign, then the exponent and the mantissa, both negated
for negative numbers. -/
def orderKey : UnpackedFloat → ℤ ×ₗ ℤ ×ₗ ℤ
  | .infinity .negative => toLex (0, toLex (0, 0))
  | .finite .negative m e _ => toLex (1, toLex (-e, -(m : ℤ)))
  | .zero _ => toLex (2, toLex (0, 0))
  | .finite .positive m e _ => toLex (3, toLex (e, (m : ℤ)))
  | .infinity .positive => toLex (4, toLex (0, 0))
  | .notANumber => toLex (2, toLex (0, 0))

theorem compare_negative_positive : compare Sign.negative Sign.positive = .lt := rfl

theorem compare_positive_negative : compare Sign.positive Sign.negative = .gt := rfl

section Unpacked

variable {a b : UnpackedFloat}

-- Both proofs run over the six kinds of each side; two finite numbers of one sign are
-- compared by `Ordering.then`, which is the lexicographic order of the key.
theorem lt_iff_orderKey (ha : a.isNaN = false) (hb : b.isNaN = false) :
    a.lt b = true ↔ orderKey a < orderKey b := by
  rcases a with ⟨_ | _⟩ | _ | _ | ⟨_ | _, m, e, hm⟩ <;>
  rcases b with ⟨_ | _⟩ | _ | _ | ⟨_ | _, m', e', hm'⟩ <;>
  simp_all [UnpackedFloat.lt, UnpackedFloat.compare, orderKey, UnpackedFloat.isNaN,
    Prod.Lex.toLex_lt_toLex, Ordering.then_eq_lt, Ordering.then_eq_gt, compare_lt_iff_lt,
    compare_gt_iff_gt, Ordering.swap_eq_lt, compare_negative_positive]

theorem le_iff_orderKey (ha : a.isNaN = false) (hb : b.isNaN = false) :
    a.le b = true ↔ orderKey a ≤ orderKey b := by
  rcases a with ⟨_ | _⟩ | _ | _ | ⟨_ | _, m, e, hm⟩ <;>
  rcases b with ⟨_ | _⟩ | _ | _ | ⟨_ | _, m', e', hm'⟩ <;>
  simp_all [UnpackedFloat.le, UnpackedFloat.compare, orderKey, UnpackedFloat.isNaN,
    Prod.Lex.toLex_le_toLex, Ordering.isLE_iff_ne_gt, Ordering.then_eq_gt, compare_gt_iff_gt,
    compare_negative_positive, compare_positive_negative, Ordering.isGE_iff_ne_lt,
    Ordering.then_eq_lt, compare_lt_iff_lt] <;> omega

end Unpacked

/-! ## The order of `Float` -/

section Float

variable {x y z : Float}

theorem float_lt_iff (x y : Float) : x < y ↔ x.toModel.unpack.lt y.toModel.unpack = true := by
  show decide _ = true ↔ _
  simp only [decide_eq_true_eq]
  rfl

theorem float_le_iff (x y : Float) : x ≤ y ↔ x.toModel.unpack.le y.toModel.unpack = true := by
  show decide _ = true ↔ _
  simp only [decide_eq_true_eq]
  rfl

theorem float_isNaN_eq (x : Float) : x.isNaN = x.toModel.unpack.isNaN := rfl

theorem float_lt_iff_orderKey (hx : x.isNaN = false) (hy : y.isNaN = false) :
    x < y ↔ orderKey x.toModel.unpack < orderKey y.toModel.unpack := by
  rw [float_lt_iff]
  exact lt_iff_orderKey hx hy

theorem float_le_iff_orderKey (hx : x.isNaN = false) (hy : y.isNaN = false) :
    x ≤ y ↔ orderKey x.toModel.unpack ≤ orderKey y.toModel.unpack := by
  rw [float_le_iff]
  exact le_iff_orderKey hx hy

/-- Two floats that are no NaN are comparable. -/
theorem float_le_of_not_lt (hx : x.isNaN = false) (hy : y.isNaN = false) (h : ¬x < y) :
    y ≤ x := by
  rw [float_lt_iff_orderKey hx hy, not_lt] at h
  exact (float_le_iff_orderKey hy hx).2 h

theorem float_lt_of_le_of_lt (hx : x.isNaN = false) (hy : y.isNaN = false)
    (hz : z.isNaN = false) (hxy : x ≤ y) (hyz : y < z) : x < z := by
  rw [float_le_iff_orderKey hx hy] at hxy
  rw [float_lt_iff_orderKey hy hz] at hyz
  exact (float_lt_iff_orderKey hx hz).2 (lt_of_le_of_lt hxy hyz)

theorem float_le_of_lt (hx : x.isNaN = false) (hy : y.isNaN = false) (h : x < y) : x ≤ y := by
  rw [float_lt_iff_orderKey hx hy] at h
  exact (float_le_iff_orderKey hx hy).2 h.le

theorem float_le_refl (hx : x.isNaN = false) : x ≤ x :=
  (float_le_iff_orderKey hx hx).2 le_rfl

end Float

end Runbook
