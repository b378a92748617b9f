import Mathlib
import Runbook.Proofs.Number.FloatArithmetic
/-!
# Integers below `2 ^ 53` in binary64

A float holds the integer `n` (`Holds n x`) when it unpacks as `n` does: positive zero for
`0`, otherwise the sign of `n` and its magnitude shifted up to `53` bits, at the exponent
that undoes the shift (`intForm`). Every integer of magnitude below `2 ^ 53` has such a
form, and the operations keep it: the sum, difference and product of two held integers,
when the result is again below `2 ^ 53`, is held by the rounded result, since the exact
result has at most `53` significant bits and rounding it drops only zeros. Two floats that
hold one integer are the same float, so the statements read as equations of floats
(`ofNat_add`, `ofNat_mul`): below `2 ^ 53` binary64 arithmetic on naturals is exact.
-/

namespace Runbook

open Float.Model Float.Model.UnpackedFloat

namespace Binary64

/-- The sign of an integer, `+` for zero. -/
def intSign (n : Int) : Sign := if n < 0 then .negative else .positive

/-- How an integer of magnitude below `2 ^ 53` unpacks: positive zero for `0`, else its
magnitude shifted up to `53` bits, at the exponent that undoes the shift. -/
def intForm (n : Int) : UnpackedFloat :=
  if h : n = 0 then .zero .positive
  else .finite (intSign n) (n.natAbs * 2 ^ (52 - n.natAbs.log2)) ((n.natAbs.log2 : Int) - 52)
    (Nat.mul_pos (Int.natAbs_pos.mpr h) (Nat.two_pow_pos _))

/-- A float holds the integer `n` when it unpacks as `n` does: it stands for exactly `n`. -/
def Holds (n : Int) (x : Float) : Prop := x.toModel.unpack = intForm n

/-! ## Bits of an integer -/

theorem log2_mul_two_pow {n : Nat} (hn : 0 < n) (k : Nat) : (n * 2 ^ k).log2 = n.log2 + k := by
  have hlo : 2 ^ n.log2 ≤ n := Nat.log2_self_le (by omega)
  have hhi : n < 2 ^ (n.log2 + 1) := Nat.lt_log2_self
  rw [Nat.log2_eq_iff (by positivity)]
  constructor
  · rw [Nat.pow_add]
    exact Nat.mul_le_mul_right _ hlo
  · calc n * 2 ^ k < 2 ^ (n.log2 + 1) * 2 ^ k := Nat.mul_lt_mul_of_pos_right hhi (Nat.two_pow_pos _)
      _ = 2 ^ (n.log2 + k + 1) := by rw [← Nat.pow_add]; congr 1; omega

theorem log2_natAbs_le {a : Int} (ha : a.natAbs < 2 ^ 53) : a.natAbs.log2 ≤ 52 := by
  rcases Nat.eq_zero_or_pos a.natAbs with h | h
  · simp [h]
  · exact Nat.lt_succ_iff.mp ((Nat.log2_lt (by omega)).2 ha)

/-! ## Rounding drops only zeros -/

/-- Rounding an integer below `2 ^ 53`, shifted up by at least enough to fill `53` bits, drops
only zeros: it gives the integer's own form. -/
theorem roundWithAccuracy_int (s : Sign) {n K : Nat} (hn0 : 0 < n) (hn : n < 2 ^ 53)
    (hK : 52 ≤ n.log2 + K) :
    roundWithAccuracy .binary64 s (n * 2 ^ K) (-K) .exact =
      .finite s (n * 2 ^ (52 - n.log2)) ((n.log2 : Int) - 52)
        (Nat.mul_pos hn0 (Nat.two_pow_pos _)) := by
  have hL : n.log2 < 53 := (Nat.log2_lt (by omega)).2 hn
  have hd : droppedBits (n * 2 ^ K) (-K) = n.log2 + K - 52 := by
    have h := droppedBits_eq (n * 2 ^ K) (-K)
    rw [log2_mul_two_pow hn0] at h
    omega
  -- the dropped bits are the zeros of the shift
  have hsplit : n * 2 ^ K = n * 2 ^ (52 - n.log2) * 2 ^ (n.log2 + K - 52) := by
    rw [Nat.mul_assoc, ← Nat.pow_add]
    congr 2
    omega
  have hround : (ExtendedMantissa.ofMantissaAndAccuracy (n * 2 ^ K) .exact >>>
      (n.log2 + K - 52)).roundedMantissa = n * 2 ^ (52 - n.log2) := by
    rw [roundedMantissa_exact_shiftRight]
    exact roundHalfEven_eq_of_near (le_of_eq hsplit.symm) (by rw [← hsplit]; simp)
  obtain ⟨hlo, hhi⟩ := shifted_mem hn0 hn
  rw [roundWithAccuracy_eq, hd, hround]
  unfold assemble
  rw [dif_neg (by omega), if_pos hhi]
  congr 1
  omega

/-- Rounding an integer below `2 ^ 53`, shifted up by any amount, gives the integer's own
form: `round` first lowers the exponent to the target one, and then only zeros are dropped. -/
theorem round_int (s : Sign) {n k : Nat} (hn0 : 0 < n) (hn : n < 2 ^ 53) :
    UnpackedFloat.round .binary64 s (n * 2 ^ k) (-k) =
      .finite s (n * 2 ^ (52 - n.log2)) ((n.log2 : Int) - 52)
        (Nat.mul_pos hn0 (Nat.two_pow_pos _)) := by
  have htarget : Format.binary64.targetExponent (totalExponent (n * 2 ^ k) (-k)) =
      (n.log2 : Int) - 52 := by
    rw [targetExponent_eq, totalExponent, log2_mul_two_pow hn0]
    omega
  simp only [UnpackedFloat.round, decreaseExponent, Nat.shiftLeft_eq, htarget]
  rw [Nat.mul_assoc, ← Nat.pow_add,
    show -(k : Int) - (((-(k : Int)) - ((n.log2 : Int) - 52)).toNat : Nat) =
      -((k + ((-(k : Int)) - ((n.log2 : Int) - 52)).toNat : Nat) : Int) by push_cast; ring]
  exact roundWithAccuracy_int s hn0 hn (by omega)

theorem intSign_apply (a : Int) (m : Nat) : (intSign a).apply (a.natAbs * m : Nat) = a * m := by
  unfold intSign
  split
  · rename_i ha
    simp only [Sign.apply]
    push_cast
    rw [abs_of_neg ha]
    ring
  · rename_i ha
    simp only [Sign.apply]
    push_cast
    rw [abs_of_nonneg (not_lt.mp ha)]

/-- An integer below `2 ^ 53`, scaled by a power of two and normalized back, is its own
form. -/
theorem normalize_int {a : Int} (ha : a.natAbs < 2 ^ 53) (k : Nat) :
    UnpackedFloat.normalize .binary64 (a * 2 ^ k) (-k) .positive = intForm a := by
  unfold UnpackedFloat.normalize intForm
  rcases lt_trichotomy a 0 with hneg | rfl | hpos
  · obtain ⟨m, rfl⟩ := Int.exists_eq_neg_ofNat hneg.le
    have hm : -(-(m : Int) * 2 ^ k) = ((m * 2 ^ k : Nat) : Int) := by push_cast; ring
    have hc : compare (-(m : Int) * 2 ^ k) 0 = .lt := compare_lt_iff_lt.mpr (by
      have : (0 : Int) < ((m * 2 ^ k : Nat) : Int) := by
        have : 0 < m := by omega
        positivity
      omega)
    have hm0 : m ≠ 0 := by omega
    rw [hc]
    simp only [hm, Int.toNat_natCast]
    rw [round_int _ (by omega) (by simpa using ha), dif_neg (by omega)]
    simp [intSign, hm0]
  · simp
  · obtain ⟨m, rfl⟩ := Int.eq_ofNat_of_zero_le hpos.le
    have hm : (m : Int) * 2 ^ k = ((m * 2 ^ k : Nat) : Int) := by push_cast; ring
    have hc : compare ((m : Int) * 2 ^ k) 0 = .gt := compare_gt_iff_gt.mpr (by positivity)
    rw [hc]
    simp only [hm, Int.toNat_natCast]
    rw [round_int _ (by omega) (by simpa using ha), dif_neg (by omega)]
    simp [intSign]

/-! ## The form of an integer -/

theorem intForm_zero : intForm 0 = .zero .positive := rfl

theorem intForm_of_ne {n : Int} (h : n ≠ 0) :
    intForm n = .finite (intSign n) (n.natAbs * 2 ^ (52 - n.natAbs.log2))
      ((n.natAbs.log2 : Int) - 52) (Nat.mul_pos (Int.natAbs_pos.mpr h) (Nat.two_pow_pos _)) :=
  dif_neg h

theorem intForm_natCast {n : Nat} (hn : 0 < n) :
    intForm (n : Int) = .finite .positive (n * 2 ^ (52 - n.log2)) ((n.log2 : Int) - 52)
      (Nat.mul_pos hn (Nat.two_pow_pos _)) := by
  rw [intForm_of_ne (by omega)]
  simp [intSign]

theorem intSign_neg {n : Int} (h : n ≠ 0) : intSign (-n) = -intSign n := by
  unfold intSign
  by_cases hn : n < 0
  · rw [if_neg (by omega), if_pos hn]
    rfl
  · rw [if_pos (by omega), if_neg hn]
    rfl

theorem isNaN_intForm (n : Int) : (intForm n).isNaN = false := by
  unfold intForm
  split <;> rfl

/-- The form of an integer below `2 ^ 53` is stored as itself. -/
theorem repack_intForm {n : Int} (hn : n.natAbs < 2 ^ 53) : repack (intForm n) = intForm n := by
  by_cases h0 : n = 0
  · subst h0
    rfl
  have hpos : 0 < n.natAbs := Int.natAbs_pos.mpr h0
  obtain ⟨hlo, hhi⟩ := shifted_mem hpos hn
  have hL := log2_natAbs_le hn
  rw [intForm_of_ne h0, repack_finite _ _ hhi (by omega), if_neg (by omega), if_pos hlo]

/-! ## Operations on forms -/

/-- The form of an integer, aligned to the exponent of one with fewer bits, has the integer's
magnitude shifted by that exponent. -/
theorem natAbs_aligned (a : Int) {L : Nat} (hL : L ≤ a.natAbs.log2) (hLa : a.natAbs.log2 ≤ 52) :
    a.natAbs * 2 ^ (52 - a.natAbs.log2) *
        2 ^ (((a.natAbs.log2 : Int) - 52 - -((52 - L : Nat) : Int)).toNat) =
      a.natAbs * 2 ^ (52 - L) := by
  rw [Nat.mul_assoc, ← Nat.pow_add]
  congr 2
  omega

/-- Two integers below `2 ^ 53` are aligned at the exponent of the one with fewer bits. -/
theorem min_exponent {a b : Int} (ha : a.natAbs < 2 ^ 53) (hb : b.natAbs < 2 ^ 53) :
    min ((a.natAbs.log2 : Int) - 52) ((b.natAbs.log2 : Int) - 52) =
      -((52 - min a.natAbs.log2 b.natAbs.log2 : Nat) : Int) := by
  have hLa := log2_natAbs_le ha
  have hLb := log2_natAbs_le hb
  omega

/-- Two integers other than zero, aligned to the smaller exponent and combined by `op`
signed, as addition and subtraction do: the combination scaled by the alignment. -/
theorem aligned_apply (op : Int → Int → Int) (hop : ∀ x y c : Int, op (x * c) (y * c) = op x y * c)
    {a b : Int} (ha : a.natAbs < 2 ^ 53) (hb : b.natAbs < 2 ^ 53) :
    op ((intSign a).apply (a.natAbs * 2 ^ (52 - a.natAbs.log2) * 2 ^ (((a.natAbs.log2 : Int) - 52 -
        min ((a.natAbs.log2 : Int) - 52) ((b.natAbs.log2 : Int) - 52)).toNat) : Nat))
      ((intSign b).apply (b.natAbs * 2 ^ (52 - b.natAbs.log2) * 2 ^ (((b.natAbs.log2 : Int) - 52 -
        min ((a.natAbs.log2 : Int) - 52) ((b.natAbs.log2 : Int) - 52)).toNat) : Nat)) =
      op a b * 2 ^ (52 - min a.natAbs.log2 b.natAbs.log2) := by
  rw [min_exponent ha hb, natAbs_aligned a (Nat.min_le_left _ _) (log2_natAbs_le ha),
    natAbs_aligned b (Nat.min_le_right _ _) (log2_natAbs_le hb),
    intSign_apply, intSign_apply]
  push_cast
  exact hop _ _ _

/-- Adding the forms of two integers below `2 ^ 53` whose sum is below `2 ^ 53` gives the form
of the sum: a zero leaves the other operand, and two numbers are aligned and added exactly. -/
theorem add_intForm {a b : Int} (ha : a.natAbs < 2 ^ 53) (hb : b.natAbs < 2 ^ 53)
    (hab : (a + b).natAbs < 2 ^ 53) :
    UnpackedFloat.add .binary64 (intForm a) (intForm b) = intForm (a + b) := by
  by_cases ha0 : a = 0
  · subst ha0
    by_cases hb0 : b = 0
    · subst hb0
      rfl
    · rw [intForm_zero, intForm_of_ne hb0, Int.zero_add, intForm_of_ne hb0]
      rfl
  by_cases hb0 : b = 0
  · subst hb0
    rw [intForm_of_ne ha0, intForm_zero, Int.add_zero, intForm_of_ne ha0]
    rfl
  rw [intForm_of_ne ha0, intForm_of_ne hb0, add_finite,
    aligned_apply (· + ·) (fun x y c => by ring) ha hb, min_exponent ha hb]
  exact normalize_int hab _

/-- Subtracting the forms of two integers below `2 ^ 53` whose difference is below `2 ^ 53`
gives the form of the difference: zero less a number is the number negated. -/
theorem sub_intForm {a b : Int} (ha : a.natAbs < 2 ^ 53) (hb : b.natAbs < 2 ^ 53)
    (hab : (a - b).natAbs < 2 ^ 53) :
    UnpackedFloat.sub .binary64 (intForm a) (intForm b) = intForm (a - b) := by
  by_cases ha0 : a = 0
  · subst ha0
    by_cases hb0 : b = 0
    · subst hb0
      rfl
    · rw [intForm_zero, intForm_of_ne hb0, Int.zero_sub, intForm_of_ne (Int.neg_ne_zero.mpr hb0)]
      simp only [intSign_neg hb0, Int.natAbs_neg]
      rfl
  by_cases hb0 : b = 0
  · subst hb0
    rw [intForm_of_ne ha0, intForm_zero, Int.sub_zero, intForm_of_ne ha0]
    rfl
  rw [intForm_of_ne ha0, intForm_of_ne hb0, sub_finite,
    aligned_apply (· - ·) (fun x y c => by ring) ha hb, min_exponent ha hb]
  exact normalize_int hab _

/-- Multiplying the forms of two naturals whose product is below `2 ^ 53` gives the form of the
product: the product of the shifted magnitudes drops only zeros. -/
theorem mul_intForm {a b : Nat} (hab : a * b < 2 ^ 53) :
    UnpackedFloat.mul .binary64 (intForm a) (intForm b) = intForm ((a * b : Nat) : Int) := by
  rcases Nat.eq_zero_or_pos a with rfl | ha0
  · rcases Nat.eq_zero_or_pos b with rfl | hb0
    · rfl
    · rw [intForm_natCast hb0, Nat.zero_mul]
      rfl
  rcases Nat.eq_zero_or_pos b with rfl | hb0
  · rw [intForm_natCast ha0, Nat.mul_zero]
    rfl
  have hab0 : 0 < a * b := Nat.mul_pos ha0 hb0
  have hLa : a.log2 ≤ 52 := log2_natAbs_le (a := a) (by simp; nlinarith)
  have hLb : b.log2 ≤ 52 := log2_natAbs_le (a := b) (by simp; nlinarith)
  -- the product has at least the bits of both factors
  have hlog : a.log2 + b.log2 ≤ (a * b).log2 := by
    rw [Nat.le_log2 (by omega), Nat.pow_add]
    exact Nat.mul_le_mul (Nat.log2_self_le (by omega)) (Nat.log2_self_le (by omega))
  have hprod : a * 2 ^ (52 - a.log2) * (b * 2 ^ (52 - b.log2)) =
      a * b * 2 ^ (104 - a.log2 - b.log2) := by
    rw [show 104 - a.log2 - b.log2 = (52 - a.log2) + (52 - b.log2) by omega, Nat.pow_add]
    ring
  have hexp : (a.log2 : Int) - 52 + ((b.log2 : Int) - 52) =
      -((104 - a.log2 - b.log2 : Nat) : Int) := by omega
  rw [intForm_natCast ha0, intForm_natCast hb0, mul_finite, mul_self_sign, hprod, hexp,
    roundWithAccuracy_int _ hab0 hab (by omega), intForm_natCast hab0]

/-! ## Floats that hold an integer -/

/-- A pattern that does not unpack as NaN is packed back to itself. -/
theorem toNat_pack_unpack_of_isNaN (b : BitVec Format.binary64.numBits)
    (h : (UnpackedFloat.unpack .binary64 b).isNaN = false) :
    (UnpackedFloat.pack .binary64 (UnpackedFloat.unpack .binary64 b)).toNat = b.toNat := by
  apply toNat_pack_unpack
  intro hexp
  by_contra hfrac
  -- all exponent bits set and a fraction that is not zero: the pattern of a NaN
  have hE : unpackExponent b = -1#_ := by
    apply BitVec.eq_of_toNat_eq
    rw [toNat_unpackExponent]
    simp
    omega
  have hM : unpackMantissa b ≠ 0#_ := by
    intro h0
    have hm := toNat_unpackMantissa b
    rw [h0] at hm
    simp at hm
    omega
  simp [UnpackedFloat.unpack, hE, hM, UnpackedFloat.isNaN] at h

/-- Floats that unpack alike, and not as NaN, are the same float. -/
theorem float_eq_of_unpack_eq {x y : Float} (hx : x.toModel.unpack.isNaN = false)
    (h : x.toModel.unpack = y.toModel.unpack) : x = y := by
  have hy : y.toModel.unpack.isNaN = false := h ▸ hx
  have hbits : x.toModel.toBits.toNat = y.toModel.toBits.toNat := by
    rw [← UInt64.toNat_toBitVec, ← UInt64.toNat_toBitVec,
      ← toNat_pack_unpack_of_isNaN _ hx, ← toNat_pack_unpack_of_isNaN _ hy]
    exact congrArg (fun u => (UnpackedFloat.pack .binary64 u).toNat) h
  obtain ⟨⟨bx, vx⟩⟩ := x
  obtain ⟨⟨bY, vy⟩⟩ := y
  obtain rfl : bx = bY := UInt64.toNat_inj.mp hbits
  rfl

/-- A natural below `2 ^ 53` converts to the float that holds it. -/
theorem holds_ofNat {n : Nat} (hn : n < 2 ^ 53) : Holds n (ofNat n) := by
  rcases Nat.eq_zero_or_pos n with rfl | hn0
  · exact unpack_ofNat_zero
  · rw [Holds, unpack_ofNat_small hn0 hn, intForm_natCast hn0]

theorem ofInt_natCast (n : Nat) : ofInt n = ofNat n := by
  have hn : ¬ (n : Int) < 0 := by omega
  simp [ofInt, ofNat, hn]

section Holds

variable {a b : Int} {x y : Float}

theorem Holds.add (hx : Holds a x) (hy : Holds b y) (ha : a.natAbs < 2 ^ 53)
    (hb : b.natAbs < 2 ^ 53) (hab : (a + b).natAbs < 2 ^ 53) : Holds (a + b) (x + y) := by
  unfold Holds at *
  rw [unpack_add, hx, hy, add_intForm ha hb hab, repack_intForm hab]

theorem Holds.sub (hx : Holds a x) (hy : Holds b y) (ha : a.natAbs < 2 ^ 53)
    (hb : b.natAbs < 2 ^ 53) (hab : (a - b).natAbs < 2 ^ 53) : Holds (a - b) (x - y) := by
  unfold Holds at *
  rw [unpack_sub, hx, hy, sub_intForm ha hb hab, repack_intForm hab]

theorem Holds.mul {m n : Nat} (hx : Holds m x) (hy : Holds n y) (hmn : m * n < 2 ^ 53) :
    Holds ((m * n : Nat) : Int) (x * y) := by
  unfold Holds at *
  rw [unpack_mul, hx, hy, mul_intForm hmn, repack_intForm (by rw [Int.natAbs_natCast]; exact hmn)]

/-- Two floats that hold the same integer are the same float. -/
theorem Holds.eq (hx : Holds a x) (hy : Holds a y) : x = y :=
  float_eq_of_unpack_eq (by rw [hx]; exact isNaN_intForm a) (hx.trans hy.symm)

end Holds

theorem ofNat_zero : ofNat 0 = 0.0 :=
  (holds_ofNat (by decide)).eq rfl

/-- Binary64 addition of two naturals whose sum is below `2 ^ 53` is exact. -/
theorem ofNat_add {m n : Nat} (h : m + n < 2 ^ 53) : ofNat m + ofNat n = ofNat (m + n) := by
  have hsum := (holds_ofNat (show m < 2 ^ 53 by omega)).add
    (holds_ofNat (show n < 2 ^ 53 by omega)) (by omega) (by omega) (by omega)
  have hexact := holds_ofNat h
  push_cast at hexact
  exact hsum.eq hexact

/-- Binary64 multiplication of two naturals below `2 ^ 53` whose product is below `2 ^ 53` is
exact. -/
theorem ofNat_mul {m n : Nat} (hm : m < 2 ^ 53) (hn : n < 2 ^ 53) (h : m * n < 2 ^ 53) :
    ofNat m * ofNat n = ofNat (m * n) :=
  ((holds_ofNat hm).mul (holds_ofNat hn) h).eq (holds_ofNat h)

end Binary64

end Runbook
