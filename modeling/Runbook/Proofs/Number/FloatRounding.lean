import Runbook.Proofs.Number.IntegerRounding
import Mathlib
/-!
# Rounding in core's model of binary64

Core rounds by shifting the mantissa right by `droppedBits m e` bits, rounding half to even
on the round and sticky bits, and shifting again on a carry into `2 ^ 53`. This module
gives the pipeline closed forms (the shifted mantissa is `m / 2 ^ d`, rounded by
`roundHalfEven`), and from them the facts the arithmetic lemmas use: rounding keeps the
sign, never gives a NaN, keeps a bound by a power of two, and storing a finite number
keeps it or overflows to an infinity of its sign.

Main statements: `roundWithAccuracy_eq`, `atMost_roundWithAccuracy_exact`,
`repack_finite` and `signed_repack`.
-/

namespace Runbook

open Float.Model Float.Model.UnpackedFloat

namespace Binary64

/-! ## The shift pipeline -/

section Shift

open ExtendedMantissa

theorem shiftRight_succ (em : ExtendedMantissa) (d : Nat) :
    em >>> (d + 1) = shiftRightOne (em >>> d) := rfl

theorem shiftRight_zero (em : ExtendedMantissa) : em >>> 0 = em := rfl

/-- Shifting drops the last `d` bits of the mantissa, whatever the residual bits. -/
theorem mantissa_shiftRight (em : ExtendedMantissa) (d : Nat) :
    (em >>> d).mantissa = em.mantissa / 2 ^ d := by
  induction d with
  | zero => simp [shiftRight_zero]
  | succ d ih =>
    rw [shiftRight_succ, shiftRightOne, ih, Nat.div_div_eq_div_mul, Nat.pow_succ]

/-- Rounding a mantissa keeps it or adds one, whatever its residual bits. -/
theorem roundedMantissa_mem (em : ExtendedMantissa) :
    em.mantissa ≤ em.roundedMantissa ∧ em.roundedMantissa ≤ em.mantissa + 1 := by
  rcases em with ⟨m, _ | _, _ | _⟩ <;>
    simp [roundedMantissa, accuracy, Accuracy.roundToNearestEven]; omega

@[simp]
theorem mantissa_ofMantissaAndAccuracy (m : Nat) (acc : Accuracy) :
    (ofMantissaAndAccuracy m acc).mantissa = m := by
  cases acc with
  | exact => rfl
  | inexact o => cases o <;> rfl

/-- Dropping `d` bits of a mantissa and rounding gives the truncated quotient or one more,
whatever the accuracy it starts from. -/
theorem roundedMantissa_shiftRight_mem (m : Nat) (acc : Accuracy) (d : Nat) :
    m / 2 ^ d ≤ (ofMantissaAndAccuracy m acc >>> d).roundedMantissa ∧
      (ofMantissaAndAccuracy m acc >>> d).roundedMantissa ≤ m / 2 ^ d + 1 := by
  have hr := roundedMantissa_mem (ofMantissaAndAccuracy m acc >>> d)
  rwa [mantissa_shiftRight, mantissa_ofMantissaAndAccuracy] at hr

/-- From an exact mantissa, `d + 1` shifts leave the quotient, the last bit dropped as the
round bit, and whether any bit below it was set as the sticky bit. -/
theorem exact_shiftRight_succ (m d : Nat) :
    ofMantissaAndAccuracy m .exact >>> (d + 1) =
      ⟨m / 2 ^ (d + 1), m / 2 ^ d % 2 != 0, m % 2 ^ d != 0⟩ := by
  induction d with
  | zero =>
    simp [shiftRight_succ, shiftRight_zero, shiftRightOne, ofMantissaAndAccuracy, Nat.mod_one]
  | succ d ih =>
    rw [shiftRight_succ, ih, shiftRightOne]
    have hsplit : m % 2 ^ (d + 1) = 2 ^ d * (m / 2 ^ d % 2) + m % 2 ^ d := by
      rw [Nat.pow_succ, Nat.mod_mul]
      omega
    have hdiv : m / 2 ^ (d + 1) / 2 = m / 2 ^ (d + 1 + 1) := by
      rw [Nat.div_div_eq_div_mul, ← Nat.pow_succ]
    have hpos : 0 < 2 ^ d := Nat.two_pow_pos d
    simp only [hdiv, ExtendedMantissa.mk.injEq, true_and]
    rcases Nat.mod_two_eq_zero_or_one (m / 2 ^ d) with h | h <;> simp [hsplit, h]

/-- Rounding an exact mantissa after `d` shifts is rounding the quotient by `2 ^ d` half to
even. -/
theorem roundedMantissa_exact_shiftRight (m d : Nat) :
    (ofMantissaAndAccuracy m .exact >>> d).roundedMantissa =
      roundHalfEven (m / 2 ^ d) (m % 2 ^ d) (2 ^ d) := by
  cases d with
  | zero =>
    simp [shiftRight_zero, ofMantissaAndAccuracy, roundedMantissa, accuracy,
      Accuracy.roundToNearestEven, roundHalfEven, Nat.mod_one]
  | succ d =>
    have hsplit : m % 2 ^ (d + 1) = 2 ^ d * (m / 2 ^ d % 2) + m % 2 ^ d := by
      rw [Nat.pow_succ, Nat.mod_mul]
      omega
    have hlow : m % 2 ^ d < 2 ^ d := Nat.mod_lt _ (Nat.two_pow_pos d)
    have hbit : m / 2 ^ d % 2 < 2 := Nat.mod_lt _ (by decide)
    rw [exact_shiftRight_succ, hsplit]
    generalize m / 2 ^ (d + 1) = q
    generalize m / 2 ^ d % 2 = b at hbit ⊢
    generalize m % 2 ^ d = r at hlow ⊢
    rw [Nat.pow_succ, Nat.mul_comm (2 ^ d) 2]
    by_cases hr : r = 0
    · -- no sticky bit: exact when the round bit is clear, a tie when it is set
      subst hr
      interval_cases b
      · simp [roundedMantissa, accuracy, Accuracy.roundToNearestEven, roundHalfEven]
      · simp [roundedMantissa, accuracy, Accuracy.roundToNearestEven, roundHalfEven]
        split <;> omega
    · have hsticky : (r != 0) = true := bne_iff_ne.mpr hr
      rw [hsticky]
      interval_cases b <;>
        simp [roundedMantissa, accuracy, Accuracy.roundToNearestEven, roundHalfEven] <;> omega

end Shift

/-! ## What rounding returns -/

/-- The number of low bits that rounding a mantissa `m` at exponent `e` drops: those below
the exponent the format gives the leading bit's position, and none below the subnormal
exponent. -/
def droppedBits (m : Nat) (e : Int) : Nat :=
  (Format.binary64.targetExponent (totalExponent m e) - e).toNat

/-- What rounding assembles from a rounded mantissa `r` at exponent `u`: a zero, the mantissa
itself below `2 ^ 53`, and after a carry into `2 ^ 53` half of it one binade up. -/
def assemble (s : Sign) (r : Nat) (u : Int) : UnpackedFloat :=
  if h : r = 0 then .zero s
  else if r < 2 ^ 53 then .finite s r u (Nat.pos_of_ne_zero h)
  else .finite s (2 ^ 52) (u + 1) (Nat.two_pow_pos 52)

theorem targetExponent_eq (t : Int) :
    Format.binary64.targetExponent t = max (t - 53) (-1074) := rfl

theorem droppedBits_eq (m : Nat) (e : Int) :
    (droppedBits m e : Int) = max (max ((m.log2 : Int) - 52) (-1074 - e)) 0 := by
  simp only [droppedBits, targetExponent_eq, totalExponent]
  omega

/-- The bits rounding keeps number at most `53`. -/
theorem div_droppedBits_lt (m : Nat) (e : Int) : m / 2 ^ droppedBits m e < 2 ^ 53 := by
  have hd := droppedBits_eq m e
  rw [Nat.div_lt_iff_lt_mul (Nat.two_pow_pos _), ← Nat.pow_add]
  calc m < 2 ^ (m.log2 + 1) := Nat.lt_log2_self
    _ ≤ 2 ^ (53 + droppedBits m e) := Nat.pow_le_pow_right (by decide) (by omega)

/-- At or above the subnormal exponent rounding keeps the leading bit. -/
theorem droppedBits_le_log2 {m : Nat} {e : Int} (he : -1074 ≤ e) :
    droppedBits m e ≤ m.log2 := by
  have hd := droppedBits_eq m e
  omega

/-- A rounded mantissa of at most `2 ^ 53` at an exponent no smaller than the subnormal one
is shifted again only after a carry, and then by one bit. -/
theorem droppedBits_rounded {r : Nat} {u : Int} (hr : r ≤ 2 ^ 53) (hu : -1074 ≤ u) :
    droppedBits r u = if r < 2 ^ 53 then 0 else 1 := by
  have hd := droppedBits_eq r u
  split
  · rename_i hlt
    have hlog : r.log2 < 53 := by
      rcases Nat.eq_zero_or_pos r with h0 | hpos
      · simp [h0]
      · exact (Nat.log2_lt (by omega)).2 hlt
    omega
  · have h53 : r = 2 ^ 53 := by omega
    have hlog : r.log2 = 53 := by rw [h53]; exact Nat.log2_two_pow
    omega

theorem roundWithAccuracy_eq (s : Sign) (m : Nat) (e : Int) (acc : Accuracy) :
    roundWithAccuracy .binary64 s m e acc =
      assemble s (ExtendedMantissa.ofMantissaAndAccuracy m acc >>> droppedBits m e).roundedMantissa
        (e + droppedBits m e) := by
  have hr := (roundedMantissa_shiftRight_mem m acc (droppedBits m e)).2
  have hr53 := div_droppedBits_lt m e
  have hu : -1074 ≤ e + droppedBits m e := by have := droppedBits_eq m e; omega
  unfold roundWithAccuracy shiftToTargetExponent shiftToExponent
  simp only
  rw [show (Format.binary64.targetExponent (totalExponent m e) - e).toNat = droppedBits m e
    from rfl]
  generalize (ExtendedMantissa.ofMantissaAndAccuracy m acc >>> droppedBits m e).roundedMantissa = r
    at hr ⊢
  generalize e + (droppedBits m e : Int) = u at hu ⊢
  rw [show (Format.binary64.targetExponent (totalExponent r u) - u).toNat = droppedBits r u
    from rfl, droppedBits_rounded (by omega) hu]
  unfold assemble
  split
  · simp [shiftRight_zero]
  · rename_i hcarry
    have h53 : r = 2 ^ 53 := by omega
    subst h53
    have hhalf :
        (ExtendedMantissa.ofMantissaAndAccuracy (2 ^ 53) .exact >>> 1).mantissa = 2 ^ 52 := by
      rw [mantissa_shiftRight, mantissa_ofMantissaAndAccuracy]
      norm_num
    simp only [hhalf]
    simp

/-! ## Kinds and bounds of unpacked values -/

/-- Values that carry the sign `s`: a zero, a finite number or an infinity of that sign. -/
def Signed (s : Sign) : UnpackedFloat → Prop
  | .zero t => t = s
  | .finite t .. => t = s
  | .infinity t => t = s
  | .notANumber => False

/-- A zero, or a finite number of magnitude at most `2 ^ K`. -/
def AtMost (K : Int) : UnpackedFloat → Prop
  | .zero _ => True
  | .finite _ m e _ => e ≤ K ∧ m ≤ 2 ^ (K - e).toNat
  | _ => False

/-- A finite number of magnitude at least `2 ^ K`. -/
def AtLeast (K : Int) : UnpackedFloat → Prop
  | .finite _ m e _ => 2 ^ (K - e).toNat ≤ m
  | _ => False

/-- A positive number other than zero: finite with an exponent of at least `E`, or
infinite. -/
def PositiveFrom (E : Int) : UnpackedFloat → Prop
  | .finite .positive _ e _ => E ≤ e
  | .infinity .positive => True
  | _ => False

theorem Signed.isNaN {s : Sign} {u : UnpackedFloat} (h : Signed s u) : u.isNaN = false := by
  cases u <;> simp_all [Signed, UnpackedFloat.isNaN]

theorem AtMost.isNaN {K : Int} {u : UnpackedFloat} (h : AtMost K u) : u.isNaN = false := by
  cases u <;> simp_all [AtMost, UnpackedFloat.isNaN]

theorem PositiveFrom.isNaN {E : Int} {u : UnpackedFloat} (h : PositiveFrom E u) :
    u.isNaN = false := by
  rcases u with ⟨_ | _⟩ | _ | _ | ⟨_ | _, _, _, _⟩ <;>
    simp_all [PositiveFrom, UnpackedFloat.isNaN]

theorem Signed.shape {s : Sign} {u : UnpackedFloat} (h : Signed s u) :
    u = .zero s ∨ (∃ m e hm, u = .finite s m e hm) ∨ u = .infinity s := by
  cases u with
  | zero t => exact .inl (h ▸ rfl)
  | finite t m e hm => exact .inr (.inl ⟨m, e, hm, h ▸ rfl⟩)
  | infinity t => exact .inr (.inr (h ▸ rfl))
  | notANumber => exact h.elim

theorem PositiveFrom.shape {E : Int} {u : UnpackedFloat} (h : PositiveFrom E u) :
    (∃ m e hm, u = .finite .positive m e hm ∧ E ≤ e) ∨ u = .infinity .positive := by
  rcases u with ⟨_ | _⟩ | _ | _ | ⟨_ | _, m, e, hm⟩
  · exact h.elim
  · exact .inr rfl
  · exact h.elim
  · exact h.elim
  · exact h.elim
  · exact .inl ⟨m, e, hm, rfl, h⟩

theorem AtMost.mono {K K' : Int} {u : UnpackedFloat} (hK : K ≤ K') (h : AtMost K u) :
    AtMost K' u := by
  cases u with
  | zero => trivial
  | finite s m e hm =>
    obtain ⟨he, hb⟩ := h
    exact ⟨by omega, hb.trans (Nat.pow_le_pow_right (by decide) (by omega))⟩
  | _ => exact h.elim

theorem PositiveFrom.mono {E E' : Int} {u : UnpackedFloat} (hE : E' ≤ E) (h : PositiveFrom E u) :
    PositiveFrom E' u := by
  rcases u with ⟨_ | _⟩ | _ | _ | ⟨_ | _, _, _, _⟩ <;> simp_all [PositiveFrom]
  omega

/-! ## Rounding by a power of two -/

/-- The rounded quotient stays at or below any multiple of the divisor above the dividend. -/
theorem roundHalfEven_le_of_le {m k d : Nat} (h : m ≤ k * 2 ^ d) :
    roundHalfEven (m / 2 ^ d) (m % 2 ^ d) (2 ^ d) ≤ k := by
  have hpos : 0 < 2 ^ d := Nat.two_pow_pos d
  have hq : m / 2 ^ d ≤ k := Nat.div_le_of_le_mul (by rwa [Nat.mul_comm])
  rcases Nat.lt_or_ge (m / 2 ^ d) k with hlt | hge
  · exact (roundHalfEven_le _ _ _).trans hlt
  · -- the dividend is that multiple itself, so nothing is rounded
    have hqk : m / 2 ^ d = k := le_antisymm hq hge
    have hsplit := Nat.div_add_mod m (2 ^ d)
    rw [hqk, Nat.mul_comm] at hsplit
    have hr : m % 2 ^ d = 0 := by omega
    rw [hqk, hr]
    unfold roundHalfEven
    rw [if_neg (by omega)]

/-- A dividend less than half a divisor above a multiple rounds to that multiple. -/
theorem roundHalfEven_eq_of_near {m k d : Nat} (hlo : k * 2 ^ d ≤ m)
    (hhi : 2 * (m - k * 2 ^ d) < 2 ^ d) : roundHalfEven (m / 2 ^ d) (m % 2 ^ d) (2 ^ d) = k := by
  have hpos : 0 < 2 ^ d := Nat.two_pow_pos d
  have hq : m / 2 ^ d = k := Nat.div_eq_of_lt_le hlo (by rw [Nat.succ_mul]; omega)
  have hr : m % 2 ^ d = m - k * 2 ^ d := by
    rw [Nat.mod_eq_sub, hq, Nat.mul_comm]
  rw [hq, hr]
  unfold roundHalfEven
  rw [if_neg (by omega)]

/-! ## What rounding returns -/

theorem signed_assemble (s : Sign) (r : Nat) (u : Int) : Signed s (assemble s r u) := by
  unfold assemble
  split_ifs <;> rfl

/-- A rounded mantissa within `2 ^ K` at exponent `u` assembles to a value within `2 ^ K`,
also after a carry. -/
theorem atMost_assemble (s : Sign) {r : Nat} {u K : Int} (hu : u ≤ K)
    (hr : r ≤ 2 ^ (K - u).toNat) : AtMost K (assemble s r u) := by
  unfold assemble
  split_ifs with h0 h53
  · trivial
  · exact ⟨hu, hr⟩
  · have hK : 53 ≤ (K - u).toNat :=
      (Nat.pow_le_pow_iff_right (by decide)).1 (le_trans (by omega) hr)
    refine ⟨by omega, Nat.pow_le_pow_right (by decide) (by omega)⟩

/-- At least `2 ^ K` before assembly stays at least `2 ^ K`, also after a carry. -/
theorem atLeast_assemble (s : Sign) {r : Nat} {u K : Int} (hr53 : r ≤ 2 ^ 53)
    (hr : 2 ^ (K - u).toNat ≤ r) : AtLeast K (assemble s r u) := by
  have hr0 : r ≠ 0 := Nat.pos_iff_ne_zero.mp (lt_of_lt_of_le (Nat.two_pow_pos _) hr)
  unfold assemble
  rw [dif_neg hr0]
  split_ifs with h53
  · exact hr
  · have hK : (K - u).toNat ≤ 53 := (Nat.pow_le_pow_iff_right (by decide)).1 (hr.trans hr53)
    exact Nat.pow_le_pow_right (by decide) (by omega)

/-- The exponent rounding gives: `e` itself when no bit is dropped, else the target one. -/
theorem le_add_droppedBits (m : Nat) (e : Int) :
    -1074 ≤ e + droppedBits m e ∧ e ≤ e + droppedBits m e ∧
      (m.log2 : Int) - 52 + e ≤ e + droppedBits m e := by
  have hd := droppedBits_eq m e
  omega

/-- Rounding an exact value of magnitude at most `2 ^ K` keeps it at most `2 ^ K`, as a
power of two at or above the subnormal exponent is a float. -/
theorem atMost_roundWithAccuracy_exact (s : Sign) {m : Nat} {e K : Int} (hK : -1074 ≤ K)
    (he : e ≤ K) (hm : m ≤ 2 ^ (K - e).toNat) :
    AtMost K (roundWithAccuracy .binary64 s m e .exact) := by
  rw [roundWithAccuracy_eq, roundedMantissa_exact_shiftRight]
  rcases Nat.eq_zero_or_pos m with rfl | hm0
  · simp [assemble, roundHalfEven, AtMost]
  · have hL : m.log2 ≤ (K - e).toNat :=
      (Nat.pow_le_pow_iff_right (by decide)).1
        ((Nat.log2_self_le (Nat.pos_iff_ne_zero.mp hm0)).trans hm)
    have hd := droppedBits_eq m e
    have hu : e + droppedBits m e ≤ K := by omega
    apply atMost_assemble s hu
    apply roundHalfEven_le_of_le
    rw [← Nat.pow_add]
    exact hm.trans (Nat.pow_le_pow_right (by decide) (by omega))

/-- Rounding with any accuracy keeps a value of magnitude at most `2 ^ K` below `2 ^ (K + 1)`:
the rounded mantissa exceeds the truncated one by at most one unit. -/
theorem atMost_roundWithAccuracy (s : Sign) (acc : Accuracy) {m : Nat} {e K : Int}
    (hK : -1074 ≤ K) (he : e ≤ K) (hm : m ≤ 2 ^ (K - e).toNat) :
    AtMost (K + 1) (roundWithAccuracy .binary64 s m e acc) := by
  rw [roundWithAccuracy_eq]
  have hr := (roundedMantissa_shiftRight_mem m acc (droppedBits m e)).2
  rcases Nat.eq_zero_or_pos m with rfl | hm0
  · have hd := droppedBits_eq 0 e
    rw [Nat.log2_zero] at hd
    exact atMost_assemble s (by omega) (hr.trans (by simp [Nat.one_le_two_pow]))
  · have hL : m.log2 ≤ (K - e).toNat :=
      (Nat.pow_le_pow_iff_right (by decide)).1
        ((Nat.log2_self_le (Nat.pos_iff_ne_zero.mp hm0)).trans hm)
    have hd := droppedBits_eq m e
    have hu : e + droppedBits m e ≤ K := by omega
    -- the truncated mantissa is within `2 ^ (K - u)`, and one more unit stays within twice it
    have hq : m / 2 ^ droppedBits m e ≤ 2 ^ (K - (e + droppedBits m e)).toNat := by
      apply Nat.div_le_of_le_mul
      rw [← Nat.pow_add]
      exact hm.trans (Nat.pow_le_pow_right (by decide) (by omega))
    apply atMost_assemble s (by omega)
    have hsplit : 2 ^ (K + 1 - (e + droppedBits m e)).toNat =
        2 * 2 ^ (K - (e + droppedBits m e)).toNat := by
      rw [← Nat.pow_succ']
      congr 1
      omega
    have hpos := Nat.two_pow_pos (K - (e + droppedBits m e)).toNat
    omega

/-- Rounding at or above the subnormal exponent keeps the leading bit, so a nonzero
mantissa stays nonzero. -/
theorem pos_roundedMantissa (acc : Accuracy) {m : Nat} {e : Int} (hm : 0 < m) (he : -1074 ≤ e) :
    0 < (ExtendedMantissa.ofMantissaAndAccuracy m acc >>> droppedBits m e).roundedMantissa := by
  have hr := (roundedMantissa_shiftRight_mem m acc (droppedBits m e)).1
  have hq : 0 < m / 2 ^ droppedBits m e := by
    apply Nat.div_pos _ (Nat.two_pow_pos _)
    calc 2 ^ droppedBits m e ≤ 2 ^ m.log2 :=
          Nat.pow_le_pow_right (by decide) (droppedBits_le_log2 he)
      _ ≤ m := Nat.log2_self_le (Nat.pos_iff_ne_zero.mp hm)
  omega

/-- Rounding at or above the subnormal exponent keeps a value of at least `2 ^ K` at least
`2 ^ K`. -/
theorem atLeast_roundWithAccuracy_exact (s : Sign) {m : Nat} {e K : Int} (he : -1074 ≤ e)
    (hm : 2 ^ (K - e).toNat ≤ m) : AtLeast K (roundWithAccuracy .binary64 s m e .exact) := by
  have hm0 : 0 < m := lt_of_lt_of_le (Nat.two_pow_pos _) hm
  have hr := roundedMantissa_shiftRight_mem m .exact (droppedBits m e)
  have hd := droppedBits_eq m e
  have hdL := droppedBits_le_log2 (m := m) he
  rw [roundWithAccuracy_eq]
  apply atLeast_assemble s (by have := div_droppedBits_lt m e; omega)
  -- the truncated mantissa is already at least `2 ^ (K - u)`
  refine le_trans ?_ hr.1
  rw [Nat.le_div_iff_mul_le (Nat.two_pow_pos _), ← Nat.pow_add]
  by_cases hK : e + droppedBits m e ≤ K
  · exact le_trans (Nat.pow_le_pow_right (by decide) (by omega)) hm
  · calc 2 ^ ((K - (e + droppedBits m e)).toNat + droppedBits m e)
        = 2 ^ droppedBits m e := by congr 1; omega
      _ ≤ 2 ^ m.log2 := Nat.pow_le_pow_right (by decide) hdL
      _ ≤ m := Nat.log2_self_le (Nat.pos_iff_ne_zero.mp hm0)

/-- A mantissa of at least `53` bits at or above the subnormal exponent rounds to a normal
number. -/
theorem roundWithAccuracy_normal (s : Sign) {m : Nat} {e : Int} (hlog : 52 ≤ m.log2)
    (he : -1074 ≤ e) :
    ∃ r u h, roundWithAccuracy .binary64 s m e .exact = .finite s r u h ∧
      2 ^ 52 ≤ r ∧ r < 2 ^ 53 ∧ -1074 ≤ u := by
  have hm0 : 0 < m := Nat.pos_of_ne_zero (fun h => by simp [h] at hlog)
  have hr := roundedMantissa_shiftRight_mem m .exact (droppedBits m e)
  have hd := droppedBits_eq m e
  have hdrop : droppedBits m e = m.log2 - 52 := by omega
  -- the kept bits are the leading `53`
  have hq : 2 ^ 52 ≤ m / 2 ^ droppedBits m e := by
    rw [Nat.le_div_iff_mul_le (Nat.two_pow_pos _), ← Nat.pow_add, hdrop]
    calc 2 ^ (52 + (m.log2 - 52)) = 2 ^ m.log2 := by congr 1; omega
      _ ≤ m := Nat.log2_self_le (Nat.pos_iff_ne_zero.mp hm0)
  have h53 := div_droppedBits_lt m e
  rw [roundWithAccuracy_eq]
  generalize
    (ExtendedMantissa.ofMantissaAndAccuracy m .exact >>> droppedBits m e).roundedMantissa = r
    at hr ⊢
  unfold assemble
  rw [dif_neg (by omega)]
  split_ifs with hlt
  · exact ⟨r, _, by omega, rfl, by omega, hlt, by omega⟩
  · exact ⟨2 ^ 52, _, Nat.two_pow_pos 52, rfl, le_rfl, by decide, by omega⟩

/-- A value at most `2 ^ J` above `2 ^ K`, with `J` at least `54` binades lower, rounds back
to `2 ^ K`: floats above `2 ^ K` are `2 ^ (K - 52)` apart. -/
theorem atMost_roundWithAccuracy_near (s : Sign) {m : Nat} {e J K : Int} (hK : -1021 ≤ K)
    (hJ : J + 54 ≤ K) (he : e ≤ J) (hlo : 2 ^ (K - e).toNat ≤ m)
    (hhi : m ≤ 2 ^ (K - e).toNat + 2 ^ (J - e).toNat) :
    AtMost K (roundWithAccuracy .binary64 s m e .exact) := by
  have hsmall : 2 ^ (J - e).toNat < 2 ^ (K - e).toNat :=
    Nat.pow_lt_pow_right (by decide) (by omega)
  -- the value has `K - e + 1` bits, so rounding drops `K - e - 52` of them
  have hlog : m.log2 = (K - e).toNat := by
    apply le_antisymm
    · exact Nat.lt_succ_iff.mp ((Nat.log2_lt (by omega)).2 (by rw [Nat.pow_succ]; omega))
    · exact (Nat.le_log2 (by omega)).2 hlo
  have hd := droppedBits_eq m e
  have hdrop : droppedBits m e = (K - e).toNat - 52 := by omega
  have hk : 2 ^ 52 * 2 ^ ((K - e).toNat - 52) = 2 ^ (K - e).toNat := by
    rw [← Nat.pow_add]
    congr 1
    omega
  -- the excess over `2 ^ K` is at most a quarter of the spacing
  have hex : 2 ^ (J - e).toNat * 4 ≤ 2 ^ ((K - e).toNat - 52) := by
    rw [show 4 = 2 ^ 2 from rfl, ← Nat.pow_add]
    exact Nat.pow_le_pow_right (by decide) (by omega)
  rw [roundWithAccuracy_eq, roundedMantissa_exact_shiftRight, hdrop,
    @roundHalfEven_eq_of_near m (2 ^ 52) _ (by omega) (by omega)]
  exact atMost_assemble s (by omega) (Nat.pow_le_pow_right (by decide) (by omega))

/-! ## Storing a result -/

/-- What an operation's unpacked result reads as once it is stored in a `Float`. -/
def repack (u : UnpackedFloat) : UnpackedFloat := (Float.Model.pack u).unpack

theorem repack_eq (u : UnpackedFloat) :
    repack u = UnpackedFloat.unpack .binary64 (UnpackedFloat.pack .binary64 u) := by
  simp [repack, Float.Model.pack, Float.Model.unpack]

@[simp] theorem repack_zero (s : Sign) : repack (.zero s) = .zero s := by
  cases s <;> rfl

@[simp] theorem repack_infinity (s : Sign) : repack (.infinity s) = .infinity s := by
  cases s <;> rfl

@[simp] theorem repack_notANumber : repack .notANumber = .notANumber := rfl

theorem sign_packComponents (s : Sign) (E : BitVec 11) (M : BitVec 52) :
    Sign.ofBitVec (unpackSign (packComponents .binary64 s E M)) = s := by
  simp only [unpackSign, packComponents, BitVec.extractLsb]
  rw [BitVec.extractLsb'_append_eq_of_le (by omega), BitVec.extractLsb'_append_eq_of_le (by omega)]
  cases s <;> rfl

/-- A biased exponent strictly between the reserved ones spells a normal number, whose
mantissa has the implicit bit `2 ^ 52` in front of the stored fraction. -/
theorem unpack_packComponents_normal (s : Sign) {E M : Nat} (h0 : 0 < E) (h1 : E < 2047)
    (hM : M < 2 ^ 52) :
    UnpackedFloat.unpack .binary64
        (packComponents .binary64 s (BitVec.ofNat 11 E) (BitVec.ofNat 52 M)) =
      .finite s (2 ^ 52 + M) ((E : Int) - 1075) (by positivity) := by
  rw [UnpackedFloat.unpack]
  simp only [unpackMantissa_packComponents, unpackExponent_packComponents, sign_packComponents]
  have hne1 : BitVec.ofNat 11 E ≠ -1#11 := by
    intro h
    have := congrArg BitVec.toNat h
    simp at this
    omega
  have hne0 : BitVec.ofNat 11 E ≠ 0#11 := by
    intro h
    have := congrArg BitVec.toNat h
    simp at this
    omega
  rw [if_neg hne1, if_neg hne0]
  have hmant : (1#1 ++ BitVec.ofNat 52 M).toNat = 2 ^ 52 + M := by
    rw [BitVec.toNat_append, ← Nat.shiftLeft_add_eq_or_of_lt (BitVec.ofNat 52 M).isLt]
    simp [Nat.shiftLeft_eq]
    omega
  simp only [hmant, BitVec.toNat_ofNat, Format.exponentBias]
  congr 1
  omega

/-- A zero exponent field and a stored mantissa other than zero spell a subnormal number. -/
theorem unpack_packComponents_subnormal (s : Sign) {M : Nat} (h0 : 0 < M) (hM : M < 2 ^ 52) :
    UnpackedFloat.unpack .binary64 (packComponents .binary64 s 0#11 (BitVec.ofNat 52 M)) =
      .finite s M (-1074) h0 := by
  rw [UnpackedFloat.unpack]
  simp only [unpackMantissa_packComponents, unpackExponent_packComponents, sign_packComponents]
  have hmant : (BitVec.ofNat 52 M).toNat = M := by simp; omega
  have hne : BitVec.ofNat 52 M ≠ 0#52 := by
    intro h
    have := congrArg BitVec.toNat h
    rw [hmant] at this
    simp at this
    omega
  rw [if_neg (by decide), if_pos trivial, dif_neg hne]
  simp only [hmant, Format.exponentBias]
  rfl

/-- An exponent field that is not all ones spells a zero or a finite number, of the
pattern's sign. -/
theorem signed_unpack_packComponents (s : Sign) {E : BitVec 11} (M : BitVec 52)
    (hE : E ≠ -1#11) :
    Signed s (UnpackedFloat.unpack .binary64 (packComponents .binary64 s E M)) := by
  rw [UnpackedFloat.unpack]
  simp only [unpackMantissa_packComponents, unpackExponent_packComponents, sign_packComponents]
  rw [if_neg hE]
  split
  · split <;> rfl
  · rfl

theorem biasedExponent_eq (e : Int) :
    (e + (Format.binary64.exponentBias : Int) +
      (Format.binary64.mantissaBitsWithoutImplicit : Int)).toNat = (e + 1075).toNat := by
  simp only [Format.exponentBias]
  omega

/-- A mantissa that `pack` stores as normal has `53` significant bits. -/
theorem normal_of_log2 {m : Nat} (hm : 0 < m) (hlog : m.log2 + 1 = Format.binary64.mantissaBits) :
    2 ^ 52 ≤ m ∧ m < 2 ^ 53 :=
  (Nat.log2_eq_iff hm.ne').1 (by simp [Format.mantissaBits] at hlog; omega)

/-- The mantissa field of a normal number keeps its bits below the implicit one. -/
theorem ofNat_mantissa_normal {m : Nat} (hlo : 2 ^ 52 ≤ m) (hhi : m < 2 ^ 53) :
    BitVec.ofNat 52 m = BitVec.ofNat 52 (m - 2 ^ 52) := by
  apply BitVec.eq_of_toNat_eq
  simp only [BitVec.toNat_ofNat]
  omega

/-- A finite number with at most `53` mantissa bits and an exponent no smaller than the
subnormal one is stored as itself when normal, overflows to an infinity from exponent `972`
on, and otherwise keeps its mantissa at the subnormal exponent. -/
theorem repack_finite (s : Sign) {m : Nat} {e : Int} (hm0 : 0 < m) (hm : m < 2 ^ 53)
    (he : -1074 ≤ e) :
    repack (.finite s m e hm0) =
      if 972 ≤ e then .infinity s
      else if 2 ^ 52 ≤ m then .finite s m e hm0 else .finite s m (-1074) hm0 := by
  rw [repack_eq, UnpackedFloat.pack, biasedExponent_eq]
  split
  · rename_i hinf
    rw [if_pos (by simp at hinf; omega)]
    cases s <;> rfl
  · rename_i hfin
    have hfin' : (e + 1075).toNat < 2047 := by simp at hfin; omega
    rw [if_neg (show ¬972 ≤ e by omega)]
    split
    · -- normal: the leading bit is the implicit one
      rename_i hlog
      obtain ⟨hlo, hhi⟩ := normal_of_log2 hm0 hlog
      rw [if_pos hlo, ofNat_mantissa_normal hlo hhi,
        unpack_packComponents_normal s (by omega) hfin' (by omega)]
      have hmant : 2 ^ 52 + (m - 2 ^ 52) = m := by omega
      have hexp : (((e + 1075).toNat : Nat) : Int) - 1075 = e := by omega
      simp only [hmant, hexp]
    · -- subnormal: the exponent field is zero and the mantissa is stored whole
      rename_i hlog
      have hlt : m < 2 ^ 52 := by
        by_contra hge
        have := (Nat.le_log2 (Nat.pos_iff_ne_zero.mp hm0)).2 (not_lt.mp hge)
        have hl53 : m.log2 < 53 := (Nat.log2_lt (Nat.pos_iff_ne_zero.mp hm0)).2 hm
        simp [Format.mantissaBits] at hlog
        omega
      rw [if_neg (by omega)]
      exact unpack_packComponents_subnormal s hm0 hlt

/-- Storing never changes the sign of a value that has one: a finite number is stored whole,
as a subnormal number, as a zero, or as an infinity, each of its own sign. -/
theorem signed_repack {s : Sign} {u : UnpackedFloat} (h : Signed s u) : Signed s (repack u) := by
  cases u with
  | zero t => simpa using h
  | infinity t => simpa using h
  | notANumber => exact h.elim
  | finite t m e hm =>
    cases h
    rw [repack_eq, UnpackedFloat.pack]
    split
    · cases s <;> rfl
    · rename_i hfin
      have hE : BitVec.ofNat 11 (e + (Format.binary64.exponentBias : Int) +
          (Format.binary64.mantissaBitsWithoutImplicit : Int)).toNat ≠ -1#11 := by
        intro heq
        have := congrArg BitVec.toNat heq
        simp at this hfin
        omega
      split
      · exact signed_unpack_packComponents s _ hE
      · exact signed_unpack_packComponents s _ (by decide)

/-- A zero exponent field spells a zero or a subnormal number, within any bound at or above
`2 ^ -1022`. -/
theorem atMost_unpack_packComponents_zero (s : Sign) (M : BitVec 52) {K : Int} (hK : -1022 ≤ K) :
    AtMost K (UnpackedFloat.unpack .binary64 (packComponents .binary64 s 0#11 M)) := by
  rw [UnpackedFloat.unpack]
  simp only [unpackMantissa_packComponents, unpackExponent_packComponents]
  rw [if_neg (by decide), if_pos trivial]
  split
  · trivial
  · refine ⟨by simp [Format.exponentBias]; omega, ?_⟩
    calc M.toNat ≤ 2 ^ 52 := M.isLt.le
      _ ≤ _ := Nat.pow_le_pow_right (by decide) (by simp [Format.exponentBias]; omega)

/-- Storing keeps a bound by a power of two in the range of finite numbers: a normal number
is stored whole, anything else at most as a subnormal number. -/
theorem atMost_repack {K : Int} (hK : -1022 ≤ K) (hK' : K ≤ 971) {u : UnpackedFloat}
    (h : AtMost K u) : AtMost K (repack u) := by
  cases u with
  | zero s => simpa using h
  | finite s m e hm =>
    obtain ⟨he, hb⟩ := h
    rw [repack_eq, UnpackedFloat.pack, biasedExponent_eq]
    rw [if_neg (by simp; omega)]
    split
    · rename_i hlog
      obtain ⟨hlo, hhi⟩ := normal_of_log2 hm hlog
      by_cases hsub : (e + 1075).toNat = 0
      · -- below the normal range the exponent field is zero
        rw [hsub]
        exact atMost_unpack_packComponents_zero s _ hK
      · rw [ofNat_mantissa_normal hlo hhi,
          unpack_packComponents_normal s (by omega) (by omega) (by omega)]
        refine ⟨by omega, ?_⟩
        calc 2 ^ 52 + (m - 2 ^ 52) = m := by omega
          _ ≤ _ := hb.trans (Nat.pow_le_pow_right (by decide) (by omega))
    · exact atMost_unpack_packComponents_zero s _ hK
  | _ => exact h.elim

end Binary64

end Runbook
