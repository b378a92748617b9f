import Runbook.Proofs.Number.FloatBits
/-!
# Rounding large integers to binary64

An integer `m` of at least `54` bits keeps its leading `53` bits when it is rounded to the
nearest binary64 value: the dropped bits are the last `largeShift m = log2 m - 52`, and the
kept ones, rounded half to even, form `largeSignificand m`, which may carry into `2 ^ 53`.
The value is finite exactly below `overflowThreshold = 2 ^ 1024 - 2 ^ 970`, the midpoint
between the largest finite value and `2 ^ 1024`; at and above it the result is an infinity.
Rounding never goes below the leading power of two of `m`.

Main statement: `Binary64.ofFloat_nearest_large`. The float nearest to a large integer is
infinite from the threshold on, and below it is finite, truncates to an integer of the
same sign, and is at least `2 ^ log2 m` in magnitude.
-/

namespace Runbook.Binary64

/-- The exponent of the last kept bit when an integer of at least `54` bits is rounded to
`53` significant bits. -/
def largeShift (m : Nat) : Nat := m.log2 - 52

/-- The `53`-bit significand of such an integer, rounded to nearest with ties to even; a
carry may take it to `2 ^ 53`. -/
def largeSignificand (m : Nat) : Nat :=
  roundHalfEven (m / 2 ^ largeShift m) (m % 2 ^ largeShift m) (2 ^ largeShift m)

theorem scaledDivMod_one (m e : Nat) :
    scaledDivMod m 1 (e : Int) = (m / 2 ^ e, m % 2 ^ e, 2 ^ e) := by
  have he : ¬((e : Int) < 0) := by omega
  simp [scaledDivMod, he, Nat.pow_eq]

theorem le_roundHalfEven (q r d : Nat) : q ≤ roundHalfEven q r d := by
  unfold roundHalfEven; split <;> omega

theorem roundHalfEven_le (q r d : Nat) : roundHalfEven q r d ≤ q + 1 := by
  unfold roundHalfEven; split <;> omega

theorem largeShift_spec {m : Nat} (hm : 2 ^ 53 ≤ m) :
    0 < largeShift m ∧ largeShift m + 52 = m.log2 ∧ 2 ^ (largeShift m + 52) ≤ m ∧
      m < 2 ^ (largeShift m + 53) := by
  have hm0 : m ≠ 0 := by omega
  have hL : 53 ≤ m.log2 := (Nat.le_log2 hm0).2 hm
  have hsum : largeShift m + 52 = m.log2 := by unfold largeShift; omega
  refine ⟨by omega, hsum, ?_, ?_⟩
  · rw [hsum]; exact Nat.log2_self_le hm0
  · rw [show largeShift m + 53 = m.log2 + 1 by omega]; exact Nat.lt_log2_self

/-- Dropping the last `largeShift m` bits leaves `53` of them. -/
theorem div_largeShift_mem {m : Nat} (hm : 2 ^ 53 ≤ m) :
    2 ^ 52 ≤ m / 2 ^ largeShift m ∧ m / 2 ^ largeShift m < 2 ^ 53 := by
  obtain ⟨-, -, hlo, hhi⟩ := largeShift_spec hm
  have hpos : 0 < 2 ^ largeShift m := Nat.two_pow_pos _
  constructor
  · rw [Nat.le_div_iff_mul_le hpos, ← Nat.pow_add, Nat.add_comm]; exact hlo
  · rw [Nat.div_lt_iff_lt_mul hpos, ← Nat.pow_add, Nat.add_comm]; exact hhi

theorem roundBits_large (negative : Bool) {m : Nat} (hm : 2 ^ 53 ≤ m) :
    roundBits negative m 1 =
      if largeSignificand m = 2 * hidden then
        (if (largeShift m : Int) + 1 > maxExponent then infinityBits negative
        else signBit negative + (largeShift m + 1076) * hidden)
      else if (largeShift m : Int) > maxExponent then infinityBits negative
      else signBit negative + (largeShift m + 1075) * hidden + (largeSignificand m - hidden) := by
  obtain ⟨hs, hsum, hlo, -⟩ := largeShift_spec hm
  have hq := div_largeShift_mem hm
  have hlog1 : Nat.log2 1 = 0 := rfl
  -- the first estimate of the exponent is one too low, and the check on the quotient fixes it
  have he0 : (m.log2 : Int) - (Nat.log2 1 : Nat) - 53 = ((largeShift m - 1 : Nat) : Int) := by
    rw [hlog1]; omega
  have hfirst : 2 * hidden ≤ m / 2 ^ (largeShift m - 1) := by
    rw [Nat.le_div_iff_mul_le (Nat.two_pow_pos _), show 2 * hidden = 2 ^ 53 from rfl,
      ← Nat.pow_add]
    calc 2 ^ (53 + (largeShift m - 1)) = 2 ^ (largeShift m + 52) := by congr 1; omega
      _ ≤ m := hlo
  have he :
      max (((largeShift m - 1 : Nat) : Int) + 1) minExponent = ((largeShift m : Nat) : Int) := by
    simp only [minExponent]; omega
  unfold roundBits
  rw [if_neg (by omega)]
  dsimp only
  rw [he0, scaledDivMod_one, if_pos hfirst, he, scaledDivMod_one]
  dsimp only
  have hQ : roundHalfEven (m / 2 ^ largeShift m) (m % 2 ^ largeShift m) (2 ^ largeShift m) =
      largeSignificand m := rfl
  have hQlo : hidden ≤ largeSignificand m := le_trans hq.1 (le_roundHalfEven _ _ _)
  rw [hQ]
  by_cases hcarry : largeSignificand m = 2 * hidden
  · simp only [if_pos hcarry]
    split
    · rfl
    · have hbiased : ((largeShift m : Int) + 1 + 1075).toNat = largeShift m + 1076 := by omega
      rw [if_neg (by decide), hbiased, Nat.sub_self, Nat.add_zero]
  · simp only [if_neg hcarry]
    split
    · rfl
    · have hbiased : ((largeShift m : Int) + 1075).toNat = largeShift m + 1075 := by omega
      rw [if_neg (by omega), hbiased]

/-- The least integer whose nearest binary64 value is infinite: halfway between the largest
finite value `(2 ^ 53 - 1) * 2 ^ 971` and `2 ^ 1024`, where a tie goes to the even
significand and so overflows. -/
def overflowThreshold : Nat := 2 ^ 1024 - 2 ^ 970

/-- The significand carries into `2 ^ 53` exactly when the kept bits are all ones and the
dropped ones reach half a unit. -/
theorem largeSignificand_carry_iff {m : Nat} (hm : 2 ^ 53 ≤ m) :
    largeSignificand m = 2 * hidden ↔
      m / 2 ^ largeShift m = 2 ^ 53 - 1 ∧ 2 ^ largeShift m ≤ 2 * (m % 2 ^ largeShift m) := by
  have hq := div_largeShift_mem hm
  have hr : m % 2 ^ largeShift m < 2 ^ largeShift m := Nat.mod_lt _ (Nat.two_pow_pos _)
  have hidden_val : hidden = 2 ^ 52 := rfl
  unfold largeSignificand roundHalfEven
  rw [hidden_val]
  split <;> omega

/-- The threshold and the powers of two around it, in units of `2 ^ 970`. -/
theorem overflowThreshold_units :
    overflowThreshold + 2 ^ 970 = 2 ^ 54 * 2 ^ 970 ∧ 2 ^ 1023 = 2 ^ 53 * 2 ^ 970 ∧
      2 ^ 1024 = 2 ^ 54 * 2 ^ 970 ∧ 2 ^ 971 = 2 * 2 ^ 970 := by
  have h1024 : 2 ^ 1024 = 2 ^ 54 * 2 ^ 970 := by rw [← pow_add]
  refine ⟨?_, by rw [← pow_add], h1024, by rw [Nat.mul_comm, ← pow_succ]⟩
  unfold overflowThreshold
  rw [Nat.sub_add_cancel (pow_le_pow_right₀ (by norm_num) (by norm_num)), h1024]

/-- A large integer rounds to a finite value exactly below the threshold: its shift is at
most `970`, or `971` without a carry into the next power of two. -/
theorem lt_overflowThreshold_iff {m : Nat} (hm : 2 ^ 53 ≤ m) :
    m < overflowThreshold ↔
      largeShift m ≤ 970 ∨ (largeShift m = 971 ∧ largeSignificand m ≠ 2 * hidden) := by
  obtain ⟨-, -, hlo, hhi⟩ := largeShift_spec hm
  obtain ⟨hT, h1023, h1024, h971⟩ := overflowThreshold_units
  have hD : 0 < 2 ^ 970 := by positivity
  rcases Nat.lt_trichotomy (largeShift m) 971 with hlt | heq | hgt
  · -- below `2 ^ 1023`, far from the threshold
    have hbelow : m < 2 ^ 1023 :=
      lt_of_lt_of_le hhi (pow_le_pow_right₀ (by norm_num) (by omega))
    constructor
    · intro _; left; omega
    · intro _; omega
  · -- in the last binade the carry decides
    have hq := (div_largeShift_mem hm).2
    rw [ne_eq, largeSignificand_carry_iff hm, heq, h971]
    rw [heq] at hq
    rw [h971] at hq
    have hsplit := Nat.div_add_mod' m (2 * 2 ^ 970)
    have hr : m % (2 * 2 ^ 970) < 2 * 2 ^ 970 := Nat.mod_lt _ (by omega)
    generalize m / (2 * 2 ^ 970) = q at *
    generalize m % (2 * 2 ^ 970) = r at *
    generalize 2 ^ 970 = D at *
    by_cases hq1 : q = 2 ^ 53 - 1
    · subst hq1
      omega
    · have hmul : (q + 1) * (2 * D) ≤ (2 ^ 53 - 1) * (2 * D) := Nat.mul_le_mul_right _ (by omega)
      rw [Nat.succ_mul] at hmul
      omega
  · -- at `2 ^ 1024` and above, past the threshold
    have habove : 2 ^ 1024 ≤ m :=
      le_trans (pow_le_pow_right₀ (by norm_num) (by omega)) hlo
    constructor
    · intro h; omega
    · intro h; omega

/-- The exact value of a finite float with a nonnegative exponent, rounded toward zero, is
itself. -/
theorem truncate_finite_natExponent (negative : Bool) (M e : Nat) :
    truncate (.finite negative M (e : Int)) =
      some (if negative then -((M * 2 ^ e : Nat) : Int) else ((M * 2 ^ e : Nat) : Int)) := by
  have he : ¬((e : Int) < 0) := by omega
  simp [truncate, he, Nat.pow_eq]

/-- The pattern of a large integer rounded to binary64: an infinity at and above the
threshold, and below it a normal number with a nonnegative exponent whose value is at least
the integer's leading power of two. -/
theorem ofBits_roundBits_large (negative : Bool) {m : Nat} (hm : 2 ^ 53 ≤ m) :
    roundBits negative m 1 < 2 ^ 64 ∧
      (overflowThreshold ≤ m → ofBits (roundBits negative m 1) = .infinite negative) ∧
      (m < overflowThreshold → ∃ M e : Nat, 2 ^ m.log2 ≤ M * 2 ^ e ∧
        ofBits (roundBits negative m 1) = .finite negative M (e : Int)) := by
  obtain ⟨hs, hsum, -, -⟩ := largeShift_spec hm
  have hq := div_largeShift_mem hm
  have hQlo : hidden ≤ largeSignificand m := le_trans hq.1 (le_roundHalfEven _ _ _)
  have hQhi : largeSignificand m ≤ 2 * hidden := le_trans (roundHalfEven_le _ _ _) hq.2
  have hfinite := lt_overflowThreshold_iff hm
  have hmax : maxExponent = 971 := rfl
  rw [roundBits_large negative hm]
  by_cases hcarry : largeSignificand m = 2 * hidden
  · -- a carry: the significand is `2 ^ 52`, one binade up
    simp only [if_pos hcarry, hmax]
    split
    · refine ⟨infinityBits_lt negative, fun _ => ofBits_infinityBits negative, fun hlt => ?_⟩
      have := hfinite.1 hlt
      omega
    · have hbiased : 0 < largeShift m + 1076 ∧ largeShift m + 1076 < 2047 := by omega
      have hdecode := ofBits_normal negative hbiased.1 hbiased.2 (Nat.two_pow_pos 52)
      have hbits := normalBits_lt negative hbiased.2 (Nat.two_pow_pos 52)
      rw [Nat.add_zero] at hdecode hbits
      refine ⟨hbits, fun hge => ?_, fun _ => ⟨hidden, largeShift m + 1, ?_, ?_⟩⟩
      · have := hfinite.2 (.inl (by omega))
        omega
      · rw [← hsum, hidden_eq, ← pow_add]
        exact pow_le_pow_right₀ (by norm_num) (by omega)
      · have he :
            ((largeShift m + 1076 : Nat) : Int) - 1075 = ((largeShift m + 1 : Nat) : Int) := by
          omega
        rw [hdecode, Nat.zero_add, he]
  · -- no carry: the rounded significand stays below `2 ^ 53`
    have hQ : largeSignificand m < 2 * hidden := by omega
    simp only [if_neg hcarry, hmax]
    split
    · refine ⟨infinityBits_lt negative, fun _ => ofBits_infinityBits negative, fun hlt => ?_⟩
      have := hfinite.1 hlt
      omega
    · have hbiased : 0 < largeShift m + 1075 ∧ largeShift m + 1075 < 2047 := by omega
      have hfrac : largeSignificand m - hidden < hidden := by omega
      have hdecode := ofBits_normal negative hbiased.1 hbiased.2 hfrac
      refine ⟨normalBits_lt negative hbiased.2 hfrac, fun hge => ?_,
        fun _ => ⟨largeSignificand m, largeShift m, ?_, ?_⟩⟩
      · have := hfinite.2 (by omega)
        omega
      · rw [← hsum, pow_add, Nat.mul_comm]
        exact Nat.mul_le_mul_right _ (hidden_eq ▸ hQlo)
      · have he : ((largeShift m + 1075 : Nat) : Int) - 1075 = ((largeShift m : Nat) : Int) := by
          omega
        rw [hdecode, Nat.sub_add_cancel hQlo, he]

/-- The float nearest to an integer of at least `54` bits: infinite from the threshold on,
and below it an integer of the same sign no smaller in magnitude than the integer's leading
power of two. -/
theorem ofFloat_nearest_large (negative : Bool) {m : Nat} (hm : 2 ^ 53 ≤ m) :
    (overflowThreshold ≤ m → ofFloat (nearest negative m 1) = .infinite negative) ∧
      (m < overflowThreshold → ∃ v : Nat, 2 ^ m.log2 ≤ v ∧
        (ofFloat (nearest negative m 1)).truncate =
          some (if negative then -(v : Int) else (v : Int))) := by
  obtain ⟨hlt64, hinf, hfin⟩ := ofBits_roundBits_large negative hm
  constructor
  · intro hge
    rw [nearest, ofFloat_ofBits_toUInt64 hlt64 (by rw [hinf hge]; simp), hinf hge]
  · intro hlt
    obtain ⟨M, e, hbound, hdecode⟩ := hfin hlt
    refine ⟨M * 2 ^ e, hbound, ?_⟩
    rw [nearest, ofFloat_ofBits_toUInt64 hlt64 (by rw [hdecode]; simp), hdecode,
      truncate_finite_natExponent]

end Runbook.Binary64
