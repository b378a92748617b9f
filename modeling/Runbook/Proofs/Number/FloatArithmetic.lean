import Runbook.Proofs.Number.FloatRounding
import Runbook.Proofs.Number.FloatOrder
import Runbook.Proofs.Number.IntegerRounding
/-!
# Bounds through binary64 arithmetic

Each operation on `Float` unpacks its operands, computes exactly, rounds and stores the
result. This module follows three kinds of facts through the operations: bounds by powers
of two (`AtMost`), with running sums that saturate instead of overflowing once an addend is
54 binades smaller; signs, so that sums of nonnegative numbers and squares are no NaN; and
positivity of products, square roots and quotients. Integers below `2 ^ 53` are stored
exactly (`unpack_ofNat_small`), larger ones within the next power of two (`atMost_ofNat`).
-/

namespace Runbook

open Float.Model Float.Model.UnpackedFloat

namespace Binary64

/-! ## Operations on `Float` through their unpacked values -/

theorem unpack_add (x y : Float) :
    (x + y).toModel.unpack =
      repack (UnpackedFloat.add .binary64 x.toModel.unpack y.toModel.unpack) := rfl

theorem unpack_sub (x y : Float) :
    (x - y).toModel.unpack =
      repack (UnpackedFloat.sub .binary64 x.toModel.unpack y.toModel.unpack) := rfl

theorem unpack_mul (x y : Float) :
    (x * y).toModel.unpack =
      repack (UnpackedFloat.mul .binary64 x.toModel.unpack y.toModel.unpack) := rfl

theorem unpack_div (x y : Float) :
    (x / y).toModel.unpack =
      repack (UnpackedFloat.div .binary64 x.toModel.unpack y.toModel.unpack) := rfl

theorem unpack_sqrt (x : Float) :
    x.sqrt.toModel.unpack = repack (UnpackedFloat.sqrt .binary64 x.toModel.unpack) := rfl

/-! ## Rounding a sum -/

/-- Scaling a bound by `2 ^ j` moves the exponent down by `j`. -/
theorem two_pow_toNat_mul {e K : Int} (he : e ≤ K) (j : Nat) :
    2 ^ (K - e).toNat * 2 ^ j = 2 ^ (K - (e - j)).toNat := by
  rw [← Nat.pow_add]
  congr 1
  omega

/-- `round` first lowers the exponent to the target one, which changes no value. -/
theorem round_eq (s : Sign) (m : Nat) (e : Int) :
    ∃ j : Nat, UnpackedFloat.round .binary64 s m e =
      roundWithAccuracy .binary64 s (m * 2 ^ j) (e - j) .exact := by
  refine ⟨(e - Format.binary64.targetExponent (totalExponent m e)).toNat, ?_⟩
  simp only [UnpackedFloat.round, decreaseExponent, Nat.shiftLeft_eq]

theorem atMost_round (s : Sign) {m : Nat} {e K : Int} (hK : -1074 ≤ K) (he : e ≤ K)
    (hm : m ≤ 2 ^ (K - e).toNat) : AtMost K (UnpackedFloat.round .binary64 s m e) := by
  obtain ⟨j, hj⟩ := round_eq s m e
  rw [hj]
  apply atMost_roundWithAccuracy_exact s hK (by omega)
  rw [← two_pow_toNat_mul he]
  exact Nat.mul_le_mul_right _ hm

theorem atMost_round_near (s : Sign) {m : Nat} {e J K : Int} (hK : -1021 ≤ K)
    (hJ : J + 54 ≤ K) (he : e ≤ J) (hlo : 2 ^ (K - e).toNat ≤ m)
    (hhi : m ≤ 2 ^ (K - e).toNat + 2 ^ (J - e).toNat) :
    AtMost K (UnpackedFloat.round .binary64 s m e) := by
  obtain ⟨j, hj⟩ := round_eq s m e
  rw [hj]
  apply atMost_roundWithAccuracy_near s hK hJ (by omega)
  · rw [← two_pow_toNat_mul (by omega)]
    exact Nat.mul_le_mul_right _ hlo
  · rw [← two_pow_toNat_mul (by omega), ← two_pow_toNat_mul he, ← Nat.add_mul]
    exact Nat.mul_le_mul_right _ hhi

theorem signed_round (s : Sign) (m : Nat) (e : Int) :
    Signed s (UnpackedFloat.round .binary64 s m e) := by
  obtain ⟨j, hj⟩ := round_eq s m e
  rw [hj, roundWithAccuracy_eq]
  exact signed_assemble s _ _

/-- Normalizing an exact sum of magnitude at most `2 ^ K` keeps it at most `2 ^ K`. -/
theorem atMost_normalize (z : Sign) {M : Int} {e K : Int} (hK : -1074 ≤ K) (he : e ≤ K)
    (hM : M.natAbs ≤ 2 ^ (K - e).toNat) : AtMost K (UnpackedFloat.normalize .binary64 M e z) := by
  unfold UnpackedFloat.normalize
  split
  · exact atMost_round _ hK he (by omega)
  · trivial
  · exact atMost_round _ hK he (by omega)

theorem natAbs_apply_add_le (s₁ s₂ : Sign) (a b : Nat) :
    (s₁.apply a + s₂.apply b).natAbs ≤ a + b := by
  cases s₁ <;> cases s₂ <;> simp only [Sign.apply] <;> omega

theorem natAbs_apply_sub_le (s₁ s₂ : Sign) (a b : Nat) :
    (s₁.apply a - s₂.apply b).natAbs ≤ a + b := by
  cases s₁ <;> cases s₂ <;> simp only [Sign.apply] <;> omega

/-- A mantissa bounded at its own exponent stays bounded once aligned to a lower one. -/
theorem aligned_le {m : Nat} {e e' K : Int} (he : e ≤ K) (hm : m ≤ 2 ^ (K - e).toNat)
    (he' : e' ≤ e) : m * 2 ^ (e - e').toNat ≤ 2 ^ (K - e').toNat := by
  calc m * 2 ^ (e - e').toNat ≤ 2 ^ (K - e).toNat * 2 ^ (e - e').toNat :=
        Nat.mul_le_mul_right _ hm
    _ = 2 ^ (K - e').toNat := by rw [← Nat.pow_add]; congr 1; omega

theorem add_finite (s₁ s₂ : Sign) {m₁ m₂ : Nat} {e₁ e₂ : Int} (h₁ : 0 < m₁)
    (h₂ : 0 < m₂) :
    UnpackedFloat.add .binary64 (.finite s₁ m₁ e₁ h₁) (.finite s₂ m₂ e₂ h₂) =
      UnpackedFloat.normalize .binary64
        (s₁.apply (m₁ * 2 ^ (e₁ - min e₁ e₂).toNat : Nat) +
          s₂.apply (m₂ * 2 ^ (e₂ - min e₁ e₂).toNat : Nat))
        (min e₁ e₂) .positive := by
  simp [UnpackedFloat.add, decreaseExponent, Nat.shiftLeft_eq]

theorem sub_finite (s₁ s₂ : Sign) {m₁ m₂ : Nat} {e₁ e₂ : Int} (h₁ : 0 < m₁)
    (h₂ : 0 < m₂) :
    UnpackedFloat.sub .binary64 (.finite s₁ m₁ e₁ h₁) (.finite s₂ m₂ e₂ h₂) =
      UnpackedFloat.normalize .binary64
        (s₁.apply (m₁ * 2 ^ (e₁ - min e₁ e₂).toNat : Nat) -
          s₂.apply (m₂ * 2 ^ (e₂ - min e₁ e₂).toNat : Nat))
        (min e₁ e₂) .positive := by
  simp [UnpackedFloat.sub, decreaseExponent, Nat.shiftLeft_eq]

/-- Two finite values within `2 ^ K`, aligned to the lower exponent and combined exactly,
normalize to a value within `2 ^ (K + 1)`. -/
theorem atMost_normalize_aligned (z : Sign) {s₁ s₂ : Sign} {m₁ m₂ : Nat} {e₁ e₂ K : Int}
    {h₁ : 0 < m₁} {h₂ : 0 < m₂} (hK : -1075 ≤ K)
    (ha : AtMost K (.finite s₁ m₁ e₁ h₁)) (hb : AtMost K (.finite s₂ m₂ e₂ h₂))
    {M : Int}
    (hM : M.natAbs ≤
      m₁ * 2 ^ (e₁ - min e₁ e₂).toNat + m₂ * 2 ^ (e₂ - min e₁ e₂).toNat) :
    AtMost (K + 1) (UnpackedFloat.normalize .binary64 M (min e₁ e₂) z) := by
  obtain ⟨he₁, hm₁⟩ := ha
  obtain ⟨he₂, hm₂⟩ := hb
  apply atMost_normalize _ (by omega) (by omega)
  have h₁' := aligned_le he₁ hm₁ (min_le_left e₁ e₂)
  have h₂' := aligned_le he₂ hm₂ (min_le_right e₁ e₂)
  have hsplit : 2 ^ (K + 1 - min e₁ e₂).toNat = 2 * 2 ^ (K - min e₁ e₂).toNat := by
    rw [← Nat.pow_succ']; congr 1; omega
  omega

/-- Two values within `2 ^ K` add to one within `2 ^ (K + 1)`. -/
theorem atMost_add {K : Int} (hK : -1075 ≤ K) {a b : UnpackedFloat} (ha : AtMost K a)
    (hb : AtMost K b) : AtMost (K + 1) (UnpackedFloat.add .binary64 a b) := by
  cases a with
  | zero s =>
    cases b with
    | zero t => simp only [UnpackedFloat.add]; split <;> trivial
    | finite t m e h => exact AtMost.mono (by omega) hb
    | _ => exact hb.elim
  | finite s₁ m₁ e₁ h₁ =>
    cases b with
    | zero t => exact AtMost.mono (by omega) ha
    | finite s₂ m₂ e₂ h₂ =>
      rw [add_finite]
      exact atMost_normalize_aligned _ hK ha hb (natAbs_apply_add_le _ _ _ _)
    | _ => exact hb.elim
  | _ => exact ha.elim

/-- Two values within `2 ^ K` have a difference within `2 ^ (K + 1)`. -/
theorem atMost_sub {K : Int} (hK : -1075 ≤ K) {a b : UnpackedFloat} (ha : AtMost K a)
    (hb : AtMost K b) : AtMost (K + 1) (UnpackedFloat.sub .binary64 a b) := by
  cases a with
  | zero s =>
    cases b with
    | zero t => simp only [UnpackedFloat.sub]; split <;> trivial
    | finite t m e h => exact AtMost.mono (by omega) hb
    | _ => exact hb.elim
  | finite s₁ m₁ e₁ h₁ =>
    cases b with
    | zero t => exact AtMost.mono (by omega) ha
    | finite s₂ m₂ e₂ h₂ =>
      rw [sub_finite]
      exact atMost_normalize_aligned _ hK ha hb (natAbs_apply_sub_le _ _ _ _)
    | _ => exact hb.elim
  | _ => exact ha.elim

/-- Normalizing an exact sum a little above `2 ^ K` gives `2 ^ K` back. -/
theorem atMost_normalize_near (z : Sign) {M : Int} {e J K : Int} (hK : -1021 ≤ K)
    (hJ : J + 54 ≤ K) (he : e ≤ J) (hlo : 2 ^ (K - e).toNat ≤ M.natAbs)
    (hhi : M.natAbs ≤ 2 ^ (K - e).toNat + 2 ^ (J - e).toNat) :
    AtMost K (UnpackedFloat.normalize .binary64 M e z) := by
  unfold UnpackedFloat.normalize
  split
  · rename_i hlt
    rw [compare_lt_iff_lt] at hlt
    exact atMost_round_near _ hK hJ he (by omega) (by omega)
  · trivial
  · rename_i hgt
    rw [compare_gt_iff_gt] at hgt
    exact atMost_round_near _ hK hJ he (by omega) (by omega)

/-- Adding a value within `2 ^ J` to one within `2 ^ K`, at least `54` binades higher, stays
within `2 ^ K`: near `2 ^ K` the small value is below half the spacing of floats, so a
running sum of such values saturates instead of overflowing. -/
theorem atMost_add_small {J K : Int} (hK : -1021 ≤ K) (hJK : J + 54 ≤ K)
    {a b : UnpackedFloat} (ha : AtMost K a) (hb : AtMost J b) :
    AtMost K (UnpackedFloat.add .binary64 a b) := by
  cases a with
  | zero s =>
    cases b with
    | zero t => simp only [UnpackedFloat.add]; split <;> trivial
    | finite t m e h => exact AtMost.mono (by omega) hb
    | _ => exact hb.elim
  | finite s₁ m₁ e₁ h₁ =>
    cases b with
    | zero t => exact ha
    | finite s₂ m₂ e₂ h₂ =>
      obtain ⟨he₁, hm₁⟩ := ha
      obtain ⟨he₂, hm₂⟩ := hb
      rw [add_finite]
      have h₁' := aligned_le he₁ hm₁ (min_le_left e₁ e₂)
      have h₂' := aligned_le he₂ hm₂ (min_le_right e₁ e₂)
      have hsum := natAbs_apply_add_le s₁ s₂ (m₁ * 2 ^ (e₁ - min e₁ e₂).toNat)
        (m₂ * 2 ^ (e₂ - min e₁ e₂).toNat)
      -- either the sum is within `2 ^ K` already, or it is just above and rounds back
      by_cases hle : (s₁.apply (m₁ * 2 ^ (e₁ - min e₁ e₂).toNat : Nat) +
          s₂.apply (m₂ * 2 ^ (e₂ - min e₁ e₂).toNat : Nat)).natAbs ≤
          2 ^ (K - min e₁ e₂).toNat
      · exact atMost_normalize _ (by omega) (by omega) hle
      · exact atMost_normalize_near _ hK hJK (by omega) (by omega) (by omega)
    | _ => exact hb.elim
  | _ => exact ha.elim

/-- A sum of two values of sign `+` has sign `+`. -/
theorem signed_add {a b : UnpackedFloat} (ha : Signed .positive a) (hb : Signed .positive b) :
    Signed .positive (UnpackedFloat.add .binary64 a b) := by
  obtain rfl | ⟨m₁, e₁, h₁, rfl⟩ | rfl := ha.shape <;>
    obtain rfl | ⟨m₂, e₂, h₂, rfl⟩ | rfl := hb.shape
  case inr.inl.inr.inl =>
    -- two positive finite numbers: their exact sum is positive and rounds with sign `+`
    rw [add_finite]
    unfold UnpackedFloat.normalize
    have hM : compare (Sign.positive.apply (m₁ * 2 ^ (e₁ - min e₁ e₂).toNat : Nat) +
        Sign.positive.apply (m₂ * 2 ^ (e₂ - min e₁ e₂).toNat : Nat)) 0 = .gt := by
      rw [compare_gt_iff_gt]
      simp only [Sign.apply]
      positivity
    rw [hM]
    exact signed_round _ _ _
  all_goals rfl

/-! ## Products, quotients and square roots -/

theorem mul_finite (s₁ s₂ : Sign) {m₁ m₂ : Nat} {e₁ e₂ : Int} (h₁ : 0 < m₁)
    (h₂ : 0 < m₂) :
    UnpackedFloat.mul .binary64 (.finite s₁ m₁ e₁ h₁) (.finite s₂ m₂ e₂ h₂) =
      roundWithAccuracy .binary64 (s₁ * s₂) (m₁ * m₂) (e₁ + e₂) .exact := rfl

/-- Values within `2 ^ K₁` and `2 ^ K₂` have a product within `2 ^ (K₁ + K₂)`. -/
theorem atMost_mul {K₁ K₂ : Int} (hK : -1074 ≤ K₁ + K₂) {a b : UnpackedFloat}
    (ha : AtMost K₁ a) (hb : AtMost K₂ b) :
    AtMost (K₁ + K₂) (UnpackedFloat.mul .binary64 a b) := by
  cases a with
  | zero s =>
    cases b with
    | zero t => trivial
    | finite t m e h => trivial
    | _ => exact hb.elim
  | finite s₁ m₁ e₁ h₁ =>
    cases b with
    | zero t => trivial
    | finite s₂ m₂ e₂ h₂ =>
      obtain ⟨he₁, hm₁⟩ := ha
      obtain ⟨he₂, hm₂⟩ := hb
      rw [mul_finite]
      apply atMost_roundWithAccuracy_exact _ hK (by omega)
      calc m₁ * m₂ ≤ 2 ^ (K₁ - e₁).toNat * 2 ^ (K₂ - e₂).toNat :=
            Nat.mul_le_mul hm₁ hm₂
        _ = 2 ^ (K₁ + K₂ - (e₁ + e₂)).toNat := by rw [← Nat.pow_add]; congr 1; omega
    | _ => exact hb.elim
  | _ => exact ha.elim

theorem mul_self_sign (s : Sign) : s * s = .positive := by
  cases s <;> rfl

/-- The square of a zero or a finite number has sign `+`. -/
theorem signed_mul_self {K : Int} {a : UnpackedFloat} (ha : AtMost K a) :
    Signed .positive (UnpackedFloat.mul .binary64 a a) := by
  cases a with
  | zero s => exact mul_self_sign s
  | finite s m e h =>
    rw [mul_finite, roundWithAccuracy_eq, mul_self_sign]
    exact signed_assemble _ _ _
  | _ => exact ha.elim

/-- A mantissa rounded at or above the subnormal exponent, other than zero, is stored as a
positive number other than zero. -/
theorem positiveFrom_repack_assemble {r : Nat} {u : Int} (hr0 : 0 < r) (hr : r ≤ 2 ^ 53)
    (hu : -1074 ≤ u) : PositiveFrom (-1074) (repack (assemble .positive r u)) := by
  unfold assemble
  rw [dif_neg (by omega)]
  split_ifs with h53
  · rw [repack_finite _ hr0 h53 hu]
    split_ifs
    · trivial
    · exact hu
    · exact le_rfl
  · rw [repack_finite _ (Nat.two_pow_pos 52) (by decide) (by omega)]
    split_ifs
    · trivial
    · show -1074 ≤ u + 1
      omega
    · exact le_rfl

/-- Rounding a positive exact value at or above the subnormal exponent stores a positive
number other than zero. -/
theorem positiveFrom_repack_round (acc : Accuracy) {m : Nat} {e : Int} (hm : 0 < m)
    (he : -1074 ≤ e) :
    PositiveFrom (-1074) (repack (roundWithAccuracy .binary64 .positive m e acc)) := by
  have hr := (roundedMantissa_shiftRight_mem m acc (droppedBits m e)).2
  rw [roundWithAccuracy_eq]
  exact positiveFrom_repack_assemble (pos_roundedMantissa acc hm he)
    (by have := div_droppedBits_lt m e; omega) (le_add_droppedBits m e).1

theorem mul_infinity_positive {E : Int} {u : UnpackedFloat} (h : PositiveFrom E u) :
    UnpackedFloat.mul .binary64 (.infinity .positive) u = .infinity .positive ∧
      UnpackedFloat.mul .binary64 u (.infinity .positive) = .infinity .positive := by
  obtain ⟨m, e, hm, rfl, -⟩ | rfl := h.shape <;> exact ⟨rfl, rfl⟩

/-- Positive numbers with exponents summing to at least the subnormal exponent have a
positive product other than zero. -/
theorem positiveFrom_mul {E₁ E₂ : Int} (hE : -1074 ≤ E₁ + E₂) {a b : UnpackedFloat}
    (ha : PositiveFrom E₁ a) (hb : PositiveFrom E₂ b) :
    PositiveFrom (-1074) (repack (UnpackedFloat.mul .binary64 a b)) := by
  obtain ⟨m₁, e₁, h₁, rfl, he₁⟩ | rfl := ha.shape
  · obtain ⟨m₂, e₂, h₂, rfl, he₂⟩ | rfl := hb.shape
    · rw [mul_finite]
      exact positiveFrom_repack_round _ (Nat.mul_pos h₁ h₂) (by omega)
    · rw [(mul_infinity_positive ha).2, repack_infinity]
      trivial
  · rw [(mul_infinity_positive hb).1, repack_infinity]
    trivial

/-- A quotient of finite numbers is the truncated quotient of the mantissas, scaled to an
exponent no larger than the difference of exponents or the target one, rounded with the
accuracy of the remainder. -/
theorem div_finite (s₁ s₂ : Sign) {m₁ m₂ : Nat} {e₁ e₂ : Int} (h₁ : 0 < m₁)
    (h₂ : 0 < m₂) :
    ∃ t acc, t ≤ e₁ - e₂ ∧
      t ≤ max (totalExponent m₁ e₁ - totalExponent m₂ e₂ - 53) (-1074) ∧
      UnpackedFloat.div .binary64 (.finite s₁ m₁ e₁ h₁) (.finite s₂ m₂ e₂ h₂) =
        roundWithAccuracy .binary64 (s₁ / s₂) (m₁ * 2 ^ (e₁ - e₂ - t).toNat / m₂) t
          acc := by
  let t := min (e₁ - e₂)
    (Format.binary64.targetExponent (totalExponent m₁ e₁ - totalExponent m₂ e₂))
  refine ⟨t, accuracyOfFraction (m₁ * 2 ^ (e₁ - e₂ - t).toNat % m₂) m₂, min_le_left _ _,
    (min_le_right _ _).trans (le_of_eq (targetExponent_eq _)), ?_⟩
  simp [UnpackedFloat.div, divCore, Nat.shiftLeft_eq, t]

theorem log2_le_of_atMost {m : Nat} {e K : Int} (hm0 : 0 < m) (hm : m ≤ 2 ^ (K - e).toNat) :
    m.log2 ≤ (K - e).toNat :=
  (Nat.pow_le_pow_iff_right (by decide)).1
    ((Nat.log2_self_le (Nat.pos_iff_ne_zero.mp hm0)).trans hm)

/-- A value within `2 ^ K` over one of at least `2 ^ L` is within `2 ^ (K - L + 1)`. -/
theorem atMost_div {K L : Int} (hKL : -1074 ≤ K - L) {a b : UnpackedFloat} (ha : AtMost K a)
    (hb : AtLeast L b) : AtMost (K - L + 1) (UnpackedFloat.div .binary64 a b) := by
  cases b with
  | finite s₂ m₂ e₂ h₂ =>
    cases a with
    | zero s => trivial
    | finite s₁ m₁ e₁ h₁ =>
      obtain ⟨he₁, hm₁⟩ := ha
      obtain ⟨t, acc, ht₁, ht₂, hdiv⟩ := div_finite s₁ s₂ h₁ h₂
      rw [hdiv]
      have hlog₁ := log2_le_of_atMost h₁ hm₁
      have hlog₂ : (L - e₂).toNat ≤ m₂.log2 :=
        (Nat.le_log2 (Nat.pos_iff_ne_zero.mp h₂)).2 hb
      have ht : t ≤ K - L := by simp only [totalExponent] at ht₂; omega
      apply atMost_roundWithAccuracy _ _ hKL ht
      -- the dividend is within `2 ^ (K - e₂ - t)` and the divisor at least `2 ^ (L - e₂)`
      apply Nat.div_le_of_le_mul
      calc m₁ * 2 ^ (e₁ - e₂ - t).toNat
          ≤ 2 ^ (K - e₁).toNat * 2 ^ (e₁ - e₂ - t).toNat := Nat.mul_le_mul_right _ hm₁
        _ ≤ 2 ^ (K - L - t).toNat * 2 ^ (L - e₂).toNat := by
            rw [← Nat.pow_add, ← Nat.pow_add]
            exact Nat.pow_le_pow_right (by decide) (by omega)
        _ ≤ 2 ^ (K - L - t).toNat * m₂ := Nat.mul_le_mul_left _ hb
        _ = m₂ * 2 ^ (K - L - t).toNat := Nat.mul_comm _ _
    | _ => exact ha.elim
  | _ => exact hb.elim

/-- A zero or a finite number over a positive number other than zero is no NaN. -/
theorem signed_div {K E : Int} {a b : UnpackedFloat} (ha : AtMost K a) (hb : PositiveFrom E b) :
    ∃ s, Signed s (UnpackedFloat.div .binary64 a b) := by
  obtain ⟨m₂, e₂, h₂, rfl, -⟩ | rfl := hb.shape
  · cases a with
    | zero s => exact ⟨_, rfl⟩
    | finite s₁ m₁ e₁ h₁ =>
      obtain ⟨t, acc, -, -, hdiv⟩ := div_finite s₁ .positive h₁ h₂
      rw [hdiv, roundWithAccuracy_eq]
      exact ⟨_, signed_assemble _ _ _⟩
    | _ => exact ha.elim
  · cases a with
    | zero s => exact ⟨_, rfl⟩
    | finite s₁ m₁ e₁ h₁ => exact ⟨_, rfl⟩
    | _ => exact ha.elim

/-- The square root of a positive finite number is the integer square root of its mantissa,
scaled to an even exponent no smaller than the subnormal one, rounded. -/
theorem sqrt_finite {m : Nat} {e : Int} (hm : 0 < m) (he : -1074 ≤ e) :
    ∃ r t acc, 0 < r ∧ -1074 ≤ t ∧
      UnpackedFloat.sqrt .binary64 (.finite .positive m e hm) =
        roundWithAccuracy .binary64 .positive r t acc := by
  refine ⟨_, _, _, ?_, ?_, rfl⟩
  · apply Nat.sqrt_pos.2
    rw [Nat.shiftLeft_eq]
    exact Nat.mul_pos hm (Nat.two_pow_pos _)
  · have hdiv : ∀ x : Int, x.ediv 2 = x / 2 := fun _ => rfl
    simp only [targetExponent_eq, hdiv]
    omega

theorem positiveFrom_sqrt {E : Int} (hE : -1074 ≤ E) {p : UnpackedFloat} (hp : PositiveFrom E p) :
    PositiveFrom (-1074) (repack (UnpackedFloat.sqrt .binary64 p)) := by
  obtain ⟨m, e, hm, rfl, he⟩ | rfl := hp.shape
  · obtain ⟨r, t, acc, hr, ht, hsqrt⟩ := @sqrt_finite m e hm (by omega)
    rw [hsqrt]
    exact positiveFrom_repack_round acc hr ht
  · rw [show UnpackedFloat.sqrt .binary64 (.infinity .positive) = .infinity .positive from rfl,
      repack_infinity]
    trivial

/-! ## Integers as floats -/

theorem unpack_ofBits {N : Nat} (hN : N < 2 ^ 64) :
    (Float.ofBits N.toUInt64).toModel.unpack =
      repack (UnpackedFloat.unpack .binary64 (BitVec.ofNat 64 N)) := by
  have hbits : N.toUInt64.toBitVec = BitVec.ofNat 64 N := by
    apply BitVec.eq_of_toNat_eq
    simp [Nat.toUInt64_eq, UInt64.toNat_ofNat_of_lt' hN]
    omega
  simp only [Float.ofBits, Float.Model.ofBits, repack, hbits]

/-- A pattern with a biased exponent strictly between the reserved ones and sign `+` reads as
the normal number it spells. -/
theorem unpack_ofBits_normal {E M : Nat} (h0 : 0 < E) (h1 : E < 2047) (hM : M < 2 ^ 52) :
    (Float.ofBits (E * 2 ^ 52 + M).toUInt64).toModel.unpack =
      .finite .positive (2 ^ 52 + M) ((E : Int) - 1075) (by positivity) := by
  have hpack : BitVec.ofNat 64 (E * 2 ^ 52 + M) =
      packComponents .binary64 .positive (BitVec.ofNat 11 E) (BitVec.ofNat 52 M) := by
    apply BitVec.eq_of_toNat_eq
    rw [toNat_packComponents]
    simp only [BitVec.toNat_ofNat]
    have hs : Sign.positive.toBitVec.toNat = 0 := rfl
    rw [hs]
    omega
  rw [unpack_ofBits (by omega), hpack, unpack_packComponents_normal _ h0 h1 hM,
    repack_finite _ _ (by omega) (by omega)]
  rw [if_neg (by omega), if_pos (by omega)]

/-- A positive integer below `2 ^ 53`, shifted up to `53` significant bits. -/
theorem shifted_mem {v : Nat} (hv0 : 0 < v) (hv : v < 2 ^ 53) :
    2 ^ 52 ≤ v * 2 ^ (52 - v.log2) ∧ v * 2 ^ (52 - v.log2) < 2 ^ 53 := by
  have hL : v.log2 < 53 := (Nat.log2_lt (by omega)).2 hv
  constructor
  · calc 2 ^ 52 = 2 ^ v.log2 * 2 ^ (52 - v.log2) := by rw [← Nat.pow_add]; congr 1; omega
      _ ≤ v * 2 ^ (52 - v.log2) := Nat.mul_le_mul_right _ (Nat.log2_self_le (by omega))
  · calc v * 2 ^ (52 - v.log2) < 2 ^ (v.log2 + 1) * 2 ^ (52 - v.log2) :=
          Nat.mul_lt_mul_of_pos_right Nat.lt_log2_self (Nat.two_pow_pos _)
      _ = 2 ^ 53 := by rw [← Nat.pow_add]; congr 1; omega

/-- An integer below `2 ^ 53` is a float exactly: its pattern holds it shifted to `53` bits,
at the exponent that shift undoes. -/
theorem roundBits_small {v : Nat} (hv0 : 0 < v) (hv : v < 2 ^ 53) :
    roundBits false v 1 = (v.log2 + 1023) * 2 ^ 52 + (v * 2 ^ (52 - v.log2) - 2 ^ 52) := by
  have hL : v.log2 < 53 := (Nat.log2_lt (by omega)).2 hv
  have hlo : 2 ^ v.log2 ≤ v := Nat.log2_self_le (by omega)
  have hidden_val : hidden = 2 ^ 52 := rfl
  have hlog1 : Nat.log2 1 = 0 := rfl
  -- the first estimate of the exponent is one too low, and the check on the quotient fixes it
  have hfirst : (scaledDivMod v 1 ((v.log2 : Int) - (0 : Nat) - 53)).1 = v * 2 ^ (53 - v.log2) := by
    have hneg : (v.log2 : Int) - (0 : Nat) - 53 < 0 := by omega
    simp only [scaledDivMod, if_pos hneg, Nat.pow_eq, Nat.div_one]
    congr 2
    omega
  have hcheck : 2 * hidden ≤ v * 2 ^ (53 - v.log2) := by
    have := Nat.mul_le_mul_right (2 ^ (53 - v.log2)) hlo
    rw [← Nat.pow_add, show v.log2 + (53 - v.log2) = 53 by omega] at this
    rw [hidden_val]
    omega
  have hexp : max ((v.log2 : Int) - (0 : Nat) - 53 + 1) minExponent = (v.log2 : Int) - 52 := by
    simp only [minExponent]
    omega
  have hsecond : scaledDivMod v 1 ((v.log2 : Int) - 52) = (v * 2 ^ (52 - v.log2), 0, 1) := by
    by_cases h52 : v.log2 = 52
    · rw [h52]
      simp [scaledDivMod, Nat.mod_one]
    · have hneg : (v.log2 : Int) - 52 < 0 := by omega
      simp only [scaledDivMod, if_pos hneg, Nat.pow_eq, Nat.div_one, Nat.mod_one]
      congr 3
      omega
  have hq := shifted_mem hv0 hv
  have hround : roundHalfEven (v * 2 ^ (52 - v.log2)) 0 1 = v * 2 ^ (52 - v.log2) := by
    simp [roundHalfEven]
  have hcarry : ¬(v * 2 ^ (52 - v.log2) = 2 * hidden) := by rw [hidden_val]; omega
  unfold roundBits
  rw [if_neg (by omega), hlog1]
  dsimp only
  rw [hfirst, if_pos hcheck, hexp, hsecond]
  dsimp only
  rw [hround]
  simp only [if_neg hcarry]
  rw [if_neg (by simp only [maxExponent]; omega), if_neg (by rw [hidden_val]; omega), hidden_val]
  simp only [signBit, Bool.false_eq_true, if_false, Nat.zero_add]
  congr 2
  omega

theorem unpack_ofNat_zero : (ofNat 0).toModel.unpack = .zero .positive := rfl

/-- An integer below `2 ^ 53` is stored exactly, as a normal number. -/
theorem unpack_ofNat_small {v : Nat} (hv0 : 0 < v) (hv : v < 2 ^ 53) :
    (ofNat v).toModel.unpack =
      .finite .positive (v * 2 ^ (52 - v.log2)) ((v.log2 : Int) - 52)
        (Nat.mul_pos hv0 (Nat.two_pow_pos _)) := by
  have hL : v.log2 < 53 := (Nat.log2_lt (by omega)).2 hv
  obtain ⟨hlo, hhi⟩ := shifted_mem hv0 hv
  unfold ofNat nearest
  rw [roundBits_small hv0 hv, unpack_ofBits_normal (by omega) (by omega) (by omega)]
  have hmant : 2 ^ 52 + (v * 2 ^ (52 - v.log2) - 2 ^ 52) = v * 2 ^ (52 - v.log2) := by omega
  have hexp : (((v.log2 + 1023 : Nat)) : Int) - 1075 = (v.log2 : Int) - 52 := by omega
  simp only [hmant, hexp]

/-- A natural number below `2 ^ k`, far from the overflow threshold, is stored within
`2 ^ k`: below `2 ^ 53` exactly, above it rounded to `53` bits. -/
theorem atMost_ofNat {v k : Nat} (hv : v < 2 ^ k) (hk : k ≤ 960) :
    AtMost k (ofNat v).toModel.unpack := by
  rcases Nat.eq_zero_or_pos v with rfl | hv0
  · rw [unpack_ofNat_zero]
    trivial
  have hlog : v.log2 < k := (Nat.log2_lt (by omega)).2 hv
  by_cases hsmall : v < 2 ^ 53
  · have hL : v.log2 < 53 := (Nat.log2_lt (by omega)).2 hsmall
    rw [unpack_ofNat_small hv0 hsmall]
    refine ⟨by omega, ?_⟩
    calc v * 2 ^ (52 - v.log2) ≤ 2 ^ 53 := (shifted_mem hv0 hsmall).2.le
      _ ≤ 2 ^ ((k : Int) - ((v.log2 : Int) - 52)).toNat :=
          Nat.pow_le_pow_right (by decide) (by omega)
  · -- at least `54` bits: `53` are kept, and no overflow is near
    have hm : 2 ^ 53 ≤ v := by omega
    obtain ⟨hs, hsum, -, -⟩ := largeShift_spec hm
    have hq := div_largeShift_mem hm
    have hQlo : 2 ^ 52 ≤ largeSignificand v := le_trans hq.1 (le_roundHalfEven _ _ _)
    have hQhi : largeSignificand v ≤ 2 ^ 53 := le_trans (roundHalfEven_le _ _ _) hq.2
    have hmax : maxExponent = 971 := rfl
    unfold ofNat nearest
    rw [roundBits_large false hm, hidden_eq]
    simp only [signBit, Bool.false_eq_true, if_false, Nat.zero_add, hmax]
    by_cases hcarry : largeSignificand v = 2 * 2 ^ 52
    · rw [if_pos hcarry, if_neg (by omega), ← Nat.add_zero ((largeShift v + 1076) * 2 ^ 52),
        unpack_ofBits_normal (by omega) (by omega) (by decide)]
      refine ⟨by omega, Nat.pow_le_pow_right (by decide) (by omega)⟩
    · rw [if_neg hcarry, if_neg (by omega), unpack_ofBits_normal (by omega) (by omega) (by omega)]
      refine ⟨by omega, ?_⟩
      calc 2 ^ 52 + (largeSignificand v - 2 ^ 52) ≤ 2 ^ 53 := by omega
        _ ≤ 2 ^ ((k : Int) - (((largeShift v + 1075 : Nat) : Int) - 1075)).toNat :=
          Nat.pow_le_pow_right (by decide) (by omega)

/-! ## Bounds through `Float` operations -/

section FloatBounds

variable {x y : Float}

theorem atMost_float_add {K : Int} (hK : -1023 ≤ K) (hK' : K ≤ 970)
    (hx : AtMost K x.toModel.unpack) (hy : AtMost K y.toModel.unpack) :
    AtMost (K + 1) (x + y).toModel.unpack := by
  rw [unpack_add]
  exact atMost_repack (by omega) (by omega) (atMost_add (by omega) hx hy)

theorem atMost_float_sub {K : Int} (hK : -1023 ≤ K) (hK' : K ≤ 970)
    (hx : AtMost K x.toModel.unpack) (hy : AtMost K y.toModel.unpack) :
    AtMost (K + 1) (x - y).toModel.unpack := by
  rw [unpack_sub]
  exact atMost_repack (by omega) (by omega) (atMost_sub (by omega) hx hy)

theorem atMost_float_mul {K₁ K₂ : Int} (hK : -1022 ≤ K₁ + K₂) (hK' : K₁ + K₂ ≤ 971)
    (hx : AtMost K₁ x.toModel.unpack) (hy : AtMost K₂ y.toModel.unpack) :
    AtMost (K₁ + K₂) (x * y).toModel.unpack := by
  rw [unpack_mul]
  exact atMost_repack hK hK' (atMost_mul (by omega) hx hy)

theorem atMost_float_div {K L : Int} (hKL : -1023 ≤ K - L) (hKL' : K - L ≤ 970)
    (hx : AtMost K x.toModel.unpack) (hy : AtLeast L y.toModel.unpack) :
    AtMost (K - L + 1) (x / y).toModel.unpack := by
  rw [unpack_div]
  exact atMost_repack (by omega) (by omega) (atMost_div (by omega) hx hy)

/-- A running sum within `2 ^ K` stays within `2 ^ K` when what is added is `54` binades
smaller. -/
theorem atMost_float_add_small {J K : Int} (hK : -1021 ≤ K) (hK' : K ≤ 971) (hJK : J + 54 ≤ K)
    (hx : AtMost K x.toModel.unpack) (hy : AtMost J y.toModel.unpack) :
    AtMost K (x + y).toModel.unpack := by
  rw [unpack_add]
  exact atMost_repack (by omega) hK' (atMost_add_small hK hJK hx hy)

theorem signed_float_add (hx : Signed .positive x.toModel.unpack)
    (hy : Signed .positive y.toModel.unpack) : Signed .positive (x + y).toModel.unpack := by
  rw [unpack_add]
  exact signed_repack (signed_add hx hy)

theorem signed_float_mul_self {K : Int} (hx : AtMost K x.toModel.unpack) :
    Signed .positive (x * x).toModel.unpack := by
  rw [unpack_mul]
  exact signed_repack (signed_mul_self hx)

theorem positiveFrom_float_mul {E₁ E₂ : Int} (hE : -1074 ≤ E₁ + E₂)
    (hx : PositiveFrom E₁ x.toModel.unpack) (hy : PositiveFrom E₂ y.toModel.unpack) :
    PositiveFrom (-1074) (x * y).toModel.unpack := by
  rw [unpack_mul]
  exact positiveFrom_mul hE hx hy

theorem positiveFrom_float_sqrt (hx : PositiveFrom (-1074) x.toModel.unpack) :
    PositiveFrom (-1074) x.sqrt.toModel.unpack := by
  rw [unpack_sqrt]
  exact positiveFrom_sqrt le_rfl hx

/-- A zero or a finite number over a positive number other than zero is no NaN. -/
theorem isNaN_float_div {K E : Int} (hx : AtMost K x.toModel.unpack)
    (hy : PositiveFrom E y.toModel.unpack) : (x / y).isNaN = false := by
  obtain ⟨s, hs⟩ := signed_div hx hy
  rw [float_isNaN_eq, unpack_div]
  exact (signed_repack hs).isNaN

end FloatBounds

/-- The product of two positive integers below `2 ^ 32` is stored as a number of at least
`1`: both are exact, and rounding their product keeps it normal. -/
theorem atLeast_ofNat_mul {a b : Nat} (ha0 : 0 < a) (ha : a < 2 ^ 32) (hb0 : 0 < b)
    (hb : b < 2 ^ 32) : AtLeast 0 (ofNat a * ofNat b).toModel.unpack := by
  have hLa : a.log2 < 32 := (Nat.log2_lt (by omega)).2 ha
  have hLb : b.log2 < 32 := (Nat.log2_lt (by omega)).2 hb
  -- each factor is `2 ^ 52` or more at an exponent of at least `-52`
  obtain ⟨hma, hma'⟩ := shifted_mem ha0 (by omega)
  obtain ⟨hmb, hmb'⟩ := shifted_mem hb0 (by omega)
  have hprod : 2 ^ 104 ≤ a * 2 ^ (52 - a.log2) * (b * 2 ^ (52 - b.log2)) := by
    calc 2 ^ 104 = 2 ^ 52 * 2 ^ 52 := by rw [← Nat.pow_add]
      _ ≤ _ := Nat.mul_le_mul hma hmb
  have hlog : 52 ≤ (a * 2 ^ (52 - a.log2) * (b * 2 ^ (52 - b.log2))).log2 :=
    (Nat.le_log2 (by positivity)).2 (le_trans (Nat.pow_le_pow_right (by decide) (by omega)) hprod)
  rw [unpack_mul, unpack_ofNat_small ha0 (by omega), unpack_ofNat_small hb0 (by omega), mul_finite]
  obtain ⟨r, u, hr0, heq, hr52, hr53, hu⟩ := @roundWithAccuracy_normal .positive _
    (((a.log2 : Int) - 52) + ((b.log2 : Int) - 52)) hlog (by omega)
  have hleast := atLeast_roundWithAccuracy_exact .positive
    (show (-1074 : Int) ≤ ((a.log2 : Int) - 52) + ((b.log2 : Int) - 52) by omega)
    (show 2 ^ ((0 : Int) - (((a.log2 : Int) - 52) + ((b.log2 : Int) - 52))).toNat ≤ _ by
      calc 2 ^ ((0 : Int) - (((a.log2 : Int) - 52) + ((b.log2 : Int) - 52))).toNat
          = 2 ^ 104 / 2 ^ (a.log2 + b.log2) := by
            rw [Nat.pow_div (by omega) (by decide)]; congr 1; omega
        _ ≤ 2 ^ 104 := Nat.div_le_self _ _
        _ ≤ _ := hprod)
  have hmost := atMost_roundWithAccuracy_exact .positive (show (-1074 : Int) ≤ 104 by omega)
    (show ((a.log2 : Int) - 52) + ((b.log2 : Int) - 52) ≤ 104 by omega)
    (show a * 2 ^ (52 - a.log2) * (b * 2 ^ (52 - b.log2)) ≤
        2 ^ ((104 : Int) - (((a.log2 : Int) - 52) + ((b.log2 : Int) - 52))).toNat by
      calc a * 2 ^ (52 - a.log2) * (b * 2 ^ (52 - b.log2)) ≤ 2 ^ 53 * 2 ^ 53 :=
            Nat.mul_le_mul hma'.le hmb'.le
        _ ≤ _ := by rw [← Nat.pow_add]; exact Nat.pow_le_pow_right (by decide) (by omega))
  rw [heq] at hleast hmost
  rw [mul_self_sign, heq, repack_finite _ hr0 hr53 hu, if_neg (by have := hmost.1; omega),
    if_pos hr52]
  exact hleast

end Binary64

end Runbook
