import Runbook.Number.Binary64
import Mathlib
/-!
# Bit patterns through `Float`

Core models a `Float` by its bit pattern, with every NaN replaced by one canonical NaN:
`Float.ofBits` unpacks a pattern into sign, exponent and significand and packs them again.
For a pattern that is not a NaN the trip changes nothing, so the exact value of
`Float.ofBits u` is read off `u` itself. The fields are computed on the pattern as a
natural number (the sign is `/ 2 ^ 63`, the exponent `/ 2 ^ 52 % 2 ^ 11`, the fraction
`% 2 ^ 52`), which is how `Binary64.ofBits` reads them.

Main statements: `Binary64.ofFloat_ofBits_toUInt64`, a pattern that is no NaN is read back
through `Float`; `Binary64.ofBits_infinityBits` and `Binary64.ofBits_normal`, the patterns
that rounding assembles decode to the values they were built from.
-/

namespace Runbook

open Float.Model Float.Model.UnpackedFloat

/-! ## Fields of a pattern as numbers -/

theorem toNat_packComponents (s : Sign) (E : BitVec 11) (M : BitVec 52) :
    (packComponents .binary64 s E M).toNat =
      s.toBitVec.toNat * 2 ^ 63 + E.toNat * 2 ^ 52 + M.toNat := by
  simp only [packComponents, BitVec.toNat_append]
  rw [← Nat.shiftLeft_add_eq_or_of_lt M.isLt, ← Nat.shiftLeft_add_eq_or_of_lt E.isLt]
  simp only [Nat.shiftLeft_eq]
  ring

theorem toNat_unpackMantissa (b : BitVec Format.binary64.numBits) :
    (unpackMantissa b).toNat = b.toNat % 2 ^ 52 := by
  simp [unpackMantissa, BitVec.extractLsb, BitVec.extractLsb']

theorem toNat_unpackExponent (b : BitVec Format.binary64.numBits) :
    (unpackExponent b).toNat = b.toNat / 2 ^ 52 % 2 ^ 11 := by
  simp [unpackExponent, BitVec.extractLsb, BitVec.extractLsb', Nat.shiftRight_eq_div_pow]

theorem toNat_unpackSign (b : BitVec Format.binary64.numBits) :
    (Sign.ofBitVec (unpackSign b)).toBitVec.toNat = b.toNat / 2 ^ 63 := by
  have hb : b.toNat < 2 ^ 64 := b.isLt
  simp [unpackSign, BitVec.extractLsb, BitVec.extractLsb', Nat.shiftRight_eq_div_pow]
  omega

/-! ## Packing what was unpacked -/

/-- Unpacking a pattern and packing it again gives the pattern back, unless it is a NaN
with a fraction that is not zero. The cases are those of `unpack`: an infinity or a NaN,
a zero, a subnormal number and a normal one. -/
theorem toNat_pack_unpack (b : BitVec Format.binary64.numBits)
    (h : b.toNat / 2 ^ 52 % 2 ^ 11 = 2 ^ 11 - 1 → b.toNat % 2 ^ 52 = 0) :
    (UnpackedFloat.pack .binary64 (UnpackedFloat.unpack .binary64 b)).toNat = b.toNat := by
  have hb : b.toNat < 2 ^ 64 := b.isLt
  have hS := toNat_unpackSign b
  have hE := toNat_unpackExponent b
  have hM := toNat_unpackMantissa b
  have h53 : Format.binary64.mantissaBits = 53 := rfl
  have hbias : Format.binary64.exponentBias = 1023 := rfl
  simp only [UnpackedFloat.unpack, BitVec.toNat_eq, hE, hM]
  simp only [BitVec.toNat_neg, BitVec.toNat_ofNat, Nat.zero_mod, hbias]
  split
  · -- all exponent bits set: the hypothesis leaves only an infinity
    rename_i hexp
    have hzero : b.toNat % 2 ^ 52 = 0 := h (by omega)
    rw [if_pos (by omega)]
    simp only [UnpackedFloat.pack, packedInfinity, toNat_packComponents, hS]
    simp
    omega
  · split
    · rename_i hexp hexp0
      split
      · simp only [UnpackedFloat.pack, packedZero, toNat_packComponents, hS]
        simp
        omega
      · -- a subnormal number: the significand stays below `2 ^ 52`
        rename_i hmant
        have hlog : (b.toNat % 2 ^ 52).log2 < 52 :=
          (Nat.log2_lt (by omega)).2 (Nat.mod_lt _ (by decide))
        rw [hexp0]
        simp only [UnpackedFloat.pack]
        rw [if_neg (by decide), if_neg (by omega)]
        simp only [toNat_packComponents, hS]
        simp
        omega
    · -- a normal number: the implicit bit puts the significand in `[2 ^ 52, 2 ^ 53)`
      rename_i hexp hexp0
      have happ : (1#1 ++ unpackMantissa b).toNat = 2 ^ 52 + b.toNat % 2 ^ 52 := by
        rw [BitVec.toNat_append, ← Nat.shiftLeft_add_eq_or_of_lt (unpackMantissa b).isLt, hM]
        simp [Nat.shiftLeft_eq]
      have hlog : (2 ^ 52 + b.toNat % 2 ^ 52).log2 = 52 := by
        apply Nat.le_antisymm
        · exact Nat.lt_succ_iff.mp ((Nat.log2_lt (by omega)).2 (by omega))
        · exact (Nat.le_log2 (by omega)).2 (by omega)
      simp only [UnpackedFloat.pack]
      rw [happ, hlog, if_neg (by omega), if_pos (by omega)]
      simp only [toNat_packComponents, hS]
      simp
      omega

namespace Binary64

theorem hidden_eq : hidden = 2 ^ 52 := rfl

/-- The NaN patterns: all exponent bits set and a fraction that is not zero. -/
theorem ofBits_eq_nan_iff (n : Nat) :
    ofBits n = .nan ↔ n / hidden % 2048 = 2047 ∧ n % hidden ≠ 0 := by
  unfold ofBits
  by_cases hexp : n / hidden % 2048 = 2047
  · rw [if_pos hexp]
    by_cases hfrac : n % hidden = 0
    · rw [if_pos hfrac]
      simp [hfrac]
    · rw [if_neg hfrac]
      simp [hexp, hfrac]
  · rw [if_neg hexp]
    split <;> simp [hexp]

/-- A pattern that is no NaN is what `Float.ofBits` keeps, so its value is read off the
pattern. -/
theorem ofFloat_ofBits_toUInt64 {n : Nat} (hn : n < 2 ^ 64) (h : ofBits n ≠ .nan) :
    ofFloat (Float.ofBits n.toUInt64) = ofBits n := by
  have hu : n.toUInt64.toNat = n := by
    rw [Nat.toUInt64_eq, UInt64.toNat_ofNat_of_lt' hn]
  have hkeep := toNat_pack_unpack n.toUInt64.toBitVec (by
    intro hexp
    by_contra hfrac
    have hidden_val : hidden = 4503599627370496 := rfl
    rw [UInt64.toNat_toBitVec, hu] at hexp hfrac
    apply h
    rw [ofBits_eq_nan_iff, hidden_val]
    exact ⟨by omega, by omega⟩)
  unfold ofFloat
  congr 1
  exact hkeep.trans hu

/-! ## The patterns rounding assembles -/

@[simp] theorem signBit_false : signBit false = 0 := rfl

@[simp] theorem signBit_true : signBit true = 9223372036854775808 := rfl

theorem ofBits_infinityBits (negative : Bool) :
    ofBits (infinityBits negative) = .infinite negative := by
  cases negative <;> decide

theorem infinityBits_lt (negative : Bool) : infinityBits negative < 2 ^ 64 := by
  cases negative <;> decide

theorem normalBits_lt (negative : Bool) {biased fraction : Nat} (h1 : biased < 2047)
    (hf : fraction < hidden) : signBit negative + biased * hidden + fraction < 2 ^ 64 := by
  have hidden_val : hidden = 4503599627370496 := rfl
  cases negative <;> simp only [signBit_false, signBit_true, hidden_val] at hf ⊢ <;> omega

/-- A sign, a biased exponent strictly between the reserved ones and a fraction decode to
the normal number they spell. -/
theorem ofBits_normal (negative : Bool) {biased fraction : Nat} (h0 : 0 < biased)
    (h1 : biased < 2047) (hf : fraction < hidden) :
    ofBits (signBit negative + biased * hidden + fraction) =
      .finite negative (fraction + hidden) ((biased : Int) - 1075) := by
  have hidden_val : hidden = 4503599627370496 := rfl
  have hE : (signBit negative + biased * hidden + fraction) / hidden % 2048 = biased := by
    cases negative <;> simp only [signBit_false, signBit_true, hidden_val] at hf ⊢ <;> omega
  have hF : (signBit negative + biased * hidden + fraction) % hidden = fraction := by
    cases negative <;> simp only [signBit_false, signBit_true, hidden_val] at hf ⊢ <;> omega
  have hS : ((signBit negative + biased * hidden + fraction) / Nat.pow 2 63 % 2 == 1) =
      negative := by
    have hpow : Nat.pow 2 63 = 9223372036854775808 := rfl
    cases negative <;> simp only [signBit_false, signBit_true, hidden_val, hpow] at hf ⊢ <;>
      simp <;> omega
  unfold ofBits
  rw [hE, hF, hS, if_neg (by omega), if_neg (by omega)]

end Binary64

end Runbook
