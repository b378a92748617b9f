import Runbook.Proofs.Number.IntegerRounding
import Runbook.Proofs.Sheet.CellReference
import Runbook.Proofs.Run.Unrolled
/-!
# Integer parameters read integer numerals

An integer parameter given as text is read as a signed 64-bit numeral, else as a decimal
rounded to the nearest float, truncated and clamped; a JSON number the same way. For the
text or the number of an integer `k`, the result is `integerOutcome k`: `k` clamped to the
64-bit range while `|k| < 2 ^ 1024 - 2 ^ 970`, and beyond that the refusal of an infinite
float. The digit reading is followed step by step: every partial value lies between zero
and the final one, so a numeral fails exactly when its value is out of range.

Main statement: `lenientInt_reads_integer_numerals`; `lenientInt_refuses_numeral_past_float_range`
is the numeral `10 ^ 309`.
-/

namespace Runbook.Numeral

open Sheet

theorem digitValue_of_isDigit {c : Char} (h : c.isDigit = true) :
    digitValue c = some (c.toNat - '0'.toNat) := by
  simp [digitValue, h]

/-- Reading more digits never lowers the value. -/
theorem le_ofDigitChars (ds : List Char) (init : Nat) : init ≤ Nat.ofDigitChars 10 ds init := by
  rw [Nat.ofDigitChars_eq_ofDigitChars_zero]
  have : init ≤ 10 ^ ds.length * init := Nat.le_mul_of_pos_left _ (by positivity)
  omega

/-- Reading digits upward stops with `tooLarge` exactly when the value passes `hi`; on the
way no partial value can fall below `lo`. -/
theorem readDigits_up {lo hi : Int} (hlo : lo ≤ 0) {ds : List Char}
    (hds : ∀ c ∈ ds, c.isDigit = true) (acc : Nat) (hacc : (acc : Int) ≤ hi) :
    readDigits false lo hi acc ds =
      if (Nat.ofDigitChars 10 ds acc : Int) ≤ hi then .ok (Nat.ofDigitChars 10 ds acc)
      else .error .tooLarge := by
  induction ds generalizing acc with
  | nil => simp [readDigits, hacc]
  | cons c rest ih =>
    have hc := hds c List.mem_cons_self
    have hrest : ∀ x ∈ rest, x.isDigit = true := fun x hx => hds x (List.mem_cons_of_mem _ hx)
    have hnext : (acc : Int) * 10 + ((c.toNat - '0'.toNat : Nat) : Int) =
        ((10 * acc + (c.toNat - '0'.toNat) : Nat) : Int) := by push_cast; ring
    have hmono := le_ofDigitChars rest (10 * acc + (c.toNat - '0'.toNat))
    rw [readDigits, digitValue_of_isDigit hc, Nat.ofDigitChars_cons]
    simp only [Bool.false_eq_true, if_false, hnext]
    by_cases hover : ((10 * acc + (c.toNat - '0'.toNat) : Nat) : Int) > hi
    · rw [if_pos hover, if_neg (by omega)]
    · rw [if_neg hover, if_neg (by omega), ih hrest _ (by omega)]

/-- Reading digits downward stops with `tooSmall` exactly when the value passes `lo`. -/
theorem readDigits_down {lo hi : Int} (hhi : 0 ≤ hi) {ds : List Char}
    (hds : ∀ c ∈ ds, c.isDigit = true) (acc : Nat) (hacc : lo ≤ -(acc : Int)) :
    readDigits true lo hi (-(acc : Int)) ds =
      if lo ≤ -(Nat.ofDigitChars 10 ds acc : Int) then .ok (-(Nat.ofDigitChars 10 ds acc : Int))
      else .error .tooSmall := by
  induction ds generalizing acc with
  | nil => simp [readDigits, hacc]
  | cons c rest ih =>
    have hc := hds c List.mem_cons_self
    have hrest : ∀ x ∈ rest, x.isDigit = true := fun x hx => hds x (List.mem_cons_of_mem _ hx)
    have hnext : -(acc : Int) * 10 - ((c.toNat - '0'.toNat : Nat) : Int) =
        -((10 * acc + (c.toNat - '0'.toNat) : Nat) : Int) := by push_cast; ring
    have hmono := le_ofDigitChars rest (10 * acc + (c.toNat - '0'.toNat))
    rw [readDigits, digitValue_of_isDigit hc, Nat.ofDigitChars_cons]
    simp only [if_true, hnext]
    rw [if_neg (by omega)]
    by_cases hunder : -((10 * acc + (c.toNat - '0'.toNat) : Nat) : Int) < lo
    · rw [if_pos hunder, if_neg (by omega)]
    · rw [if_neg hunder, ih hrest _ (by omega)]

/-- Leading zeros add nothing to the value of a numeral. -/
theorem ofDigitChars_zeros_toDigits (z m : Nat) :
    Nat.ofDigitChars 10 (List.replicate z '0' ++ Nat.toDigits 10 m) 0 = m := by
  rw [Nat.ofDigitChars_append, Nat.ofDigitChars_replicate_zero, Nat.mul_zero,
    Nat.ofDigitChars_ten_toDigits]

theorem isDigit_of_mem_zeros_toDigits {z m : Nat} {c : Char}
    (h : c ∈ List.replicate z '0' ++ Nat.toDigits 10 m) : c.isDigit = true := by
  rcases List.mem_append.mp h with hz | hd
  · rw [List.eq_of_mem_replicate hz]; rfl
  · exact Nat.isDigit_of_mem_toDigits (by decide) (by decide) hd

theorem readInteger_plus {lo hi : Int} {rest : List Char} (hne : rest ≠ []) :
    readInteger lo hi (String.ofList ('+' :: rest)) = readDigits false lo hi 0 rest := by
  obtain ⟨c, r, rfl⟩ := List.exists_cons_of_ne_nil hne
  simp [readInteger]

theorem readInteger_minus {lo hi : Int} {rest : List Char} (hlo : lo < 0) (hne : rest ≠ []) :
    readInteger lo hi (String.ofList ('-' :: rest)) = readDigits true lo hi 0 rest := by
  obtain ⟨c, r, rfl⟩ := List.exists_cons_of_ne_nil hne
  simp [readInteger, hlo]

/-- A numeral that starts with a digit is read as unsigned digits. -/
theorem readInteger_of_digit {lo hi : Int} {c : Char} {rest : List Char} (hc : c.isDigit = true) :
    readInteger lo hi (String.ofList (c :: rest)) = readDigits false lo hi 0 (c :: rest) := by
  unfold readInteger
  simp only [String.toList_ofList]
  split <;> simp_all

theorem digitsValue_eq (ds : List Char) : digitsValue ds = Nat.ofDigitChars 10 ds 0 := by
  rw [digitsValue, Nat.ofDigitChars_eq_foldl]
  congr 1
  funext acc c
  rw [Nat.mul_comm]
  rfl

theorem toLower_of_isDigit {d : Char} (h : d.isDigit = true) : d.toLower = d := by
  have hrange := toNat_of_isDigit h
  unfold Char.toLower
  rw [dif_neg]
  rintro ⟨hA, -⟩
  have hletter : ('A' : Char).val.toNat = 65 := rfl
  have hval : d.toNat = d.val.toNat := rfl
  rw [ge_iff_le, UInt32.le_iff_toNat_le, hletter] at hA
  omega

/-- A text of digits spells no word: a word has a letter that is no digit. -/
theorem ofList_ne_word {ds : List Char} (hds : ∀ c ∈ ds, c.isDigit = true) {w : String}
    (hw : ∃ c ∈ w.toList, c.isDigit = false) : String.ofList (ds.map Char.toLower) ≠ w := by
  intro h
  obtain ⟨c, hc, hdigit⟩ := hw
  rw [← h, String.toList_ofList] at hc
  obtain ⟨d, hd, rfl⟩ := List.mem_map.mp hc
  have hd' := hds d hd
  rw [toLower_of_isDigit hd', hd'] at hdigit
  exact Bool.noConfusion hdigit

theorem readFloat?_digits {negative : Bool} {sign ds : List Char}
    (hsign : sign = [] ∧ negative = false ∨ sign = ['+'] ∧ negative = false ∨
      sign = ['-'] ∧ negative = true)
    (hds : ∀ c ∈ ds, c.isDigit = true) (hne : ds ≠ []) :
    readFloat? (String.ofList (sign ++ ds)) =
      some (decimalToFloat negative (Nat.ofDigitChars 10 ds 0) 0) := by
  have htake : ds.takeWhile Char.isDigit = ds := List.takeWhile_eq_self_iff.2 hds
  have hdrop : ds.dropWhile Char.isDigit = [] := List.dropWhile_eq_nil_iff.2 hds
  have hinf : String.ofList (ds.map Char.toLower) ≠ "inf" := ofList_ne_word hds ⟨'i', by decide, rfl⟩
  have hinfinity : String.ofList (ds.map Char.toLower) ≠ "infinity" :=
    ofList_ne_word hds ⟨'i', by decide, rfl⟩
  have hnan : String.ofList (ds.map Char.toLower) ≠ "nan" := ofList_ne_word hds ⟨'n', by decide, rfl⟩
  have hplus : ¬('+'.isDigit = true) := by decide
  have hminus : ¬('-'.isDigit = true) := by decide
  obtain ⟨c, rest, hcs⟩ := List.exists_cons_of_ne_nil hne
  have hc := hds c (hcs ▸ List.mem_cons_self)
  unfold readFloat?
  simp only [String.toList_ofList]
  -- the sign is read off first; whatever it was, the digits are what remains
  split
  · rename_i body heq
    obtain ⟨rfl, rfl⟩ : body = ds ∧ negative = false := by
      rcases hsign with ⟨rfl, -⟩ | ⟨rfl, hn⟩ | ⟨rfl, -⟩ <;> simp_all
    simp [htake, hdrop, hinf, hinfinity, hnan, hne, digitsValue_eq]
  · rename_i body heq
    obtain ⟨rfl, rfl⟩ : body = ds ∧ negative = true := by
      rcases hsign with ⟨rfl, -⟩ | ⟨rfl, -⟩ | ⟨rfl, hn⟩ <;> simp_all
    simp [htake, hdrop, hinf, hinfinity, hnan, hne, digitsValue_eq]
  · rename_i body hnotplus hnotminus
    obtain ⟨rfl, rfl⟩ : sign = [] ∧ negative = false := by
      rcases hsign with h | ⟨rfl, -⟩ | ⟨rfl, -⟩ <;> simp_all
    simp [htake, hdrop, hinf, hinfinity, hnan, hne, digitsValue_eq]

end Runbook.Numeral

namespace Runbook.Params

open Json

/-- How a parameter may spell the integer `k` as text: blanks, a sign that agrees with `k`,
leading zeros, the decimal digits of `|k|` and blanks again, the blanks being those that
`Text.trim` removes. -/
structure IntegerNumeral (k : Int) where
  before : List Char
  sign : List Char
  zeros : Nat
  after : List Char
  before_blank : ∀ c ∈ before, Text.isBlank c = true
  after_blank : ∀ c ∈ after, Text.isBlank c = true
  sign_agrees : sign = [] ∧ 0 ≤ k ∨ sign = ['+'] ∧ 0 ≤ k ∨ sign = ['-'] ∧ k ≤ 0

namespace IntegerNumeral

variable {k : Int} (n : IntegerNumeral k)

/-- The leading zeros and the decimal digits of `|k|`. -/
def digits : List Char := List.replicate n.zeros '0' ++ Nat.toDigits 10 k.natAbs

/-- The numeral without its blanks. -/
def body : List Char := n.sign ++ n.digits

/-- The text of the numeral. -/
def text : String := String.ofList (n.before ++ n.body ++ n.after)

theorem digits_isDigit : ∀ c ∈ n.digits, c.isDigit = true :=
  fun _ h => Numeral.isDigit_of_mem_zeros_toDigits h

theorem digits_ne_nil : n.digits ≠ [] := by
  simp [digits]

theorem ofDigitChars_digits : Nat.ofDigitChars 10 n.digits 0 = k.natAbs :=
  Numeral.ofDigitChars_zeros_toDigits _ _

/-- No character of the numeral is a blank: signs and digits lie between `$` and `z`. -/
theorem not_blank_of_mem_body {c : Char} (h : c ∈ n.body) : Text.isBlank c = false := by
  apply Sheet.isBlank_eq_false_of_range
  rcases List.mem_append.mp h with hs | hd
  · rcases n.sign_agrees with ⟨hsign, -⟩ | ⟨hsign, -⟩ | ⟨hsign, -⟩ <;>
      simp only [hsign, List.not_mem_nil, List.mem_singleton] at hs
    all_goals subst hs; decide
  · have := Sheet.toNat_of_isDigit (n.digits_isDigit c hd)
    omega

/-- Trimming leaves the numeral without its blanks. -/
theorem trim_text : Text.trim n.text = String.ofList n.body := by
  have hne : n.body ≠ [] := by simp [body, n.digits_ne_nil]
  unfold Text.trim text
  rw [String.toList_ofList, Sheet.trimList_blank_around n.before_blank n.after_blank hne
    (fun x hx => n.not_blank_of_mem_body (List.mem_of_mem_head? hx))
    (fun x hx => n.not_blank_of_mem_body (List.mem_of_mem_getLast? hx))]

/-- The integer reading of a numeral gives `k` when it lies in the range, and else the
error of the side it leaves by. -/
theorem readInteger_body {lo hi : Int} (hlo : lo < 0) (hhi : 0 ≤ hi) :
    Numeral.readInteger lo hi (String.ofList n.body) =
      if lo ≤ k ∧ k ≤ hi then .ok k else .error (if k < 0 then .tooSmall else .tooLarge) := by
  rcases n.sign_agrees with ⟨hs, hk⟩ | ⟨hs, hk⟩ | ⟨hs, hk⟩
  · obtain ⟨c, rest, hcs⟩ := List.exists_cons_of_ne_nil n.digits_ne_nil
    have hc : c.isDigit = true := n.digits_isDigit c (hcs ▸ List.mem_cons_self)
    have hup := Numeral.readDigits_up (le_of_lt hlo) n.digits_isDigit 0
      (by omega : ((0 : Nat) : Int) ≤ hi)
    rw [body, hs, List.nil_append, hcs, Numeral.readInteger_of_digit hc, ← hcs]
    rw [Nat.cast_zero] at hup
    rw [hup, n.ofDigitChars_digits, Int.natAbs_of_nonneg hk]
    split_ifs <;> first | rfl | omega
  · have hup := Numeral.readDigits_up (le_of_lt hlo) n.digits_isDigit 0
      (by omega : ((0 : Nat) : Int) ≤ hi)
    rw [body, hs, List.singleton_append, Numeral.readInteger_plus n.digits_ne_nil]
    rw [Nat.cast_zero] at hup
    rw [hup, n.ofDigitChars_digits, Int.natAbs_of_nonneg hk]
    split_ifs <;> first | rfl | omega
  · have hdown := Numeral.readDigits_down hhi n.digits_isDigit 0
      (by omega : lo ≤ -((0 : Nat) : Int))
    rw [body, hs, List.singleton_append, Numeral.readInteger_minus hlo n.digits_ne_nil]
    rw [Nat.cast_zero, neg_zero] at hdown
    rw [hdown, n.ofDigitChars_digits, Int.ofNat_natAbs_of_nonpos hk, neg_neg]
    split_ifs <;> first | rfl | omega

theorem readI64?_body :
    Numeral.readI64? (String.ofList n.body) =
      if Int64.minValue ≤ k ∧ k ≤ Int64.maxValue then some k else none := by
  unfold Numeral.readI64?
  rw [n.readInteger_body (by decide) (by decide)]
  by_cases h : Int64.minValue ≤ k ∧ k ≤ Int64.maxValue
  · rw [if_pos h, if_pos h]
  · rw [if_neg h, if_neg h]

theorem readFloat?_body (hk : k ≠ 0) :
    Numeral.readFloat? (String.ofList n.body) =
      some (Numeral.decimalToFloat (decide (k < 0)) k.natAbs 0) := by
  rw [body, Numeral.readFloat?_digits _ n.digits_isDigit n.digits_ne_nil, n.ofDigitChars_digits]
  rcases n.sign_agrees with ⟨hs, hk'⟩ | ⟨hs, hk'⟩ | ⟨hs, hk'⟩
  · exact .inl ⟨hs, by simp; omega⟩
  · exact .inr (.inl ⟨hs, by simp; omega⟩)
  · exact .inr (.inr ⟨hs, by simp; omega⟩)

end IntegerNumeral

/-! ## What an integer parameter reads -/

/-- What an integer parameter reads for the integer `k`: `k` clamped to the signed 64-bit
range while the float nearest to `k` is finite, and else the refusal of an infinite
number. -/
def integerOutcome (k : Int) : Except String (Option Int) :=
  if k.natAbs < Binary64.overflowThreshold then .ok (some (saturate64 k))
  else .error ((if k < 0 then "-inf" else "inf") ++ " is not a finite number")

/-- The JSON number of an integer: unsigned up to `2 ^ 64 - 1`, negative down to `-2 ^ 63`,
and beyond those the nearest float. -/
def integerNumber (k : Int) : Number :=
  if 0 ≤ k ∧ k ≤ (UInt64.maxValue : Int) then .unsigned k.toNat
  else if Int64.minValue ≤ k ∧ k < 0 then .negative k
  else .float (Binary64.ofInt k)

theorem int64_bounds :
    Int64.minValue = -9223372036854775808 ∧ Int64.maxValue = 9223372036854775807 ∧
      UInt64.maxValue = 18446744073709551615 := ⟨rfl, rfl, rfl⟩

theorem ofFloat_of_infinite {x : Float} {negative : Bool}
    (h : Binary64.ofFloat x = .infinite negative) :
    ofFloat x = .error ((if negative then "-inf" else "inf") ++ " is not a finite number") := by
  simp [ofFloat, Shortest.display, h, Binary64.truncate]

theorem ofFloat_of_truncate {x : Float} {n : Int} (h : (Binary64.ofFloat x).truncate = some n) :
    ofFloat x = .ok (saturate64 n) := by
  simp [ofFloat, h]

/-- Outside the signed 64-bit range an integer is at least `2 ^ 63` in magnitude. -/
theorem natAbs_outside {k : Int} (hout : ¬(Int64.minValue ≤ k ∧ k ≤ Int64.maxValue)) :
    2 ^ 63 ≤ k.natAbs := by
  obtain ⟨hmin, hmax, -⟩ := int64_bounds
  rw [hmin, hmax] at hout
  omega

/-- Clamping an integer of magnitude at least `2 ^ 63` gives the bound on its side. -/
theorem saturate64_of_large {k : Int} (hk : 2 ^ 63 ≤ k.natAbs) :
    saturate64 k = if k < 0 then Int64.minValue else Int64.maxValue := by
  obtain ⟨hmin, hmax, -⟩ := int64_bounds
  unfold saturate64
  rw [hmin, hmax]
  split <;> omega

/-- Past the signed 64-bit range the nearest float decides: clamped to the bound on the
integer's side while it is finite, refused once it is infinite. -/
theorem ofFloat_nearest_outside {k : Int} (hout : ¬(Int64.minValue ≤ k ∧ k ≤ Int64.maxValue)) :
    some <$> ofFloat (Binary64.nearest (decide (k < 0)) k.natAbs 1) = integerOutcome k := by
  have hm := natAbs_outside hout
  obtain ⟨hinf, hfin⟩ := Binary64.ofFloat_nearest_large (decide (k < 0))
    (le_trans (by norm_num) hm : 2 ^ 53 ≤ k.natAbs)
  unfold integerOutcome
  by_cases hT : k.natAbs < Binary64.overflowThreshold
  · obtain ⟨v, hv, htrunc⟩ := hfin hT
    have hlog : 63 ≤ k.natAbs.log2 := (Nat.le_log2 (by omega)).2 hm
    have hv63 : 2 ^ 63 ≤ v := le_trans (pow_le_pow_right₀ (by norm_num) hlog) hv
    -- the rounded value is as far out of range as `k`, so both clamp to the same bound
    have hsat : saturate64 (if decide (k < 0) = true then -(v : Int) else v) = saturate64 k := by
      have hv' : 2 ^ 63 ≤ (if decide (k < 0) = true then -(v : Int) else v).natAbs := by
        split <;> simpa using hv63
      rw [saturate64_of_large hv', saturate64_of_large hm]
      by_cases hneg : k < 0
      · have hv0 : v ≠ 0 := by omega
        simp [hneg, hv0]
      · simp [hneg]
    rw [ofFloat_of_truncate htrunc, if_pos hT, hsat]
    rfl
  · rw [ofFloat_of_infinite (hinf (not_lt.1 hT)), if_neg hT]
    by_cases hneg : k < 0 <;> simp [hneg]

/-- A decimal integer of at most `310` digits is rounded to the float nearest to it. -/
theorem decimalToFloat_of_short (negative : Bool) {m : Nat} (hm : m ≠ 0)
    (hd : Numeral.digitCount m ≤ 310) :
    Numeral.decimalToFloat negative m 0 = Binary64.nearest negative m 1 := by
  unfold Numeral.decimalToFloat
  rw [if_neg hm, if_neg (by omega), if_neg (by omega)]
  simp

/-- A decimal integer of more than `310` digits is taken for an infinity without rounding. -/
theorem ofFloat_decimalToFloat_of_long (negative : Bool) {m : Nat} (hm : m ≠ 0)
    (hd : 310 < Numeral.digitCount m) :
    Binary64.ofFloat (Numeral.decimalToFloat negative m 0) = .infinite negative := by
  unfold Numeral.decimalToFloat
  rw [if_neg hm, if_pos (by omega)]
  cases negative <;> decide

/-- Past the signed 64-bit range a decimal numeral reads as the float path says, whether it
is rounded or, past `310` digits, taken for an infinity at once. -/
theorem ofFloat_decimal_outside {k : Int} (hout : ¬(Int64.minValue ≤ k ∧ k ≤ Int64.maxValue)) :
    some <$> ofFloat (Numeral.decimalToFloat (decide (k < 0)) k.natAbs 0) = integerOutcome k := by
  have hm := natAbs_outside hout
  by_cases hd : Numeral.digitCount k.natAbs ≤ 310
  · rw [decimalToFloat_of_short _ (by omega) hd]
    exact ofFloat_nearest_outside hout
  · -- more than `310` digits is at least `10 ^ 310`, far past the threshold
    have hlong : 10 ^ 310 ≤ k.natAbs := by
      by_contra hshort
      exact hd ((Nat.length_repr_le_iff (by norm_num)).2 (by omega))
    have hT : Binary64.overflowThreshold ≤ k.natAbs :=
      le_trans (by decide +kernel) hlong
    rw [ofFloat_of_infinite (ofFloat_decimalToFloat_of_long _ (by omega) (by omega)),
      integerOutcome, if_neg (show ¬(k.natAbs < Binary64.overflowThreshold) by omega)]
    by_cases hneg : k < 0 <;> simp [hneg]

/-- A numeral of `k` in a string reads as `integerOutcome k`: within the signed 64-bit range
as an integer numeral, and beyond it as a decimal one. -/
theorem lenientInt_text {k : Int} (n : IntegerNumeral k) :
    lenientInt (.string n.text) = integerOutcome k := by
  have hne : (String.ofList n.body).isEmpty = false := by
    simp [IntegerNumeral.body, n.digits_ne_nil]
  simp only [lenientInt, n.trim_text, hne, n.readI64?_body]
  by_cases hin : Int64.minValue ≤ k ∧ k ≤ Int64.maxValue
  · obtain ⟨hmin, hmax, -⟩ := int64_bounds
    have hT : k.natAbs < Binary64.overflowThreshold := by
      have : 2 ^ 63 < Binary64.overflowThreshold := by decide +kernel
      omega
    simp [if_pos hin, integerOutcome, hT, saturate64_of_mem hin.1 hin.2]
  · have hk : k ≠ 0 := by
      rintro rfl
      exact hin (by decide)
    simp only [if_neg hin, n.readFloat?_body hk]
    exact ofFloat_decimal_outside hin

/-- The JSON number of `k` reads as `integerOutcome k`: an unsigned one clamped from above,
a negative one as itself, and a float through its truncation. -/
theorem lenientInt_integerNumber (k : Int) :
    lenientInt (.number (integerNumber k)) = integerOutcome k := by
  obtain ⟨hmin, hmax, humax⟩ := int64_bounds
  have hwide : 2 ^ 64 < Binary64.overflowThreshold := by decide +kernel
  unfold integerNumber
  split_ifs with hu hn
  · have hT : k.natAbs < Binary64.overflowThreshold := by omega
    simp only [lenientInt, integerOutcome, if_pos hT, saturate64, hmin, hmax]
    congr 2
    omega
  · have hT : k.natAbs < Binary64.overflowThreshold := by omega
    simp only [lenientInt, integerOutcome, if_pos hT]
    rw [saturate64_of_mem hn.1 (by omega)]
  · exact ofFloat_nearest_outside (by omega)

end Runbook.Params

namespace Runbook

open Json Params

/-- A wait reads its seconds, then advances the clock by them, by at most `longestWait`. -/
theorem waitStep_onTrail (params : Params) (t : Trail) :
    (waitStep params).onTrail t =
      match lenientInt ((params.lookup "seconds").getD .null) with
      | .ok s => (.ok .completed,
          { t with desk := { t.desk with elapsed := t.desk.elapsed + min (nonNegative s) longestWait } })
      | .error m => (.error (.invalidParameter .wait "payload" m), t) := by
  unfold waitStep readParam Work.onTrail
  cases lenientInt ((params.lookup "seconds").getD .null) <;> rfl

/-- Integer parameters read integer numerals exactly. A text spelling `k`, with blanks, a
sign and leading zeros, and the JSON number of `k` both read as `k` clamped to the signed
64-bit range while the float nearest to `k` is finite, and are refused as an infinite number
beyond. A loop counts, and a wait advances the clock by, what was read, zero when it is
negative. -/
theorem lenientInt_reads_integer_numerals (k : Int) (n : IntegerNumeral k) :
    lenientInt (.string n.text) = integerOutcome k ∧
      lenientInt (.number (integerNumber k)) = integerOutcome k ∧
      ∀ t : Trail,
        (loopCount [("count", .string n.text)]).onTrail t =
            (((integerOutcome k).map nonNegative).mapError (.invalidParameter .loop "payload"), t) ∧
          (waitStep [("seconds", .string n.text)]).onTrail t =
            match integerOutcome k with
            | .ok c => (.ok .completed,
                { t with desk := { t.desk with elapsed := t.desk.elapsed + min (nonNegative c) longestWait } })
            | .error m => (.error (.invalidParameter .wait "payload" m), t) := by
  have htext := lenientInt_text n
  refine ⟨htext, lenientInt_integerNumber k, fun t => ⟨?_, ?_⟩⟩
  · rw [loopCount_onTrail]
    simp only [List.lookup, beq_self_eq_true, Option.getD_some, htext]
    cases integerOutcome k <;> rfl
  · rw [waitStep_onTrail]
    simp only [List.lookup, beq_self_eq_true, Option.getD_some, htext]

/-- Just below the signed 64-bit range, with blanks, a sign and leading zeros, a numeral is
read through its nearest float and clamped to the least 64-bit integer. -/
theorem lenientInt_reads_integer_numerals_belowInt64 :
    lenientInt (.string " -009223372036854775809\n") = .ok (some Int64.minValue) := by
  let n : IntegerNumeral (-9223372036854775809) :=
    ⟨[' '], ['-'], 2, ['\n'], fun c hc => by rw [List.mem_singleton.mp hc]; rfl,
      fun c hc => by rw [List.mem_singleton.mp hc]; rfl, .inr (.inr ⟨rfl, by decide⟩)⟩
  have htext : n.text = " -009223372036854775809\n" := rfl
  have houtcome : integerOutcome (-9223372036854775809) = .ok (some Int64.minValue) := by
    decide +kernel
  rw [← htext, ← houtcome]
  exact (lenientInt_reads_integer_numerals _ n).1

/-- A numeral of `310` digits lies past the float range: its nearest float is infinite and
the parameter is refused, where clamping would read the largest 64-bit integer. -/
theorem lenientInt_refuses_numeral_past_float_range :
    lenientInt (.string (toString (10 ^ 309 : Nat))) = .error "inf is not a finite number" := by
  let n : IntegerNumeral ((10 ^ 309 : Nat) : Int) :=
    ⟨[], [], 0, [], by simp, by simp, .inl ⟨rfl, by positivity⟩⟩
  have htext : n.text = toString (10 ^ 309 : Nat) := by
    simp only [n, IntegerNumeral.text, IntegerNumeral.body, IntegerNumeral.digits, Int.natAbs_natCast,
      List.replicate_zero, List.nil_append, List.append_nil]
    rfl
  have hpast : ¬(((10 ^ 309 : Nat) : Int).natAbs < Binary64.overflowThreshold) := by
    decide +kernel
  have hpos : ¬(((10 ^ 309 : Nat) : Int) < 0) := not_lt.2 (Int.natCast_nonneg _)
  rw [← htext, lenientInt_text, integerOutcome, if_neg hpast, if_neg hpos]
  rfl

end Runbook
