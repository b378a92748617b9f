import Mathlib.Data.List.TakeDrop
import Mathlib.Data.List.TakeWhile
import Runbook.Proofs.Json.ReadString
/-!
# Reading a number does not look past it

A number's reader takes the bytes of the number and looks at one byte after them, to see
that the number ends there. So wherever the bytes it took stand, followed by anything that
cannot continue a number, it reads the same number and stops at the same place: this is
what lets the text of a number be read back inside the text of an array or an object.

`Takes read T L a` says that `read` takes the bytes `T` to `a` when they are followed by
`L` and then by anything that cannot continue a number; each reader of numbers splits what
it reads into such a `T` and `L` (`readNumber_split`, and `readValue_number_split` for a
number read as a value).
-/

namespace Runbook.Json

/-- Whether bytes cannot continue a number: they are empty or start with a byte other than
a digit, a point or an exponent mark. -/
def Stops : List UInt8 → Prop
  | [] => True
  | b :: _ => isDigit b = false ∧ b ≠ 46 ∧ b ≠ 101 ∧ b ≠ 69

/-- `read` takes the bytes `T` to `a` when they are followed by `L` and then by anything that
cannot continue a number, wherever they stand. -/
def Takes {α : Type} (read : Cursor → Except Failure (α × Cursor)) (T L : List UInt8)
    (a : α) : Prop :=
  ∀ rest o, Stops (L ++ rest) → read ⟨T ++ (L ++ rest), o⟩ = .ok (a, ⟨L ++ rest, o + T.length⟩)

/-- What a reader read from `R` at `o`, ending at `c`, splits into the bytes it took and the
bytes it left. -/
def SplitsAs {α : Type} (read : Cursor → Except Failure (α × Cursor)) (R : List UInt8)
    (o : Nat) (a : α) (c : Cursor) : Prop :=
  ∃ T L, R = T ++ L ∧ c = ⟨L, o + T.length⟩ ∧ Takes read T L a

theorem Stops.takeWhile_eq_nil {rest : List UInt8} (h : Stops rest) :
    rest.takeWhile isDigit = [] := by
  cases rest with
  | nil => rfl
  | cons b r =>
    simp only [Stops] at h
    simp [h.1]

/-- Bytes split as `T ++ L` that are empty leave what follows `L` to stop a number. -/
theorem Stops.of_eq_append {X T L rest : List UInt8} (hX : X = T ++ L) (hs : Stops (L ++ rest))
    (hnil : X = []) : Stops rest := by
  subst hnil
  obtain ⟨-, rfl⟩ := List.append_eq_nil_iff.1 hX.symm
  exact hs

/-- No digit starts `r ++ rest` when none starts `r`, and none starts `rest` if `r` is empty. -/
theorem takeWhile_isDigit_append {r rest : List UInt8} (hr : r.takeWhile isDigit = [])
    (hs : r = [] → Stops rest) : (r ++ rest).takeWhile isDigit = [] := by
  cases r with
  | nil => exact (hs rfl).takeWhile_eq_nil
  | cons d t =>
    have hd : isDigit d = false := by
      cases hd : isDigit d
      · rfl
      · simp [hd] at hr
    simp [hd]

/-- The digits at the front of `R ++ rest` are those of `R` when `R` does not end in the
middle of them. -/
theorem span_isDigit_append {R rest : List UInt8}
    (hs : R.dropWhile isDigit = [] → rest.takeWhile isDigit = []) :
    (R ++ rest).span isDigit = (R.takeWhile isDigit, R.dropWhile isDigit ++ rest) := by
  rw [List.span_eq_takeWhile_dropWhile]
  -- by induction on `R`: its digits are taken one by one until it runs out or stops
  induction R with
  | nil =>
    have hr : rest.takeWhile isDigit = [] := hs rfl
    have hd : rest.dropWhile isDigit = rest := by
      cases rest with
      | nil => rfl
      | cons x t =>
        have hx : isDigit x = false := by
          cases hx : isDigit x
          · rfl
          · simp [hx] at hr
        simp [hx]
    simp [hr, hd]
  | cons b r ih =>
    by_cases hb : isDigit b
    · simp only [List.dropWhile_cons, hb, if_true] at hs
      have h := ih hs
      simp only [Prod.mk.injEq] at h ⊢
      simp [hb, h.1, h.2]
    · simp [hb]

/-- A reader that keeps its cursor takes nothing. -/
theorem Takes.of_stay {α : Type} {read : Cursor → Except Failure (α × Cursor)} {a : α}
    (h : ∀ c, read c = .ok (a, c)) (L : List UInt8) : Takes read [] L a := by
  intro rest o _
  simpa using h ⟨L ++ rest, o⟩

theorem SplitsAs.of_stay {α : Type} {read : Cursor → Except Failure (α × Cursor)} {a : α}
    (h : ∀ c, read c = .ok (a, c)) (R : List UInt8) (o : Nat) : SplitsAs read R o a ⟨R, o⟩ :=
  ⟨[], R, rfl, by simp, Takes.of_stay h R⟩

theorem fromParts_ok {pos : Bool} {sig : Nat} {e : Int} {c c' : Cursor} {n : Number}
    (h : fromParts pos sig e c = .ok (n, c')) :
    c' = c ∧ ∀ c2, fromParts pos sig e c2 = .ok (n, c2) := by
  unfold fromParts at h ⊢
  split at h
  · cases h
    exact ⟨rfl, fun _ => rfl⟩
  · cases h

theorem integerResult_ok {pos : Bool} {sig : Nat} {c c' : Cursor} {n : Number}
    (h : afterInteger.integerResult pos sig c = .ok (n, c')) :
    c' = c ∧ ∀ c2, afterInteger.integerResult pos sig c2 = .ok (n, c2) := by
  unfold afterInteger.integerResult at h ⊢
  split_ifs at h ⊢ <;> cases h <;> exact ⟨rfl, fun _ => rfl⟩

/-- The sign of an exponent is that of its first bytes, whatever follows them. -/
theorem exponentSign_split {R : List UInt8} (h : R ≠ []) :
    ∃ up P D, R = P ++ D ∧
      ∀ rest o, exponentSign ⟨P ++ (D ++ rest), o⟩ = (up, ⟨D ++ rest, o + P.length⟩) := by
  obtain ⟨s, t, rfl⟩ := List.exists_cons_of_ne_nil h
  by_cases h43 : s = 43
  · subst h43
    exact ⟨true, [43], t, rfl, fun _ _ => rfl⟩
  · by_cases h45 : s = 45
    · subst h45
      exact ⟨false, [45], t, rfl, fun _ _ => rfl⟩
    · refine ⟨true, [], s :: t, rfl, fun rest o => ?_⟩
      unfold exponentSign
      split <;> simp_all

theorem readExponent_split {pos : Bool} {sig : Nat} {start : Int} {R : List UInt8} {o : Nat}
    {n : Number} {c : Cursor} (h : readExponent pos sig start ⟨R, o⟩ = .ok (n, c)) :
    SplitsAs (readExponent pos sig start) R o n c := by
  -- the exponent mark
  obtain ⟨x, R1, rfl⟩ : ∃ x R1, R = x :: R1 := by
    cases R with
    | nil => simp [readExponent, exponentSign] at h
    | cons x R1 => exact ⟨x, R1, rfl⟩
  have hR1 : R1 ≠ [] := by
    rintro rfl
    simp [readExponent, exponentSign] at h
  -- the sign
  obtain ⟨up, P, D, rfl, hsign⟩ := exponentSign_split hR1
  -- the first digit
  obtain ⟨b, r, rfl⟩ : ∃ b r, D = b :: r := by
    cases D with
    | nil =>
      have h0 := hsign [] (o + 1)
      simp only [List.append_nil] at h0
      simp [readExponent, h0] at h
    | cons b r => exact ⟨b, r, rfl⟩
  have h0 := hsign [] (o + 1)
  simp only [List.append_nil] at h0
  simp only [readExponent, List.drop_one, List.tail_cons, h0] at h
  have hb : isDigit b = true := by
    cases hb : isDigit b
    · simp [hb] at h
    · rfl
  simp only [hb, Bool.not_true, Bool.false_eq_true, if_false,
    List.span_eq_takeWhile_dropWhile] at h
  refine ⟨x :: P ++ b :: r.takeWhile isDigit, r.dropWhile isDigit, by simp, ?_⟩
  -- inside a longer text the reader goes through the same steps
  have hrun : ∀ rest o', Stops (r.dropWhile isDigit ++ rest) →
      readExponent pos sig start
        ⟨(x :: P ++ b :: r.takeWhile isDigit) ++ (r.dropWhile isDigit ++ rest), o'⟩ =
      readExponent pos sig start ⟨x :: (P ++ b :: (r ++ rest)), o'⟩ := by
    intro rest o' _
    simp only [List.cons_append, List.append_assoc]
    rw [← List.append_assoc (r.takeWhile isDigit), List.takeWhile_append_dropWhile]
  have hsign' : ∀ rest o, exponentSign ⟨P ++ b :: (r ++ rest), o⟩ =
      (up, ⟨b :: (r ++ rest), o + P.length⟩) := hsign
  have hspan : ∀ rest, Stops (r.dropWhile isDigit ++ rest) →
      (r ++ rest).span isDigit = (r.takeWhile isDigit, r.dropWhile isDigit ++ rest) :=
    fun rest hs => span_isDigit_append fun hd => (hs.of_eq_append (List.nil_append _).symm hd).takeWhile_eq_nil
  by_cases hover : (accumulate i32Limit (b.toNat - 48) (r.takeWhile isDigit)).2 <
      (r.takeWhile isDigit).length
  · -- more exponent digits than fit: the number is a zero, unless that is refused
    rw [if_pos hover] at h
    by_cases hup : sig ≠ 0 ∧ up = true
    · rw [if_pos hup] at h
      cases h
    · rw [if_neg hup] at h
      cases h
      refine ⟨by simp; omega, fun rest o' hs => ?_⟩
      rw [hrun rest o' hs]
      simp only [readExponent, List.drop_one, List.tail_cons, hsign', hb, hspan rest hs]
      simp [hover, hup]
      omega
  · rw [if_neg hover] at h
    obtain ⟨rfl, hn⟩ := fromParts_ok h
    refine ⟨by simp; omega, fun rest o' hs => ?_⟩
    rw [hrun rest o' hs]
    simp only [readExponent, List.drop_one, List.tail_cons, hsign', hb, hspan rest hs]
    simp [hover, hn]
    omega

/-- Whether an exponent follows is seen in the first byte, whatever comes after it. -/
theorem atExponent_append {L rest : List UInt8} (hs : L = [] → Stops rest) (o o' : Nat) :
    atExponent ⟨L ++ rest, o⟩ = atExponent ⟨L, o'⟩ := by
  cases L with
  | nil =>
    have hrest := hs rfl
    cases rest with
    | nil => rfl
    | cons b r =>
      simp only [Stops] at hrest
      simp [atExponent, hrest.2.2.1, hrest.2.2.2]
  | cons b r => rfl

theorem ne_nil_of_atExponent {L : List UInt8} {o : Nat} (h : atExponent ⟨L, o⟩ = true) : L ≠ [] := by
  rintro rfl
  simp [atExponent] at h

theorem readFraction_split {pos : Bool} {sig : Nat} {start : Int} {R : List UInt8} {o : Nat}
    {n : Number} {c : Cursor} (h : readFraction pos sig start ⟨R, o⟩ = .ok (n, c)) :
    SplitsAs (readFraction pos sig start) R o n c := by
  -- the point
  obtain ⟨x, R1, rfl⟩ : ∃ x R1, R = x :: R1 := by
    cases R with
    | nil => simp [readFraction] at h
    | cons x R1 => exact ⟨x, R1, rfl⟩
  simp only [readFraction, List.drop_one, List.tail_cons, List.span_eq_takeWhile_dropWhile] at h
  -- at least one digit
  have hds : (R1.takeWhile isDigit).isEmpty = false := by
    cases hd : (R1.takeWhile isDigit).isEmpty
    · rfl
    · simp [hd] at h
  simp only [hds, Bool.false_eq_true, if_false] at h
  -- inside a longer text the digits are the same, and so is what follows them
  have hrun : ∀ rest o', (R1.dropWhile isDigit = [] → Stops rest) →
      readFraction pos sig start ⟨x :: (R1 ++ rest), o'⟩ =
        if atExponent ⟨R1.dropWhile isDigit, o + 1 + (R1.takeWhile isDigit).length⟩ then
          readExponent pos (accumulate u64Limit sig (R1.takeWhile isDigit)).1
            (start - (accumulate u64Limit sig (R1.takeWhile isDigit)).2)
            ⟨R1.dropWhile isDigit ++ rest, o' + 1 + (R1.takeWhile isDigit).length⟩
        else fromParts pos (accumulate u64Limit sig (R1.takeWhile isDigit)).1
            (start - (accumulate u64Limit sig (R1.takeWhile isDigit)).2)
            ⟨R1.dropWhile isDigit ++ rest, o' + 1 + (R1.takeWhile isDigit).length⟩ := by
    intro rest o' hs
    have hspan := span_isDigit_append (fun hd => (hs hd).takeWhile_eq_nil)
    simp only [readFraction, List.drop_one, List.tail_cons, hspan, hds, Bool.false_eq_true,
      if_false, atExponent_append hs _ (o + 1 + (R1.takeWhile isDigit).length)]
  have hsplit : x :: R1 = (x :: R1.takeWhile isDigit) ++ R1.dropWhile isDigit := by
    simp
  by_cases hexp : atExponent ⟨R1.dropWhile isDigit, o + 1 + (R1.takeWhile isDigit).length⟩
  · -- an exponent follows the fraction
    rw [if_pos hexp] at h
    obtain ⟨T, L, hTL, rfl, htakes⟩ := readExponent_split h
    have hne := ne_nil_of_atExponent hexp
    refine ⟨x :: R1.takeWhile isDigit ++ T, L, ?_, ?_, fun rest o' hs => ?_⟩
    · rw [hsplit, hTL]
      simp
    · simp
      omega
    · have hrest : (x :: R1.takeWhile isDigit ++ T) ++ (L ++ rest) = x :: (R1 ++ rest) := by
        have hR1 : R1 = R1.takeWhile isDigit ++ (T ++ L) := by
          rw [← hTL, List.takeWhile_append_dropWhile]
        calc (x :: R1.takeWhile isDigit ++ T) ++ (L ++ rest)
            = x :: ((R1.takeWhile isDigit ++ (T ++ L)) ++ rest) := by simp
          _ = x :: (R1 ++ rest) := by rw [← hR1]
      rw [hrest, hrun rest o' (fun hd => absurd hd hne), if_pos hexp, hTL, List.append_assoc,
        htakes rest _ hs]
      simp
      omega
  · rw [if_neg hexp] at h
    obtain ⟨rfl, hn⟩ := fromParts_ok h
    refine ⟨x :: R1.takeWhile isDigit, R1.dropWhile isDigit, hsplit, by simp; omega,
      fun rest o' hs => ?_⟩
    have hrest : (x :: R1.takeWhile isDigit) ++ (R1.dropWhile isDigit ++ rest) =
        x :: (R1 ++ rest) := by
      simp only [List.cons_append, ← List.append_assoc, List.takeWhile_append_dropWhile]
    rw [hrest, hrun rest o' (hs.of_eq_append (List.nil_append _).symm), if_neg hexp, hn]
    simp
    omega

/-- Where no fraction and no exponent follow, the number is complete and the cursor stays. -/
theorem wholeNumber_ok {pos wide : Bool} {sig : Nat} {e : Int} {c c' : Cursor} {n : Number}
    (h : (if wide then fromParts pos sig e c else afterInteger.integerResult pos sig c) =
      .ok (n, c')) :
    c' = c ∧ ∀ c2, (if wide then fromParts pos sig e c2
      else afterInteger.integerResult pos sig c2) = .ok (n, c2) := by
  cases wide
  · simp only [Bool.false_eq_true, if_false] at h ⊢
    exact integerResult_ok h
  · simp only [if_true] at h ⊢
    exact fromParts_ok h

/-- Whether bytes start with neither a point nor an exponent mark. -/
def NoMark (L : List UInt8) : Prop := ∀ b t, L = b :: t → b ≠ 46 ∧ b ≠ 101 ∧ b ≠ 69

theorem Stops.noMark {L : List UInt8} (hs : Stops L) : NoMark L := by
  rintro b t rfl
  exact hs.2

/-- After integer digits, a byte other than a point starts an exponent or ends the number. -/
theorem afterInteger_cons {pos wide : Bool} {sig : Nat} {e : Int} {b : UInt8} (h46 : b ≠ 46)
    (t : List UInt8) (o : Nat) :
    afterInteger pos sig wide e ⟨b :: t, o⟩ =
      if b = 101 ∨ b = 69 then readExponent pos sig e ⟨b :: t, o⟩
      else if wide then fromParts pos sig e ⟨b :: t, o⟩
      else afterInteger.integerResult pos sig ⟨b :: t, o⟩ := by
  unfold afterInteger
  split
  · rename_i heq
    simp only [List.cons.injEq] at heq
    exact absurd heq.1 h46
  · rename_i _ _ _ _ heq
    simp only [List.cons.injEq] at heq
    obtain ⟨rfl, rfl⟩ := heq
    rfl
  · rename_i heq
    cases heq

/-- Where neither a fraction nor an exponent follows the integer digits, the number is whole. -/
theorem afterInteger_of_noMark {pos wide : Bool} {sig : Nat} {e : Int} {L : List UInt8} {o : Nat}
    (hs : NoMark L) :
    afterInteger pos sig wide e ⟨L, o⟩ =
      if wide then fromParts pos sig e ⟨L, o⟩ else afterInteger.integerResult pos sig ⟨L, o⟩ := by
  cases L with
  | nil => rfl
  | cons b r =>
    have hb := hs b r rfl
    have hE : ¬(b = 101 ∨ b = 69) := fun h => h.elim hb.2.1 hb.2.2
    rw [afterInteger_cons hb.1, if_neg hE]

theorem afterInteger_split {pos wide : Bool} {sig : Nat} {e : Int} {R : List UInt8} {o : Nat}
    {n : Number} {c : Cursor} (h : afterInteger pos sig wide e ⟨R, o⟩ = .ok (n, c)) :
    SplitsAs (afterInteger pos sig wide e) R o n c := by
  -- a whole number takes nothing more
  have whole : NoMark R → SplitsAs (afterInteger pos sig wide e) R o n c := by
    intro hR
    rw [afterInteger_of_noMark hR] at h
    obtain ⟨rfl, hn⟩ := wholeNumber_ok h
    refine ⟨[], R, rfl, by simp, fun rest o' hs => ?_⟩
    rw [List.nil_append, afterInteger_of_noMark hs.noMark, hn]
    simp
  rcases R with _ | ⟨b, R1⟩
  · exact whole (by rintro b t ⟨⟩)
  · by_cases h46 : b = 46
    · -- a fraction
      subst h46
      simp only [afterInteger] at h
      obtain ⟨T, L, hTL, rfl, htakes⟩ := readFraction_split h
      refine ⟨T, L, hTL, rfl, fun rest o' hs => ?_⟩
      have hrest : T ++ (L ++ rest) = 46 :: (R1 ++ rest) := by
        rw [← List.append_assoc, ← hTL]
        rfl
      have hread := htakes rest o' hs
      rw [hrest] at hread ⊢
      simpa only [afterInteger] using hread
    · by_cases hE : b = 101 ∨ b = 69
      · -- an exponent
        rw [afterInteger_cons h46, if_pos hE] at h
        obtain ⟨T, L, hTL, rfl, htakes⟩ := readExponent_split h
        refine ⟨T, L, hTL, rfl, fun rest o' hs => ?_⟩
        have hrest : T ++ (L ++ rest) = b :: (R1 ++ rest) := by
          rw [← List.append_assoc, ← hTL]
          rfl
        have hread := htakes rest o' hs
        rw [hrest] at hread ⊢
        rw [afterInteger_cons h46, if_pos hE]
        exact hread
      · exact whole (by
          rintro b' t ⟨⟩
          exact ⟨h46, fun h => hE (.inl h), fun h => hE (.inr h)⟩)

/-- A leading zero stands alone: the number goes on after it as after any integer digits. -/
theorem readNumber_zero {pos : Bool} {r : List UInt8} (hr : r.takeWhile isDigit = []) (o : Nat) :
    readNumber pos ⟨48 :: r, o⟩ = afterInteger pos 0 false 0 ⟨r, o + 1⟩ := by
  cases r with
  | nil => rfl
  | cons d t =>
    have hd : isDigit d = false := by
      cases hd : isDigit d
      · rfl
      · simp [hd] at hr
    simp [readNumber, hd]

theorem readNumber_split {pos : Bool} {R : List UInt8} {o : Nat} {n : Number} {c : Cursor}
    (h : readNumber pos ⟨R, o⟩ = .ok (n, c)) : SplitsAs (readNumber pos) R o n c := by
  obtain ⟨b, r, rfl⟩ : ∃ b r, R = b :: r := by
    cases R with
    | nil => simp [readNumber] at h
    | cons b r => exact ⟨b, r, rfl⟩
  by_cases h48 : b = 48
  · -- a leading zero
    subst h48
    have hr : r.takeWhile isDigit = [] := by
      cases r with
      | nil => rfl
      | cons d t =>
        cases hd : isDigit d
        · simp [hd]
        · simp [readNumber, hd] at h
    rw [readNumber_zero hr] at h
    obtain ⟨T, L, hTL, rfl, htakes⟩ := afterInteger_split h
    refine ⟨48 :: T, L, by rw [hTL]; rfl, by simp; omega, fun rest o' hs => ?_⟩
    have hr' : (T ++ (L ++ rest)).takeWhile isDigit = [] := by
      rw [← List.append_assoc, ← hTL]
      exact takeWhile_isDigit_append hr (hs.of_eq_append hTL)
    rw [List.cons_append, readNumber_zero hr', htakes rest (o' + 1) hs]
    simp
    omega
  · -- integer digits
    have hb : isDigit b = true := by
      cases hb : isDigit b
      · simp [readNumber, h48, hb] at h
      · rfl
    -- inside a longer text the digits are the same, and the reader goes on after them
    have hrun : ∀ rest o', (r.dropWhile isDigit = [] → Stops rest) →
        readNumber pos ⟨b :: (r ++ rest), o'⟩ =
          afterInteger pos (accumulate u64Limit (b.toNat - 48) (r.takeWhile isDigit)).1
            (decide ((r.takeWhile isDigit).length -
              (accumulate u64Limit (b.toNat - 48) (r.takeWhile isDigit)).2 > 0))
            (((r.takeWhile isDigit).length -
              (accumulate u64Limit (b.toNat - 48) (r.takeWhile isDigit)).2 : Nat) : Int)
            ⟨r.dropWhile isDigit ++ rest, o' + 1 + (r.takeWhile isDigit).length⟩ := by
      intro rest o' hs
      simp only [readNumber, h48, hb, if_false, if_true,
        span_isDigit_append fun hd => (hs hd).takeWhile_eq_nil]
    have h0 := hrun [] o (fun _ => trivial)
    simp only [List.append_nil] at h0
    rw [h0] at h
    obtain ⟨T, L, hTL, rfl, htakes⟩ := afterInteger_split h
    have hsplit : r = r.takeWhile isDigit ++ (T ++ L) := by
      rw [← hTL, List.takeWhile_append_dropWhile]
    refine ⟨b :: r.takeWhile isDigit ++ T, L, ?_, by simp; omega, fun rest o' hs => ?_⟩
    · simp only [List.cons_append, List.append_assoc]
      rw [← hsplit]
    · have hrest : (b :: r.takeWhile isDigit ++ T) ++ (L ++ rest) = b :: (r ++ rest) := by
        calc (b :: r.takeWhile isDigit ++ T) ++ (L ++ rest)
            = b :: ((r.takeWhile isDigit ++ (T ++ L)) ++ rest) := by simp
          _ = b :: (r ++ rest) := by rw [← hsplit]
      rw [hrest, hrun rest o' (hs.of_eq_append hTL), hTL, List.append_assoc,
        htakes rest _ hs]
      simp
      omega

/-! ### What an opening byte reads -/

/-- Reading the items of an array gives an array. -/
theorem readItems_array : ∀ {fuel d : Nat} {first : Bool} {acc : List Value} {c : Cursor}
    {v : Value} {c' : Cursor}, readItems fuel d first acc c = .ok (v, c') →
    ∃ items, v = .array items := by
  intro fuel
  induction fuel with
  | zero =>
    intro d first acc c v c' h
    simp [readItems] at h
  | succ fuel ih =>
    intro d first acc c v c' h
    unfold readItems at h
    simp only [bind, Except.bind] at h
    -- every way on ends at the closing bracket or in the items that follow
    repeat' (first
      | (split at h)
      | (cases h; exact ⟨_, rfl⟩)
      | exact ih h
      | cases h)

/-- Reading the fields of an object gives an object. -/
theorem readFields_object : ∀ {fuel d : Nat} {first : Bool} {acc : List (String × Value)}
    {c : Cursor} {v : Value} {c' : Cursor}, readFields fuel d first acc c = .ok (v, c') →
    ∃ fields, v = .object fields := by
  intro fuel
  induction fuel with
  | zero =>
    intro d first acc c v c' h
    simp [readFields] at h
  | succ fuel ih =>
    intro d first acc c v c' h
    unfold readFields at h
    simp only [bind, Except.bind] at h
    repeat' (first
      | (split at h)
      | (cases h; exact ⟨_, rfl⟩)
      | exact ih h
      | cases h)

/-! ### A number read as a value -/

theorem Except.map_eq_ok_iff {ε α β : Type} (f : α → β) (x : Except ε α) (b : β) :
    f <$> x = .ok b ↔ ∃ a, x = .ok a ∧ f a = b := by
  cases x <;> simp [Functor.map, Except.map]

/-- What a digit is not: a blank, or the first letter of a keyword, or a minus. -/
theorem isDigit_facts {b : UInt8} (h : isDigit b = true) :
    isBlank b = false ∧ b ≠ 110 ∧ b ≠ 116 ∧ b ≠ 102 ∧ b ≠ 45 := by
  simp only [isDigit, Bool.and_eq_true, decide_eq_true_eq] at h
  obtain ⟨h1, h2⟩ := h
  rw [UInt8.le_iff_toNat_le] at h1 h2
  simp only [isBlank, Bool.or_eq_false_iff, beq_eq_false_iff_ne, ne_eq, ← UInt8.toNat_inj]
  simp at h1 h2 ⊢
  omega

theorem readValue_minus (fuel d : Nat) (t : List UInt8) (o : Nat) :
    readValue (fuel + 1) d ⟨45 :: t, o⟩ =
      (fun (n, c') => (Value.number n, c')) <$> readNumber false ⟨t, o + 1⟩ := by
  simp [readValue, skipBlank, isBlank]

theorem readValue_digit {b : UInt8} (hb : isDigit b = true) (fuel d : Nat) (t : List UInt8)
    (o : Nat) :
    readValue (fuel + 1) d ⟨b :: t, o⟩ =
      (fun (n, c') => (Value.number n, c')) <$> readNumber true ⟨b :: t, o⟩ := by
  obtain ⟨hblank, h110, h116, h102, h45⟩ := isDigit_facts hb
  simp [readValue, skipBlank_stop hblank, h110, h116, h102, h45, hb]

/-- A number read as a value: after blanks `B`, the reader takes bytes `T` that start with a
minus or a digit, and reads the same number from them wherever they stand. -/
theorem readValue_number_split {fuel d : Nat} {R : List UInt8} {o : Nat} {n : Number}
    {c : Cursor} (h : readValue (fuel + 1) d ⟨R, o⟩ = .ok (.number n, c)) :
    ∃ B T L, R = B ++ (T ++ L) ∧ (∀ b ∈ B, isBlank b = true) ∧
      c = ⟨L, o + B.length + T.length⟩ ∧ (∃ b t, T ++ L = b :: t ∧ (b = 45 ∨ isDigit b = true)) ∧
      ∀ fuel' d', Takes (readValue (fuel' + 1) d') T L (.number n) := by
  -- the blanks before the number
  have hB : ∀ b ∈ R.takeWhile isBlank, isBlank b = true := fun b hb => List.mem_takeWhile_imp hb
  have hR : R = R.takeWhile isBlank ++ R.dropWhile isBlank := List.takeWhile_append_dropWhile.symm
  obtain ⟨b, t, ht⟩ : ∃ b t, R.dropWhile isBlank = b :: t := by
    cases hX : R.dropWhile isBlank with
    | nil => simp [readValue, skipBlank_eq, hX, Cursor.fail] at h
    | cons b t => exact ⟨b, t, rfl⟩
  have hb : isBlank b = false := by
    have hhead := @List.head_dropWhile_not _ isBlank R (by simp [ht])
    simp only [ht, List.head_cons] at hhead
    simpa using hhead
  have hread : readValue (fuel + 1) d ⟨R, o⟩ =
      readValue (fuel + 1) d ⟨b :: t, o + (R.takeWhile isBlank).length⟩ := by
    conv => lhs; rw [hR, ht]
    simp only [readValue, skipBlank_append hB, skipBlank_stop hb]
  rw [hread] at h
  by_cases h45 : b = 45
  · -- a minus, then the number's digits
    subst h45
    rw [readValue_minus] at h
    obtain ⟨⟨n', c'⟩, hn, hv⟩ := (Except.map_eq_ok_iff _ _ _).1 h
    simp only [Prod.mk.injEq, Value.number.injEq] at hv
    obtain ⟨rfl, rfl⟩ := hv
    obtain ⟨T, L, hTL, rfl, htakes⟩ := readNumber_split hn
    refine ⟨R.takeWhile isBlank, 45 :: T, L, ?_, hB, ?_, ⟨45, T ++ L, rfl, .inl rfl⟩,
      fun fuel' d' rest o' hs => ?_⟩
    · nth_rewrite 1 [hR]
      rw [ht, hTL]
      rfl
    · simp
      omega
    · rw [List.cons_append, readValue_minus, htakes rest (o' + 1) hs]
      simp
      omega
  · by_cases hd : isDigit b
    · -- the number's digits
      rw [readValue_digit hd] at h
      obtain ⟨⟨n', c'⟩, hn, hv⟩ := (Except.map_eq_ok_iff _ _ _).1 h
      simp only [Prod.mk.injEq, Value.number.injEq] at hv
      obtain ⟨rfl, rfl⟩ := hv
      obtain ⟨T, L, hTL, rfl, htakes⟩ := readNumber_split hn
      refine ⟨R.takeWhile isBlank, T, L, ?_, hB, ?_, ⟨b, t, hTL.symm, .inr hd⟩,
        fun fuel' d' rest o' hs => ?_⟩
      · nth_rewrite 1 [hR]
        rw [ht, hTL]
      · simp
      · have hrest : T ++ (L ++ rest) = b :: (t ++ rest) := by
          rw [← List.append_assoc, ← hTL]
          rfl
        rw [hrest, readValue_digit hd, ← hrest, htakes rest o' hs]
        rfl
    · -- any other byte reads no number
      exfalso
      simp only [readValue, skipBlank_stop hb] at h
      split_ifs at h
      all_goals first
        | (obtain ⟨_, _, hv⟩ := (Except.map_eq_ok_iff _ _ _).1 h
           simp at hv)
        | (obtain ⟨_, hv⟩ := readItems_array h
           cases hv)
        | (obtain ⟨_, hv⟩ := readFields_object h
           cases hv)

end Runbook.Json
