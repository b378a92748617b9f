import Runbook.Sheet.CellRef
import Mathlib
/-!
# The texts that are cell references

An A1 reference is, once trimmed, an optional `$`, one to three ASCII letters read as a
bijective base-26 numeral in either case, an optional `$` and a decimal row, inside the
grid of 16384 columns and 1048576 rows. The reader does not parse this grammar: it splits
the text at its first digit or first `$` after the first character. The split lands right
after the column name exactly when the text has the grammar's shape.

Main statement: `Sheet.parseCell_reads_a1_grammar`: a text reads as a cell exactly when it
has the grammar's shape, and every cell of the grid, written in any of its forms, reads
back as itself.
-/

namespace Runbook.Sheet

/-- A `$` when a part is marked absolute, nothing otherwise. -/
def dollar (marked : Bool) : List Char := if marked then ['$'] else []

/-- The digit a letter stands for in a column name: `A` and `a` are 1, `Z` and `z` 26. -/
def letterDigit (c : Char) : Nat := c.toUpper.toNat - 'A'.toNat + 1

/-- The column a name stands for: its letters as the digits 1 to 26 of a bijective base-26
numeral, most significant first. -/
def columnValue (letters : List Char) : Nat := Nat.ofDigits 26 (letters.reverse.map letterDigit)

/-- A column name and a row numeral that name the cell at column `c` and row `r`. -/
structure NamesCell (letters digits : List Char) (c r : Nat) : Prop where
  /-- The name has one to three ASCII letters. -/
  name_ok : 1 ≤ letters.length ∧ letters.length ≤ 3 ∧ ∀ x ∈ letters, isLetter x = true
  /-- The numeral has at least one ASCII digit, and nothing else. -/
  numeral_ok : digits ≠ [] ∧ ∀ x ∈ digits, x.isDigit = true
  /-- The column is the value of the name. -/
  column_eq : columnValue letters = c
  /-- The row is the decimal value of the numeral. -/
  row_eq : Nat.ofDigitChars 10 digits 0 = r
  /-- The cell lies in the grid. -/
  in_grid : 1 ≤ c ∧ c ≤ maxColumn ∧ 1 ≤ r ∧ r ≤ maxRow

/-- Characters that are an A1 reference to the cell at column `c` and row `r`: an optional
`$`, a column name, an optional `$` and a row numeral. -/
def IsReference (cs : List Char) (c r : Nat) : Prop :=
  ∃ (colMark rowMark : Bool) (letters digits : List Char),
    cs = dollar colMark ++ letters ++ dollar rowMark ++ digits ∧ NamesCell letters digits c r

/-! ## Characters -/

theorem toNat_of_isLetter {x : Char} (h : isLetter x = true) :
    (65 ≤ x.toNat ∧ x.toNat ≤ 90) ∨ (97 ≤ x.toNat ∧ x.toNat ≤ 122) := by
  simp only [isLetter, Char.isUpper, Char.isLower, Bool.or_eq_true, Bool.and_eq_true,
    decide_eq_true_eq, UInt32.le_iff_toNat_le] at h
  exact h

theorem toNat_of_isDigit {x : Char} (h : x.isDigit = true) : 48 ≤ x.toNat ∧ x.toNat ≤ 57 := by
  simp only [Char.isDigit, Bool.and_eq_true, decide_eq_true_eq, UInt32.le_iff_toNat_le] at h
  exact h

theorem isDigit_eq_false_of_isLetter {x : Char} (h : isLetter x = true) : x.isDigit = false := by
  have hx := toNat_of_isLetter h
  simp only [Char.isDigit, Bool.and_eq_false_iff, decide_eq_false_iff_not, UInt32.le_iff_toNat_le]
  exact (by omega : ¬48 ≤ x.toNat ∨ ¬x.toNat ≤ 57)

theorem ne_dollar_of_isLetter {x : Char} (h : isLetter x = true) : x ≠ '$' := by
  rintro rfl
  cases h

theorem ne_dollar_of_isDigit {x : Char} (h : x.isDigit = true) : x ≠ '$' := by
  rintro rfl
  cases h

/-- Blanks are none of the characters a reference is made of. -/
theorem isBlank_eq_false_of_range {x : Char} (h : 36 ≤ x.toNat ∧ x.toNat ≤ 122) :
    Text.isBlank x = false := by
  simp only [Text.isBlank, Bool.or_eq_false_iff, Bool.and_eq_false_iff, beq_eq_false_iff_ne,
    decide_eq_false_iff_not]
  omega

/-- A letter whose capital is a letter is a letter: `toUpper` changes lower-case letters
only. -/
theorem isLetter_of_toUpper {x : Char} (h : isLetter x.toUpper = true) : isLetter x = true := by
  by_cases hx : 'a'.val ≤ x.val ∧ x.val ≤ 'z'.val
  · simp only [isLetter, Char.isLower, Bool.or_eq_true, Bool.and_eq_true, decide_eq_true_eq]
    exact .inr hx
  · have hup : x.toUpper = x := by
      unfold Char.toUpper
      rw [dif_neg hx]
    rwa [hup] at h

/-! ## Numerals -/

/-- A left fold that multiplies by `b` and adds reads a numeral in base `b`, most
significant digit first. -/
theorem foldl_mul_add (b : Nat) (f : Char → Nat) (L : List Char) (a : Nat) :
    L.foldl (fun acc x => acc * b + f x) a = a * b ^ L.length + Nat.ofDigits b (L.reverse.map f) := by
  induction L generalizing a with
  | nil => simp
  | cons x L ih =>
    rw [List.foldl_cons, ih, List.reverse_cons, List.map_append, Nat.ofDigits_append]
    simp only [List.length_map, List.length_reverse, List.map_cons, List.map_nil,
      Nat.ofDigits_singleton, List.length_cons, Nat.pow_succ]
    ring

theorem columnNumber_eq (letters : List Char) : columnNumber letters = columnValue letters := by
  have h := foldl_mul_add 26 letterDigit letters 0
  rw [Nat.zero_mul, Nat.zero_add] at h
  exact h

theorem rowFold_eq (digits : List Char) (a : Nat) :
    digits.foldl (fun acc c => acc * 10 + (c.toNat - 48)) a = Nat.ofDigitChars 10 digits a := by
  induction digits generalizing a with
  | nil => rfl
  | cons x rest ih =>
    rw [List.foldl_cons, ih, Nat.ofDigitChars_cons, Nat.mul_comm]
    rfl

/-- A row numeral reads as its decimal value, unless that exceeds the numeral limit. -/
theorem rowNumber?_eq (digits : List Char) :
    rowNumber? digits = if Nat.ofDigitChars 10 digits 0 ≤ maxRowNumeral then
      some (Nat.ofDigitChars 10 digits 0) else none := by
  rw [rowNumber?, rowFold_eq]

/-! ## The checks on the two parts -/

/-- What the letter checks let through: one to three letters. -/
theorem lettersRefused_eq_false_iff (letters : List Char) :
    (letters.isEmpty || decide (letters.length > 3) || !letters.all isLetter) = false ↔
      1 ≤ letters.length ∧ letters.length ≤ 3 ∧ ∀ x ∈ letters, isLetter x = true := by
  simp only [Bool.or_eq_false_iff, List.isEmpty_eq_false_iff, decide_eq_false_iff_not,
    Bool.not_eq_false', List.all_eq_true, ← List.length_pos_iff, Nat.not_lt]
  constructor
  · rintro ⟨⟨h1, h3⟩, hl⟩
    exact ⟨h1, h3, hl⟩
  · rintro ⟨h1, h3, hl⟩
    exact ⟨⟨h1, h3⟩, hl⟩

/-- What the digit checks let through: at least one digit, and digits only. -/
theorem digitsRefused_eq_false_iff (digits : List Char) :
    (digits.isEmpty || !digits.all Char.isDigit) = false ↔
      digits ≠ [] ∧ ∀ x ∈ digits, x.isDigit = true := by
  simp [List.isEmpty_eq_false_iff]

/-- The checks a reference makes once it is split: the parts pass exactly when they name
a cell of the grid. -/
theorem readParts_eq_some_iff (letters digits : List Char) (c r : Nat) :
    (if (letters.isEmpty || decide (letters.length > 3) || !letters.all isLetter) = true then none
      else if (digits.isEmpty || !digits.all Char.isDigit) = true then none
      else (rowNumber? digits).bind fun row =>
        if 1 ≤ columnNumber letters ∧ columnNumber letters ≤ maxColumn ∧ 1 ≤ row ∧ row ≤ maxRow
        then some (columnNumber letters, row) else none) = some (c, r) ↔
      NamesCell letters digits c r := by
  rw [rowNumber?_eq, columnNumber_eq]
  cases hA : (letters.isEmpty || decide (letters.length > 3) || !letters.all isLetter) with
  | true =>
    simp only [if_true, reduceCtorEq, false_iff]
    intro h
    have := (lettersRefused_eq_false_iff letters).2 h.name_ok
    rw [hA] at this
    cases this
  | false =>
    have hl := (lettersRefused_eq_false_iff letters).1 hA
    cases hB : (digits.isEmpty || !digits.all Char.isDigit) with
    | true =>
      simp only [if_true, Bool.false_eq_true, if_false, reduceCtorEq, false_iff]
      intro h
      have := (digitsRefused_eq_false_iff digits).2 h.numeral_ok
      rw [hB] at this
      cases this
    | false =>
      have hd := (digitsRefused_eq_false_iff digits).1 hB
      simp only [Bool.false_eq_true, if_false]
      constructor
      · intro h
        -- the row passed the numeral limit and the cell the grid
        split at h
        · rw [Option.bind_some] at h
          split at h
          · simp only [Option.some.injEq, Prod.mk.injEq] at h
            obtain ⟨rfl, rfl⟩ := h
            exact ⟨hl, hd, rfl, rfl, by assumption⟩
          · cases h
        · cases h
      · rintro ⟨-, -, rfl, rfl, hgrid⟩
        -- a row inside the grid never reaches the numeral limit
        have hV : Nat.ofDigitChars 10 digits 0 ≤ maxRowNumeral := by
          have : maxRow < maxRowNumeral := by decide
          omega
        rw [if_pos hV, Option.bind_some, if_pos hgrid]

/-- A text reads as a cell exactly when it splits somewhere into two parts that, each
without one leading `$`, name that cell. -/
theorem parseCell_eq_some_iff_split {s : String} {c r : Nat} :
    parseCell s = some (c, r) ↔ ∃ i, splitPoint? (Text.trimList s.toList) = some i ∧
      NamesCell (dropDollar ((Text.trimList s.toList).take i))
        (dropDollar ((Text.trimList s.toList).drop i)) c r := by
  unfold parseCell
  simp only [Option.bind_eq_bind, Option.bind_eq_some_iff]
  exact exists_congr fun i => and_congr_right fun _ => readParts_eq_some_iff _ _ c r

/-! ## Where a reference splits -/

theorem dropDollar_cons_of_ne {x : Char} (h : x ≠ '$') (rest : List Char) :
    dropDollar (x :: rest) = x :: rest := by
  unfold dropDollar
  split
  · rename_i heq
    exact absurd (List.cons.inj heq).1 h
  · rfl

/-- Every list is its leading `$`, if it has one, followed by what `dropDollar` keeps. -/
theorem eq_dollar_append_dropDollar (l : List Char) : ∃ marked, l = dollar marked ++ dropDollar l := by
  match l with
  | [] => exact ⟨false, rfl⟩
  | x :: rest =>
    by_cases hx : x = '$'
    · subst hx
      exact ⟨true, rfl⟩
    · exact ⟨false, by rw [dropDollar_cons_of_ne hx]; rfl⟩

theorem dropDollar_dollar_append (marked : Bool) {l : List Char} (h : ∀ x ∈ l.head?, x ≠ '$') :
    dropDollar (dollar marked ++ l) = l := by
  cases marked with
  | false =>
    cases l with
    | nil => rfl
    | cons x rest => exact dropDollar_cons_of_ne (h x rfl) rest
  | true => rfl

/-- The split point is the first position that holds a digit, or a `$` after the first
character. -/
theorem splitPoint?_of_first {cs : List Char} {k : Nat} {x : Char} (hk : cs[k]? = some x)
    (hx : (x.isDigit || (decide (x = '$') && decide (k > 0))) = true)
    (hbefore : ∀ j < k, ∀ y, cs[j]? = some y →
      (y.isDigit || (decide (y = '$') && decide (j > 0))) = false) :
    splitPoint? cs = some k := by
  rw [splitPoint?, List.find?_range_eq_some]
  have hlen : k < cs.length := (List.getElem?_eq_some_iff.mp hk).1
  refine ⟨by simp only [hk, hx], List.mem_range.mpr hlen, ?_⟩
  intro j hj
  have hjlen : j < cs.length := by omega
  rw [List.getElem?_eq_getElem hjlen]
  simp only [hbefore j hj _ (List.getElem?_eq_getElem hjlen), Bool.not_false]

/-- No position of a column name, its `$` included, is a split point. -/
theorem name_not_split (colMark : Bool) {letters : List Char}
    (hletters : ∀ x ∈ letters, isLetter x = true) {j : Nat} {y : Char}
    (hy : (dollar colMark ++ letters)[j]? = some y) :
    (y.isDigit || (decide (y = '$') && decide (j > 0))) = false := by
  have hletter : ∀ x ∈ letters, (x.isDigit || (decide (x = '$') && decide (j > 0))) = false := by
    intro x hx
    have h := hletters x hx
    simp [isDigit_eq_false_of_isLetter h, ne_dollar_of_isLetter h]
  cases colMark with
  | false => exact hletter y (List.mem_of_getElem? (by simpa [dollar] using hy))
  | true =>
    cases j with
    | zero =>
      -- the `$` in front stands first, where it does not split
      simp only [dollar, if_true, List.singleton_append, List.getElem?_cons_zero,
        Option.some.injEq] at hy
      subst hy
      decide
    | succ j => exact hletter y (List.mem_of_getElem? (by simpa [dollar] using hy))

/-- A text of the grammar's shape splits right after its column name. -/
theorem splitPoint?_reference (colMark rowMark : Bool) {letters digits : List Char}
    (hl : letters ≠ []) (hletters : ∀ x ∈ letters, isLetter x = true) (hd : digits ≠ [])
    (hdigits : ∀ x ∈ digits, x.isDigit = true) :
    splitPoint? (dollar colMark ++ letters ++ dollar rowMark ++ digits) =
      some (dollar colMark ++ letters).length := by
  have hcs : dollar colMark ++ letters ++ dollar rowMark ++ digits =
      (dollar colMark ++ letters) ++ (dollar rowMark ++ digits) := by simp
  have hbefore : ∀ j < (dollar colMark ++ letters).length, ∀ y,
      (dollar colMark ++ letters ++ dollar rowMark ++ digits)[j]? = some y →
      (y.isDigit || (decide (y = '$') && decide (j > 0))) = false := by
    intro j hj y hy
    rw [hcs, List.getElem?_append_left hj] at hy
    exact name_not_split colMark hletters hy
  obtain ⟨d, ds, rfl⟩ := List.exists_cons_of_ne_nil hd
  have hlen : 0 < letters.length := List.length_pos_iff.mpr hl
  -- the split lands on the row's `$`, or on its first digit
  cases rowMark with
  | true =>
    refine splitPoint?_of_first (x := '$') ?_ ?_ hbefore
    · rw [hcs, List.getElem?_append_right (Nat.le_refl _)]
      simp [dollar]
    · simp only [List.length_append, decide_true, Bool.true_and, Bool.or_eq_true,
        decide_eq_true_eq]
      exact .inr (by omega)
  | false =>
    refine splitPoint?_of_first (x := d) ?_ ?_ hbefore
    · rw [hcs, List.getElem?_append_right (Nat.le_refl _)]
      simp [dollar]
    · simp [hdigits d List.mem_cons_self]

/-- A text reads as a cell exactly when, trimmed, it has the grammar's shape naming that
cell. -/
theorem parseCell_eq_some_iff (s : String) (c r : Nat) :
    parseCell s = some (c, r) ↔ IsReference (Text.trimList s.toList) c r := by
  rw [parseCell_eq_some_iff_split]
  constructor
  · rintro ⟨i, -, hN⟩
    -- each half is its `$`, if any, and the part that was read
    obtain ⟨colMark, hcol⟩ := eq_dollar_append_dropDollar ((Text.trimList s.toList).take i)
    obtain ⟨rowMark, hrow⟩ := eq_dollar_append_dropDollar ((Text.trimList s.toList).drop i)
    refine ⟨colMark, rowMark, _, _, ?_, hN⟩
    have hsplit : Text.trimList s.toList =
        (dollar colMark ++ dropDollar ((Text.trimList s.toList).take i)) ++
          (dollar rowMark ++ dropDollar ((Text.trimList s.toList).drop i)) := by
      rw [← hcol, ← hrow, List.take_append_drop]
    exact hsplit.trans (List.append_assoc _ _ _).symm
  · rintro ⟨colMark, rowMark, letters, digits, hcs, hN⟩
    obtain ⟨hl1, -, hletters⟩ := hN.name_ok
    obtain ⟨hd, hdigits⟩ := hN.numeral_ok
    have hl : letters ≠ [] := List.ne_nil_of_length_pos hl1
    have hsplit : Text.trimList s.toList = (dollar colMark ++ letters) ++ (dollar rowMark ++ digits) := by
      rw [hcs]
      simp only [List.append_assoc]
    refine ⟨(dollar colMark ++ letters).length, ?_, ?_⟩
    · rw [hcs]
      exact splitPoint?_reference colMark rowMark hl hletters hd hdigits
    · -- the halves are the marked name and the marked numeral, each losing its `$`
      rw [hsplit, List.take_left, List.drop_left,
        dropDollar_dollar_append colMark fun x hx => ne_dollar_of_isLetter (hletters x (List.mem_of_mem_head? hx)),
        dropDollar_dollar_append rowMark fun x hx => ne_dollar_of_isDigit (hdigits x (List.mem_of_mem_head? hx))]
      exact hN

/-! ## Column names -/

/-- The `k`-th capital letter, from `A` for 0. -/
def capital (k : Nat) : Char := Char.ofNat ('A'.toNat + k)

/-- The 26 capitals are letters, their own capitals, and stand for 1 to 26. -/
theorem capital_spec : ∀ k < 26,
    (capital k).toUpper = capital k ∧ isLetter (capital k) = true ∧ letterDigit (capital k) = k + 1 := by
  decide

/-- The name of column `n`: its bijective base-26 numeral in capitals, empty for 0. -/
def columnName (n : Nat) : List Char :=
  if n = 0 then [] else columnName ((n - 1) / 26) ++ [capital ((n - 1) % 26)]
termination_by n
decreasing_by omega

theorem columnName_zero : columnName 0 = [] := by
  rw [columnName, if_pos rfl]

theorem columnName_of_pos {n : Nat} (h : 0 < n) :
    columnName n = columnName ((n - 1) / 26) ++ [capital ((n - 1) % 26)] := by
  rw [columnName, if_neg (by omega)]

theorem columnValue_append_singleton (letters : List Char) (x : Char) :
    columnValue (letters ++ [x]) = letterDigit x + 26 * columnValue letters := by
  simp [columnValue, Nat.ofDigits_cons]

/-- Reading a column's name gives the column back. -/
theorem columnValue_columnName (n : Nat) : columnValue (columnName n) = n := by
  induction n using Nat.strong_induction_on with
  | _ n ih =>
    rcases Nat.eq_zero_or_pos n with rfl | hn
    · rw [columnName_zero]
      rfl
    · have hk := capital_spec ((n - 1) % 26) (Nat.mod_lt _ (by omega))
      rw [columnName_of_pos hn, columnValue_append_singleton, hk.2.2, ih _ (by omega)]
      omega

theorem capital_of_mem_columnName {n : Nat} {y : Char} (hy : y ∈ columnName n) :
    ∃ k < 26, y = capital k := by
  induction n using Nat.strong_induction_on with
  | _ n ih =>
    rcases Nat.eq_zero_or_pos n with rfl | hn
    · rw [columnName_zero] at hy
      cases hy
    · rw [columnName_of_pos hn] at hy
      rcases List.mem_append.mp hy with hy | hy
      · exact ih _ (by omega) hy
      · exact ⟨_, Nat.mod_lt _ (by omega), List.mem_singleton.mp hy⟩

theorem length_columnName_pos {n : Nat} (h : 0 < n) : 0 < (columnName n).length := by
  rw [columnName_of_pos h]
  simp

/-- A column below `26 ^ k` has a name of at most `k` letters. -/
theorem length_columnName_le {k n : Nat} (h : n < 26 ^ k) : (columnName n).length ≤ k := by
  induction k generalizing n with
  | zero =>
    obtain rfl : n = 0 := by simpa using h
    rw [columnName_zero]
    rfl
  | succ k ih =>
    rcases Nat.eq_zero_or_pos n with rfl | hn
    · rw [columnName_zero]
      exact Nat.zero_le _
    · rw [Nat.pow_succ] at h
      have hq : (n - 1) / 26 < 26 ^ k := by
        rw [Nat.div_lt_iff_lt_mul (by omega)]
        omega
      rw [columnName_of_pos hn, List.length_append, List.length_singleton]
      exact Nat.succ_le_succ (ih hq)

/-- A name spelled in any mix of cases has the value of its capitals. -/
theorem columnValue_of_map_toUpper {letters : List Char}
    (h : ∀ x ∈ letters, x.toUpper.toUpper = x.toUpper) :
    columnValue letters = columnValue (letters.map Char.toUpper) := by
  unfold columnValue
  rw [← List.map_reverse, List.map_map]
  refine congrArg _ (List.map_congr_left fun x hx => ?_)
  simp only [Function.comp, letterDigit, h x (List.mem_reverse.mp hx)]

/-! ## Blanks around a reference -/

theorem dropWhile_isBlank_of_head {l : List Char} (h : ∀ x ∈ l.head?, Text.isBlank x = false) :
    l.dropWhile Text.isBlank = l := by
  cases l with
  | nil => rfl
  | cons x rest => simp [h x rfl]

/-- Trimming removes blanks around characters that neither start nor end with one. -/
theorem trimList_blank_around {before core after : List Char}
    (hb : ∀ x ∈ before, Text.isBlank x = true) (ha : ∀ x ∈ after, Text.isBlank x = true)
    (hne : core ≠ []) (hhead : ∀ x ∈ core.head?, Text.isBlank x = false)
    (hlast : ∀ x ∈ core.getLast?, Text.isBlank x = false) :
    Text.trimList (before ++ core ++ after) = core := by
  have hhead' : ∀ x ∈ (core ++ after).head?, Text.isBlank x = false := by
    obtain ⟨y, ys, rfl⟩ := List.exists_cons_of_ne_nil hne
    simpa using hhead
  have hlast' : ∀ x ∈ core.reverse.head?, Text.isBlank x = false := by
    rw [List.head?_reverse]
    exact hlast
  have ha' : ∀ x ∈ after.reverse, Text.isBlank x = true := fun x hx => ha x (List.mem_reverse.mp hx)
  unfold Text.trimList
  rw [List.append_assoc, List.dropWhile_append_of_pos hb, dropWhile_isBlank_of_head hhead',
    List.reverse_append, List.dropWhile_append_of_pos ha', dropWhile_isBlank_of_head hlast',
    List.reverse_reverse]

/-- Blanks around a reference are trimmed away: it starts with `$` or a letter and ends
with a digit. -/
theorem trimList_reference {cs before after : List Char} {c r : Nat} (href : IsReference cs c r)
    (hb : ∀ x ∈ before, Text.isBlank x = true) (ha : ∀ x ∈ after, Text.isBlank x = true) :
    Text.trimList (before ++ cs ++ after) = cs := by
  obtain ⟨colMark, rowMark, letters, digits, rfl, hN⟩ := href
  obtain ⟨hlen1, -, hletters⟩ := hN.name_ok
  obtain ⟨hdne, hdigits⟩ := hN.numeral_ok
  have hne : letters ≠ [] := List.ne_nil_of_length_pos hlen1
  refine trimList_blank_around hb ha (by simp [hne]) ?_ ?_
  · -- the first character is `$` or a letter
    intro x hx
    obtain ⟨l, ls, rfl⟩ := List.exists_cons_of_ne_nil hne
    have hl := toNat_of_isLetter (hletters l List.mem_cons_self)
    cases colMark with
    | true =>
      simp only [dollar, if_true, List.cons_append, List.head?_cons, Option.mem_def,
        Option.some.injEq] at hx
      subst hx
      decide
    | false =>
      simp only [dollar, Bool.false_eq_true, if_false, List.nil_append, List.cons_append,
        List.head?_cons, Option.mem_def, Option.some.injEq] at hx
      subst hx
      exact isBlank_eq_false_of_range (by omega)
  · -- the last character is a digit
    intro x hx
    have hlast : digits.getLast? = some x := by
      obtain ⟨d, hd'⟩ := Option.ne_none_iff_exists'.mp (mt List.getLast?_eq_none_iff.mp hdne)
      rw [List.getLast?_append, hd'] at hx
      simp only [Option.some_or, Option.mem_def, Option.some.injEq] at hx
      rw [hd', hx]
    have := toNat_of_isDigit (hdigits x (List.mem_of_getLast? hlast))
    exact isBlank_eq_false_of_range (by omega)

/-! ## References to every cell -/

/-- A column's name, spelled in any mix of cases, and a row's decimal numeral name the cell
when it lies in the grid. -/
theorem namesCell_columnName {c r : Nat} (hc1 : 1 ≤ c) (hc2 : c ≤ maxColumn) (hr1 : 1 ≤ r)
    (hr2 : r ≤ maxRow) {letters : List Char} (hname : letters.map Char.toUpper = columnName c) :
    NamesCell letters (toString r).toList c r := by
  -- the letters spell the column's name in capitals or small letters
  have hcap : ∀ x ∈ letters, ∃ k < 26, x.toUpper = capital k := fun x hx =>
    capital_of_mem_columnName (hname ▸ List.mem_map_of_mem hx)
  have hletters : ∀ x ∈ letters, isLetter x = true := by
    intro x hx
    obtain ⟨k, hk, hx'⟩ := hcap x hx
    exact isLetter_of_toUpper (hx' ▸ (capital_spec k hk).2.1)
  have hlen : letters.length = (columnName c).length := by rw [← hname, List.length_map]
  have hlen1 : 1 ≤ letters.length := hlen ▸ length_columnName_pos hc1
  have hlen3 : letters.length ≤ 3 :=
    hlen ▸ length_columnName_le (Nat.lt_of_le_of_lt hc2 (by decide))
  have hcolumn : columnValue letters = c := by
    have hup : ∀ x ∈ letters, x.toUpper.toUpper = x.toUpper := by
      intro x hx
      obtain ⟨k, hk, hx'⟩ := hcap x hx
      rw [hx']
      exact (capital_spec k hk).1
    rw [columnValue_of_map_toUpper hup, hname, columnValue_columnName]
  -- the numeral is the row's decimal digits
  have hdigits : (toString r).toList = Nat.toDigits 10 r := by simp
  have hisDigit : ∀ x ∈ (toString r).toList, x.isDigit = true := by
    rw [hdigits]
    exact fun x hx => Nat.isDigit_of_mem_toDigits (by decide) (by decide) hx
  refine ⟨⟨hlen1, hlen3, hletters⟩, ⟨by simp, hisDigit⟩, hcolumn, ?_, hc1, hc2, hr1, hr2⟩
  rw [hdigits]
  exact Nat.ofDigitChars_ten_toDigits

/-- Every cell of the grid reads back from its column's name, spelled in any mix of cases,
and its row's decimal numeral, each with or without a `$`, with blanks around. -/
theorem parseCell_name_numeral {c r : Nat} (hc1 : 1 ≤ c) (hc2 : c ≤ maxColumn) (hr1 : 1 ≤ r)
    (hr2 : r ≤ maxRow) {letters : List Char} (hname : letters.map Char.toUpper = columnName c)
    (colMark rowMark : Bool) {before after : List Char}
    (hb : ∀ x ∈ before, Text.isBlank x = true) (ha : ∀ x ∈ after, Text.isBlank x = true) :
    parseCell (String.ofList (before ++ dollar colMark ++ letters ++ dollar rowMark ++
      (toString r).toList ++ after)) = some (c, r) := by
  have href : IsReference (dollar colMark ++ letters ++ dollar rowMark ++ (toString r).toList) c r :=
    ⟨colMark, rowMark, letters, _, rfl, namesCell_columnName hc1 hc2 hr1 hr2 hname⟩
  have hassoc : before ++ dollar colMark ++ letters ++ dollar rowMark ++ (toString r).toList ++ after =
      before ++ (dollar colMark ++ letters ++ dollar rowMark ++ (toString r).toList) ++ after := by
    simp only [List.append_assoc]
  rw [parseCell_eq_some_iff, String.toList_ofList, hassoc, trimList_reference href hb ha]
  exact href

/-- A text reads as a cell exactly when, trimmed, it is an optional `$`, one to three ASCII
letters in either case whose bijective base-26 value is the column, an optional `$` and
ASCII digits whose decimal value is the row, the cell lying in the grid; every other text,
numerals too large for any row included, reads as none. So every cell of the grid reads
back from its column's name, spelled in any mix of cases, and its row's numeral, each with
or without a `$`, with blanks around. -/
theorem parseCell_reads_a1_grammar :
    (∀ (s : String) (c r : Nat),
      parseCell s = some (c, r) ↔ IsReference (Text.trimList s.toList) c r) ∧
    (∀ s : String, parseCell s = none ↔ ∀ c r, ¬IsReference (Text.trimList s.toList) c r) ∧
    (∀ (c r : Nat) (letters before after : List Char) (colMark rowMark : Bool),
      1 ≤ c → c ≤ maxColumn → 1 ≤ r → r ≤ maxRow →
      letters.map Char.toUpper = columnName c →
      (∀ x ∈ before, Text.isBlank x = true) → (∀ x ∈ after, Text.isBlank x = true) →
      parseCell (String.ofList (before ++ dollar colMark ++ letters ++ dollar rowMark ++
        (toString r).toList ++ after)) = some (c, r)) := by
  refine ⟨parseCell_eq_some_iff, fun s => ?_, ?_⟩
  · -- no answer exactly when no cell is named
    rw [Option.eq_none_iff_forall_ne_some]
    constructor
    · intro h c r hr
      exact h (c, r) ((parseCell_eq_some_iff s c r).mpr hr)
    · rintro h ⟨c, r⟩ hs
      exact h c r ((parseCell_eq_some_iff s c r).mp hs)
  · intro c r letters before after colMark rowMark hc1 hc2 hr1 hr2 hname hb ha
    exact parseCell_name_numeral hc1 hc2 hr1 hr2 hname colMark rowMark hb ha

/-- The last cell of the grid, `XFD1048576`, reads back from ` $xFd1048576` followed by a
tab. -/
theorem parseCell_reads_a1_grammar_lastCell :
    (1 ≤ 16384 ∧ 16384 ≤ maxColumn ∧ 1 ≤ 1048576 ∧ 1048576 ≤ maxRow ∧
      ['x', 'F', 'd'].map Char.toUpper = columnName 16384 ∧
      (∀ x ∈ [' '], Text.isBlank x = true) ∧ (∀ x ∈ ['\t'], Text.isBlank x = true)) ∧
    parseCell (String.ofList ([' '] ++ dollar true ++ ['x', 'F', 'd'] ++ dollar false ++
      (toString 1048576).toList ++ ['\t'])) = some (16384, 1048576) := by
  have hname : ['x', 'F', 'd'].map Char.toUpper = columnName 16384 := by
    rw [columnName_of_pos (by decide), columnName_of_pos (by decide),
      columnName_of_pos (by decide), columnName_zero]
    decide
  have hspace : ∀ x ∈ [' '], Text.isBlank x = true := by
    intro x hx
    rw [List.mem_singleton.mp hx]
    rfl
  have htab : ∀ x ∈ ['\t'], Text.isBlank x = true := by
    intro x hx
    rw [List.mem_singleton.mp hx]
    rfl
  exact ⟨⟨by decide, by decide, by decide, by decide, hname, hspace, htab⟩,
    parseCell_reads_a1_grammar.2.2 16384 1048576 _ _ _ true false (by decide) (by decide)
      (by decide) (by decide) hname hspace htab⟩

end Runbook.Sheet
