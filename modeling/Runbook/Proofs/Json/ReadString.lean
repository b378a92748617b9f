import Runbook.Json.Parse
/-!
# Reading back the text of strings

The reader works on the UTF-8 bytes of a text. This module relates the bytes of the texts
the writer makes to what the reader takes from them: a run of blanks is skipped whole, and
the text of a string literal reads back as the string, whatever follows it. Every
character is written either as itself, when none of its bytes is a control byte, the quote
or the backslash, or as an escape that the reader turns back into the character's bytes.
-/

namespace Runbook.Json

/-! ### The bytes of a text -/

theorem byteArray_toList_loop (b : ByteArray) (i : Nat) (r : List UInt8) :
    ByteArray.toList.loop b i r = r.reverse ++ b.data.toList.drop i := by
  fun_induction ByteArray.toList.loop b i r with
  | case1 i r hi ih =>
    have hi' : i < b.data.toList.length := by
      rw [Array.length_toList]
      exact hi
    have hget : b.data.toList[i] = b.get! i := by
      obtain ⟨bs⟩ := b
      simp only [ByteArray.get!, Array.getElem_toList]
      rw [getElem!_pos bs i (by simpa using hi')]
    rw [ih, List.drop_eq_getElem_cons hi', hget]
    simp
  | case2 i r hi =>
    have hle : b.data.toList.length ≤ i := by
      rw [Array.length_toList]
      exact Nat.le_of_not_lt hi
    rw [List.drop_of_length_le hle, List.append_nil]

theorem byteArray_toList (b : ByteArray) : b.toList = b.data.toList := by
  rw [ByteArray.toList, byteArray_toList_loop]
  simp

theorem toUTF8_toList (s : String) : s.toUTF8.toList = s.toList.flatMap String.utf8EncodeChar := by
  have h : s.toByteArray = (String.ofList s.toList).toByteArray := by
    rw [String.ofList_toList]
  rw [byteArray_toList, String.toUTF8_eq_toByteArray, h, String.toByteArray_ofList, List.utf8Encode,
    List.toList_data_toByteArray]

theorem toUTF8_singleton (c : Char) :
    (String.singleton c).toUTF8.toList = String.utf8EncodeChar c := by
  rw [toUTF8_toList, String.toList_singleton, List.flatMap_cons, List.flatMap_nil, List.append_nil]

theorem fromUTF8_toList (s : String) :
    String.fromUTF8? (ByteArray.mk (s.toList.flatMap String.utf8EncodeChar).toArray) = some s := by
  rw [← toUTF8_toList, byteArray_toList]
  simp [String.fromUTF8?, s.isValidUTF8]
  rfl

theorem utf8EncodeChar_ascii {c : Char} (h : c.toNat < 128) : String.utf8EncodeChar c = [c.toNat.toUInt8] := by
  rw [String.utf8EncodeChar_eq_singleton]
  · rfl
  · rw [Char.utf8Size_eq_one_iff, UInt32.le_iff_toNat_le]
    exact Nat.le_of_lt_succ h

theorem utf8EncodeChar_high {c : Char} (h : 128 ≤ c.toNat) : ∀ b ∈ String.utf8EncodeChar c, 0x80 ≤ b := by
  have hsize : c.utf8Size ≠ 1 := by
    rw [Ne, Char.utf8Size_eq_one_iff, UInt32.le_iff_toNat_le]
    exact Nat.not_le_of_lt h
  have hmark : ∀ {x m : UInt8}, 0x80 ≤ m → 0x80 ≤ x ||| m := fun hm => UInt8.le_trans hm UInt8.right_le_or
  rcases Nat.lt_or_ge c.utf8Size 3 with hs | hs
  · rw [String.utf8EncodeChar_eq_cons_cons (by have := c.utf8Size_pos; omega)]
    simp only [List.mem_cons, List.not_mem_nil, or_false]
    rintro b (rfl | rfl) <;> exact hmark (by decide)
  · rcases Nat.lt_or_ge c.utf8Size 4 with hs' | hs'
    · rw [String.utf8EncodeChar_eq_cons_cons_cons (by omega)]
      simp only [List.mem_cons, List.not_mem_nil, or_false]
      rintro b (rfl | rfl | rfl) <;> exact hmark (by decide)
    · rw [String.utf8EncodeChar_eq_cons_cons_cons_cons (by have := c.utf8Size_le_four; omega)]
      simp only [List.mem_cons, List.not_mem_nil, or_false]
      rintro b (rfl | rfl | rfl | rfl) <;> exact hmark (by decide)

theorem replicate_space_bytes (n : Nat) :
    (List.replicate n ' ').flatMap String.utf8EncodeChar = List.replicate n 32 := by
  induction n with
  | zero => rfl
  | succ n ih =>
    rw [List.replicate_succ, List.flatMap_cons, ih]
    rfl

theorem newline_bytes (l : Nat) :
    (newline l).toList.flatMap String.utf8EncodeChar = 10 :: List.replicate (2 * l) 32 := by
  simp only [newline, String.toList_append, List.flatMap_append, String.toList_ofList,
    replicate_space_bytes]
  rfl

/-! ### Blanks -/

theorem skipBlank_append {bs : List UInt8} (h : ∀ b ∈ bs, isBlank b = true) (rest : List UInt8)
    (o : Nat) : skipBlank (bs ++ rest) o = skipBlank rest (o + bs.length) := by
  induction bs generalizing o with
  | nil => rfl
  | cons b bs ih =>
    have hb := h b (List.mem_cons_self ..)
    rw [List.cons_append, skipBlank, if_pos hb, ih (fun x hx => h x (List.mem_cons_of_mem _ hx))]
    simp only [List.length_cons]
    congr 1
    omega

theorem skipBlank_stop {b : UInt8} (h : isBlank b = false) (r : List UInt8) (o : Nat) :
    skipBlank (b :: r) o = ⟨b :: r, o⟩ := by
  rw [skipBlank, if_neg (by simp [h])]

/-- Skipping blanks stops at the first byte that is not one. -/
theorem skipBlank_eq (R : List UInt8) (o : Nat) :
    skipBlank R o = ⟨R.dropWhile isBlank, o + (R.takeWhile isBlank).length⟩ := by
  induction R generalizing o with
  | nil => rfl
  | cons b r ih =>
    cases hb : isBlank b
    · rw [skipBlank_stop hb]
      simp [hb]
    · rw [skipBlank, if_pos hb, ih]
      simp only [List.dropWhile_cons, List.takeWhile_cons, hb, if_true, List.length_cons]
      congr 1
      omega

theorem newline_blank (l : Nat) : ∀ b ∈ (newline l).toList.flatMap String.utf8EncodeChar,
    isBlank b = true := by
  rw [newline_bytes]
  intro b hb
  rcases List.mem_cons.1 hb with rfl | hb
  · rfl
  · rw [List.eq_of_mem_replicate hb]
    rfl

/-! ### Strings -/

/-- The bytes of a character written as itself in a string literal are all copied by the
reader: none is a control byte, the quote or the backslash. -/
theorem utf8EncodeChar_plain {c : Char} (h32 : 32 ≤ c.toNat) (hq : c ≠ '"') (hb : c ≠ '\\') :
    ∀ b ∈ String.utf8EncodeChar c, 32 ≤ b ∧ b ≠ 34 ∧ b ≠ 92 := by
  rcases Nat.lt_or_ge c.toNat 128 with hc | hc
  · rw [utf8EncodeChar_ascii hc]
    have hq' : c.toNat ≠ 34 := fun h => hq (Char.ext (UInt32.toNat_inj.1 h))
    have hb' : c.toNat ≠ 92 := fun h => hb (Char.ext (UInt32.toNat_inj.1 h))
    simp only [List.mem_singleton]
    rintro b rfl
    refine ⟨?_, ?_, ?_⟩
    · rw [UInt8.le_iff_toNat_le]
      simp
      omega
    · intro h
      have := congrArg UInt8.toNat h
      simp at this
      omega
    · intro h
      have := congrArg UInt8.toNat h
      simp at this
      omega
  · intro b hb
    have h80 := utf8EncodeChar_high hc b hb
    refine ⟨UInt8.le_trans (by decide) h80, ?_, ?_⟩ <;> rintro rfl <;> exact absurd h80 (by decide)

theorem readStringBytes_plain {bs : List UInt8} (h : ∀ b ∈ bs, 32 ≤ b ∧ b ≠ 34 ∧ b ≠ 92)
    (fuel : Nat) (rest : List UInt8) (o : Nat) (acc : List UInt8) :
    readStringBytes (fuel + bs.length) ⟨bs ++ rest, o⟩ acc =
      readStringBytes fuel ⟨rest, o + bs.length⟩ (bs.reverse ++ acc) := by
  induction bs generalizing o acc with
  | nil => rfl
  | cons b bs ih =>
    obtain ⟨h32, hq, hbs⟩ := h b (List.mem_cons_self ..)
    have hlt : ¬ b < 32 := UInt8.not_lt.2 h32
    rw [List.length_cons, ← Nat.add_assoc, List.cons_append, readStringBytes]
    simp only [if_neg hq, if_neg hbs, if_neg hlt]
    rw [ih (fun x hx => h x (List.mem_cons_of_mem _ hx))]
    simp only [List.reverse_cons, List.append_assoc, List.singleton_append]
    congr 2
    omega

theorem readStringBytes_backslash (fuel : Nat) (r : List UInt8) (o : Nat) (acc : List UInt8) :
    readStringBytes (fuel + 1) ⟨92 :: r, o⟩ acc =
      (readEscape ⟨r, o + 1⟩ >>= fun (bytes, c') => readStringBytes fuel c' (bytes.reverse ++ acc)) := by
  rw [readStringBytes]
  rfl

/-- Each hexadecimal digit the writer uses is one byte that the reader takes back. -/
theorem hexDigit_byte : ∀ d, d < 16 →
    ∃ b, String.utf8EncodeChar (hexDigit d) = [b] ∧ hexValue b = some d := by
  have hlen : ∀ d, d < 16 → (String.utf8EncodeChar (hexDigit d)).length = 1 := by decide
  have hval : ∀ d, d < 16 → hexValue ((String.utf8EncodeChar (hexDigit d)).headD 0) = some d := by
    decide
  intro d hd
  obtain ⟨b, hb⟩ := List.length_eq_one_iff.1 (hlen d hd)
  refine ⟨b, hb, ?_⟩
  have hv := hval d hd
  rwa [hb] at hv

theorem escaped_two {c : Char} {e byte : UInt8}
    (hbytes : (escapeChar c).flatMap String.utf8EncodeChar = [92, e])
    (hc : String.utf8EncodeChar c = [byte])
    (hesc : ∀ rest o, readEscape ⟨e :: rest, o⟩ = .ok ([byte], ⟨rest, o + 1⟩)) :
    ∃ k, 1 ≤ k ∧ k ≤ ((escapeChar c).flatMap String.utf8EncodeChar).length ∧
      ∀ fuel rest o acc,
        readStringBytes (fuel + k) ⟨(escapeChar c).flatMap String.utf8EncodeChar ++ rest, o⟩ acc =
          readStringBytes fuel ⟨rest, o + ((escapeChar c).flatMap String.utf8EncodeChar).length⟩
            ((String.utf8EncodeChar c).reverse ++ acc) := by
  refine ⟨1, Nat.le_refl 1, by simp [hbytes], fun fuel rest o acc => ?_⟩
  rw [hbytes, hc, List.cons_append, readStringBytes_backslash, List.cons_append, hesc]
  rfl

/-- A control character is written as `\u00` and two hexadecimal digits, which the reader
turns back into its byte. -/
theorem escaped_control {c : Char} (hc : c.toNat < 32)
    (hbytes : (escapeChar c).flatMap String.utf8EncodeChar =
      [92, 117, 48, 48] ++ String.utf8EncodeChar (hexDigit (c.toNat / 16)) ++
        String.utf8EncodeChar (hexDigit (c.toNat % 16))) :
    ∃ k, 1 ≤ k ∧ k ≤ ((escapeChar c).flatMap String.utf8EncodeChar).length ∧
      ∀ fuel rest o acc,
        readStringBytes (fuel + k) ⟨(escapeChar c).flatMap String.utf8EncodeChar ++ rest, o⟩ acc =
          readStringBytes fuel ⟨rest, o + ((escapeChar c).flatMap String.utf8EncodeChar).length⟩
            ((String.utf8EncodeChar c).reverse ++ acc) := by
  obtain ⟨hi, hhi, hvi⟩ := hexDigit_byte (c.toNat / 16) (by omega)
  obtain ⟨lo, hlo, hvlo⟩ := hexDigit_byte (c.toNat % 16) (by omega)
  rw [hbytes, hhi, hlo]
  refine ⟨1, Nat.le_refl 1, by simp, fun fuel rest o acc => ?_⟩
  have hhex : readHex4 ⟨48 :: 48 :: hi :: lo :: rest, o + 2⟩ = .ok (c.toNat, ⟨rest, o + 6⟩) := by
    have h48 : hexValue 48 = some 0 := by decide
    have hn : ((0 * 16 + 0) * 16 + c.toNat / 16) * 16 + c.toNat % 16 = c.toNat := by omega
    simp only [readHex4, h48, hvi, hvlo, hn]
  have hutf : utf8 c.toNat = String.utf8EncodeChar c := by
    rw [utf8, toUTF8_singleton, Char.ofNat_toNat]
  have hu : readEscape ⟨117 :: 48 :: 48 :: hi :: lo :: rest, o + 1⟩ =
      .ok (String.utf8EncodeChar c, ⟨rest, o + 6⟩) := by
    have he : readEscape ⟨117 :: 48 :: 48 :: hi :: lo :: rest, o + 1⟩ =
        readUnicode ⟨48 :: 48 :: hi :: lo :: rest, o + 2⟩ := rfl
    have hnot : ¬ (0xDC00 ≤ c.toNat ∧ c.toNat ≤ 0xDFFF) := by omega
    have hlow : c.toNat < 0xD800 ∨ c.toNat > 0xDBFF := .inl (by omega)
    rw [he, readUnicode, hhex]
    simp only [bind, Except.bind, if_neg hnot, if_pos hlow, hutf]
  simp only [List.cons_append, List.nil_append]
  rw [readStringBytes_backslash, hu]
  rfl
/-- The reader takes one character's escaped form in `k` steps, at least one and at most
one for each byte, adding the character's bytes. -/
theorem readStringBytes_escapeChar (c : Char) :
    ∃ k, 1 ≤ k ∧ k ≤ ((escapeChar c).flatMap String.utf8EncodeChar).length ∧
      ∀ fuel rest o acc,
        readStringBytes (fuel + k) ⟨(escapeChar c).flatMap String.utf8EncodeChar ++ rest, o⟩ acc =
          readStringBytes fuel ⟨rest, o + ((escapeChar c).flatMap String.utf8EncodeChar).length⟩
            ((String.utf8EncodeChar c).reverse ++ acc) := by
  -- the cases of `escapeChar`, in its order
  by_cases hq : c = '"'
  · subst hq
    exact @escaped_two _ 34 34 (by decide) (by decide) (fun _ _ => rfl)
  by_cases hb : c = '\\'
  · subst hb
    exact @escaped_two _ 92 92 (by decide) (by decide) (fun _ _ => rfl)
  by_cases hn : c = '\n'
  · subst hn
    exact @escaped_two _ 110 10 (by decide) (by decide) (fun _ _ => rfl)
  by_cases hr : c = '\r'
  · subst hr
    exact @escaped_two _ 114 13 (by decide) (by decide) (fun _ _ => rfl)
  by_cases ht : c = '\t'
  · subst ht
    exact @escaped_two _ 116 9 (by decide) (by decide) (fun _ _ => rfl)
  by_cases h8 : c.toNat = 8
  · obtain rfl : c = Char.ofNat 8 := Char.ext (UInt32.toNat_inj.1 h8)
    exact @escaped_two _ 98 8 (by decide) (by decide) (fun _ _ => rfl)
  by_cases h12 : c.toNat = 12
  · obtain rfl : c = Char.ofNat 12 := Char.ext (UInt32.toNat_inj.1 h12)
    exact @escaped_two _ 102 12 (by decide) (by decide) (fun _ _ => rfl)
  by_cases hc : c.toNat < 32
  · have hbs : String.utf8EncodeChar '\\' = [92] := by decide
    have hu : String.utf8EncodeChar 'u' = [117] := by decide
    have h0 : String.utf8EncodeChar '0' = [48] := by decide
    exact escaped_control hc (by simp [escapeChar, hq, hb, hn, hr, ht, h8, h12, hc, hbs, hu, h0])
  · -- any other character is written as itself
    have hself : escapeChar c = [c] := by simp [escapeChar, hq, hb, hn, hr, ht, h8, h12, hc]
    have hplain := utf8EncodeChar_plain (by omega) hq hb
    have hpos : 1 ≤ (String.utf8EncodeChar c).length := by
      rw [String.length_utf8EncodeChar]
      exact c.utf8Size_pos
    rw [hself, List.flatMap_cons, List.flatMap_nil, List.append_nil]
    exact ⟨_, hpos, Nat.le_refl _, fun fuel rest o acc => readStringBytes_plain hplain fuel rest o acc⟩

/-- The escaped forms of characters and then a quote: the reader takes the characters'
bytes and stops past the quote, given a step for every byte. -/
theorem readStringBytes_escaped (cs : List Char) (fuel : Nat)
    (hfuel : ((cs.flatMap escapeChar).flatMap String.utf8EncodeChar).length < fuel)
    (rest : List UInt8) (o : Nat) (acc : List UInt8) :
    readStringBytes fuel ⟨(cs.flatMap escapeChar).flatMap String.utf8EncodeChar ++ 34 :: rest, o⟩ acc =
      .ok (acc.reverse ++ cs.flatMap String.utf8EncodeChar,
        ⟨rest, o + ((cs.flatMap escapeChar).flatMap String.utf8EncodeChar).length + 1⟩) := by
  induction cs generalizing fuel o acc with
  | nil =>
    obtain ⟨f, rfl⟩ : ∃ f, fuel = f + 1 := ⟨fuel - 1, by simp at hfuel; omega⟩
    simp [readStringBytes]
  | cons c cs ih =>
    obtain ⟨k, hk1, hkle, hstep⟩ := readStringBytes_escapeChar c
    simp only [List.flatMap_cons, List.flatMap_append, List.append_assoc, List.length_append] at hfuel ⊢
    obtain ⟨f, rfl⟩ : ∃ f, fuel = f + k := ⟨fuel - k, by omega⟩
    rw [hstep, ih f (by omega)]
    simp only [List.reverse_append, List.reverse_reverse, List.append_assoc, Except.ok.injEq,
      Prod.mk.injEq, Cursor.mk.injEq, true_and]
    omega

/-- The bytes of a string literal: the quote, the escaped forms of the characters, and the
quote again. -/
theorem quote_bytes (s : String) :
    (quote s).toList.flatMap String.utf8EncodeChar =
      34 :: (s.toList.flatMap escapeChar).flatMap String.utf8EncodeChar ++ [34] := by
  simp only [quote, String.toList_ofList, List.flatMap_cons, List.flatMap_append]
  rfl

/-- A string literal reads back as its string, whatever follows it. -/
theorem readString_quote (s : String) (fuel : Nat)
    (hfuel : ((s.toList.flatMap escapeChar).flatMap String.utf8EncodeChar).length < fuel)
    (rest : List UInt8) (o : Nat) :
    readString fuel ⟨(s.toList.flatMap escapeChar).flatMap String.utf8EncodeChar ++ 34 :: rest, o⟩ =
      .ok (s, ⟨rest, o + ((s.toList.flatMap escapeChar).flatMap String.utf8EncodeChar).length + 1⟩) := by
  rw [readString, readStringBytes_escaped _ fuel hfuel]
  simp [bind, Except.bind, fromUTF8_toList]

end Runbook.Json
