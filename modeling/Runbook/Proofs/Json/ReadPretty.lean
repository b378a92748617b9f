import Runbook.Proofs.Json.ReadNumber
/-!
# Reading back the indented text of a value

The indented text of a value reads back as the value when every object keeps its keys in
increasing order, as the reader keeps them, and every number's text reads back; strings
always do (`readString_quote`). It reads back exactly when the value nests no deeper than
`maxOpen`, and is refused with the recursion limit otherwise. The proof follows the text,
by induction on the value with one statement for a value, for the items after a given one
and for the fields after a given one (`Value.TextReadsBack`, `ItemsTextReadsBack`,
`FieldsTextReadsBack`).

Main statements: `parse_pretty_of_depth_le` and `parse_pretty_of_lt_depth`.
-/

namespace Runbook.Json

/-! ### Values the text keeps -/

mutual

/-- `P` holds of a value and of every value inside it. -/
def Value.Every (P : Value → Prop) : Value → Prop
  | .array items => P (.array items) ∧ Value.EveryItem P items
  | .object fields => P (.object fields) ∧ Value.EveryField P fields
  | .null => P .null
  | .bool b => P (.bool b)
  | .number n => P (.number n)
  | .string s => P (.string s)

/-- `P` holds of every item and of every value inside them. -/
def Value.EveryItem (P : Value → Prop) : List Value → Prop
  | [] => True
  | v :: rest => v.Every P ∧ Value.EveryItem P rest

/-- `P` holds of every field's value and of every value inside them. -/
def Value.EveryField (P : Value → Prop) : List (String × Value) → Prop
  | [] => True
  | (_, v) :: rest => v.Every P ∧ Value.EveryField P rest

end

/-- An object's keys are in increasing order, as the reader keeps them. -/
def Value.KeysSorted : Value → Prop
  | .object fields => fields.Pairwise fun a b => a.1 < b.1
  | _ => True

/-- A number's own text reads back as the number. -/
def Value.NumberReadsBack : Value → Prop
  | .number n => parse n.render = .ok (.number n)
  | _ => True

section Every

variable (P : Value → Prop)

theorem Value.everyItem_iff (vs : List Value) : Value.EveryItem P vs ↔ ∀ v ∈ vs, v.Every P := by
  induction vs with
  | nil => simp [Value.EveryItem]
  | cons v rest ih => simp [Value.EveryItem, ih]

theorem Value.everyField_iff (fs : List (String × Value)) :
    Value.EveryField P fs ↔ ∀ p ∈ fs, p.2.Every P := by
  induction fs with
  | nil => simp [Value.EveryField]
  | cons p rest ih =>
    obtain ⟨k, v⟩ := p
    simp [Value.EveryField, ih]

theorem Value.every_array_iff (vs : List Value) :
    (Value.array vs).Every P ↔ P (.array vs) ∧ ∀ v ∈ vs, v.Every P := by
  rw [Value.Every, Value.everyItem_iff]

theorem Value.every_object_iff (fs : List (String × Value)) :
    (Value.object fs).Every P ↔ P (.object fs) ∧ ∀ p ∈ fs, p.2.Every P := by
  rw [Value.Every, Value.everyField_iff]

end Every

/-! ### The bytes of the text -/

/-- The UTF-8 bytes of a text. -/
def textBytes (s : String) : List UInt8 := s.toList.flatMap String.utf8EncodeChar

@[simp]
theorem textBytes_append (a b : String) : textBytes (a ++ b) = textBytes a ++ textBytes b := by
  simp [textBytes]

@[simp]
theorem textBytes_empty : textBytes "" = [] := rfl

theorem parse_eq_parseBytes (s : String) : parse s = parseBytes (textBytes s) := by
  rw [parse, toUTF8_toList]
  rfl

/-- The indented items of an array from a given one on, each on its own line and after a
comma unless it is the first. -/
def itemsText (level : Nat) : Bool → List Value → String
  | _, [] => ""
  | first, v :: rest =>
    (if first then "" else ",") ++ newline level ++ v.renderPretty level ++ itemsText level false rest

/-- The indented fields of an object from a given one on, each on its own line and after a
comma unless it is the first. -/
def fieldsText (level : Nat) : Bool → List (String × Value) → String
  | _, [] => ""
  | first, (k, v) :: rest =>
    (if first then "" else ",") ++ newline level ++ quote k ++ ": " ++ v.renderPretty level ++
      fieldsText level false rest

theorem prettyItems_eq_itemsText (level : Nat) :
    ∀ vs, prettyItems level vs = itemsText level true vs
  | [] => rfl
  | [v] => by simp [prettyItems, itemsText]
  | v :: w :: ws => by
    have ih := prettyItems_eq_itemsText level (w :: ws)
    simp [prettyItems, ih, itemsText, String.append_assoc]

theorem prettyFields_eq_fieldsText (level : Nat) :
    ∀ fs, prettyFields level fs = fieldsText level true fs
  | [] => rfl
  | [(k, v)] => by simp [prettyFields, fieldsText]
  | (k, v) :: (k', w) :: fs => by
    have ih := prettyFields_eq_fieldsText level ((k', w) :: fs)
    simp [prettyFields, ih, fieldsText, String.append_assoc]

/-! ### The reader sees past blanks -/

theorem skipBlank_idem (R : List UInt8) (o : Nat) :
    skipBlank (skipBlank R o).rest (skipBlank R o).offset = skipBlank R o := by
  induction R generalizing o with
  | nil => rfl
  | cons b r ih =>
    cases hb : isBlank b
    · rw [skipBlank_stop hb, skipBlank_stop hb]
    · rw [skipBlank, if_pos hb, ih]

section Skip

variable {R R' : List UInt8} {o o' : Nat} (h : skipBlank R o = skipBlank R' o')
include h

/-- A value is read the same from two places that show the same bytes after blanks. -/
theorem readValue_congr (fuel d : Nat) :
    readValue (fuel + 1) d ⟨R, o⟩ = readValue (fuel + 1) d ⟨R', o'⟩ := by
  simp only [readValue, h]

theorem readItems_congr (fuel d : Nat) (first : Bool) (acc : List Value) :
    readItems (fuel + 1) d first acc ⟨R, o⟩ = readItems (fuel + 1) d first acc ⟨R', o'⟩ := by
  simp only [readItems, h]

theorem readFields_congr (fuel d : Nat) (first : Bool) (acc : List (String × Value)) :
    readFields (fuel + 1) d first acc ⟨R, o⟩ = readFields (fuel + 1) d first acc ⟨R', o'⟩ := by
  simp only [readFields, h]

end Skip

theorem readValue_skipBlank (fuel d : Nat) (R : List UInt8) (o : Nat) :
    readValue (fuel + 1) d (skipBlank R o) = readValue (fuel + 1) d ⟨R, o⟩ := by
  simp only [readValue, skipBlank_idem]

/-! ### What reading a text gives -/

/-- What reading the text of `v` gives: `v`, and a cursor from which the bytes of `rest`
follow at `o` once blanks are skipped, when `fits` holds; the recursion limit otherwise. -/
def ReadsBack (r : Except Failure (Value × Cursor)) (v : Value) (fits : Prop)
    (rest : List UInt8) (o : Nat) : Prop :=
  (fits → ∃ c, r = .ok (v, c) ∧ skipBlank c.rest c.offset = skipBlank rest o) ∧
    (¬fits → ∃ e, r = .error e ∧ e.kind = .recursionLimit)

theorem ReadsBack.of_ok {r : Except Failure (Value × Cursor)} {v : Value} {fits : Prop}
    {rest : List UInt8} {o : Nat} (hfits : fits) (c : Cursor) (hr : r = .ok (v, c))
    (hc : skipBlank c.rest c.offset = skipBlank rest o) : ReadsBack r v fits rest o :=
  ⟨fun _ => ⟨c, hr, hc⟩, fun hn => absurd hfits hn⟩

/-- A read that stops right before `rest`. -/
theorem ReadsBack.of_stop {r : Except Failure (Value × Cursor)} {v : Value} {fits : Prop}
    {rest : List UInt8} {o o' : Nat} (hfits : fits) (hr : r = .ok (v, ⟨rest, o'⟩)) (ho : o' = o) :
    ReadsBack r v fits rest o :=
  ReadsBack.of_ok hfits _ hr (by rw [ho])

theorem ReadsBack.of_limit {r : Except Failure (Value × Cursor)} {v : Value} {fits : Prop}
    {rest : List UInt8} {o : Nat} (hfits : ¬fits) (e : Failure) (hr : r = .error e)
    (he : e.kind = .recursionLimit) : ReadsBack r v fits rest o :=
  ⟨fun h => absurd h hfits, fun _ => ⟨e, hr, he⟩⟩

theorem ReadsBack.congr {r : Except Failure (Value × Cursor)} {v : Value} {fits fits' : Prop}
    {rest : List UInt8} {o : Nat} (h : ReadsBack r v fits rest o) (hiff : fits ↔ fits') :
    ReadsBack r v fits' rest o :=
  ⟨fun hf => h.1 (hiff.2 hf), fun hn => h.2 (fun hf => hn (hiff.1 hf))⟩

/-- Reading one value and then going on from where it stopped: the whole fits when both
parts do. -/
theorem ReadsBack.bind {r : Except Failure (Value × Cursor)}
    {k : Value × Cursor → Except Failure (Value × Cursor)} {v v' : Value} {p q : Prop}
    {rest rest' : List UInt8} {o o' : Nat} (h : ReadsBack r v p rest o)
    (hk : ∀ c, skipBlank c.rest c.offset = skipBlank rest o → ReadsBack (k (v, c)) v' q rest' o') :
    ReadsBack (r >>= k) v' (p ∧ q) rest' o' := by
  by_cases hp : p
  · obtain ⟨c, hr, hc⟩ := h.1 hp
    rw [hr]
    exact (hk c hc).congr (and_iff_right hp).symm
  · obtain ⟨e, hr, he⟩ := h.2 hp
    rw [hr]
    exact ReadsBack.of_limit (fun hpq => hp hpq.1) e rfl he

/-! ### Reading a whole text -/

theorem parseBytes_eq_ok {bytes : List UInt8} {v : Value} (h : parseBytes bytes = .ok v) :
    ∃ c, readValue (2 * bytes.length + 8) 0 ⟨bytes, 0⟩ = .ok (v, c) ∧
      (skipBlank c.rest c.offset).rest = [] := by
  unfold parseBytes at h
  split at h
  · cases h
  · rename_i v' c hread
    simp only at h
    split at h
    · rename_i hempty
      cases h
      exact ⟨c, hread, List.isEmpty_iff.1 hempty⟩
    · cases h

theorem parseBytes_of_ok {bytes : List UInt8} {v : Value} {c : Cursor}
    (h : readValue (2 * bytes.length + 8) 0 ⟨bytes, 0⟩ = .ok (v, c))
    (hc : (skipBlank c.rest c.offset).rest = []) : parseBytes bytes = .ok v := by
  simp [parseBytes, h, hc]

theorem parseBytes_of_error {bytes : List UInt8} {f : Failure}
    (h : readValue (2 * bytes.length + 8) 0 ⟨bytes, 0⟩ = .error f) :
    ∃ e, parseBytes bytes = .error e ∧ e.kind = f.kind := by
  simp [parseBytes, h]

/-! ### The text of a number -/

theorem Stops.of_blank {b : UInt8} (hb : isBlank b = true) (t : List UInt8) : Stops (b :: t) := by
  have hd : isDigit b = false := by
    cases hd : isDigit b
    · rfl
    · rw [(isDigit_facts hd).1] at hb
      cases hb
  refine ⟨hd, ?_, ?_, ?_⟩ <;> rintro rfl <;> cases hb

/-- The text of a number that reads back: blanks, the bytes the reader takes to the number,
starting with a minus or a digit, and blanks again. -/
theorem number_text_split {n : Number} (h : parse n.render = .ok (.number n)) :
    ∃ B T L, textBytes n.render = B ++ (T ++ L) ∧ (∀ b ∈ B, isBlank b = true) ∧
      (∀ b ∈ L, isBlank b = true) ∧ (∃ b t, T ++ L = b :: t ∧ (b = 45 ∨ isDigit b = true)) ∧
      ∀ fuel d, Takes (readValue (fuel + 1) d) T L (.number n) := by
  rw [parse_eq_parseBytes] at h
  obtain ⟨c, hread, hend⟩ := parseBytes_eq_ok h
  obtain ⟨B, T, L, hBTL, hB, rfl, hhead, htakes⟩ := readValue_number_split hread
  -- only blanks may follow a whole text
  have hL : ∀ b ∈ L, isBlank b = true := by
    rw [skipBlank_eq] at hend
    exact List.dropWhile_eq_nil_iff.1 hend
  exact ⟨B, T, L, hBTL, hB, hL, hhead, htakes⟩

/-! ### The first byte of a value's text -/

/-- The bytes of a string's literal between its quotes. -/
def quotedBytes (k : String) : List UInt8 := (k.toList.flatMap escapeChar).flatMap String.utf8EncodeChar

theorem textBytes_quote (s : String) : textBytes (quote s) = 34 :: (quotedBytes s ++ [34]) :=
  quote_bytes s

/-- After blanks, the text of a value starts with a byte that no blank, closing bracket or
closing brace is. -/
theorem renderPretty_head (v : Value) (hn : v.Every Value.NumberReadsBack) (l : Nat) :
    ∃ B b t, textBytes (v.renderPretty l) = B ++ b :: t ∧ (∀ x ∈ B, isBlank x = true) ∧
      isBlank b = false ∧ b ≠ 93 ∧ b ≠ 125 := by
  -- every text but a number's starts with its own mark
  have mark : ∀ b t, textBytes (v.renderPretty l) = b :: t → isBlank b = false → b ≠ 93 →
      b ≠ 125 → ∃ B b t, textBytes (v.renderPretty l) = B ++ b :: t ∧
        (∀ x ∈ B, isBlank x = true) ∧ isBlank b = false ∧ b ≠ 93 ∧ b ≠ 125 :=
    fun b t ht hb h93 h125 => ⟨[], b, t, ht, by simp, hb, h93, h125⟩
  cases v with
  | null =>
    exact mark 110 [117, 108, 108] (by simp [Value.renderPretty, Value.render]; decide)
      (by decide) (by decide) (by decide)
  | bool b =>
    cases b with
    | false =>
      exact mark 102 [97, 108, 115, 101] (by simp [Value.renderPretty, Value.render]; decide)
        (by decide) (by decide) (by decide)
    | true =>
      exact mark 116 [114, 117, 101] (by simp [Value.renderPretty, Value.render]; decide)
        (by decide) (by decide) (by decide)
  | string s =>
    exact mark 34 _ (by simp only [Value.renderPretty, Value.render, textBytes_quote]; rfl)
      (by decide) (by decide) (by decide)
  | array items =>
    cases items with
    | nil =>
      exact mark 91 [93] (by simp [Value.renderPretty]; decide) (by decide) (by decide)
        (by decide)
    | cons w ws =>
      exact mark 91 _ (by simp [Value.renderPretty]; rfl) (by decide) (by decide) (by decide)
  | object fields =>
    cases fields with
    | nil =>
      exact mark 123 [125] (by simp [Value.renderPretty]; decide) (by decide) (by decide)
        (by decide)
    | cons kw fs =>
      exact mark 123 _ (by simp [Value.renderPretty]; rfl) (by decide) (by decide) (by decide)
  | number n =>
    -- a number's text starts, after blanks, with a minus or a digit
    obtain ⟨B, T, L, htext, hB, -, ⟨b, t, hbt, hb⟩, -⟩ := number_text_split hn
    refine ⟨B, b, t, by simp [Value.renderPretty, Value.render, htext, hbt], hB, ?_⟩
    rcases hb with rfl | hd
    · exact ⟨by decide, by decide, by decide⟩
    · refine ⟨(isDigit_facts hd).1, ?_, ?_⟩ <;> rintro rfl <;> cases hd

/-! ### What the reader does at each mark -/

/-- At an item of an array, after a comma unless it is the first item and after blanks, the
reader reads a value and goes on with the items after it. -/
theorem readItems_item (first : Bool) (fuel d : Nat) (acc : List Value) {N Y : List UInt8}
    (hN : ∀ b ∈ N, isBlank b = true) {b : UInt8} {t : List UInt8}
    (hY : Y.dropWhile isBlank = b :: t) (hb : b ≠ 93) (o : Nat) :
    readItems (fuel + 1) d first acc ⟨(if first then [] else [44]) ++ (N ++ Y), o⟩ =
      (readValue fuel d (skipBlank Y (o + (if first then 0 else 1) + N.length)) >>= fun p =>
        readItems fuel d false (p.1 :: acc) p.2) := by
  have hY' : ∀ o', (skipBlank Y o').rest = b :: t := fun o' => by rw [skipBlank_eq, hY]
  have hNY : ∀ o', (skipBlank (N ++ Y) o').rest = b :: t := fun o' => by
    rw [skipBlank_append hN, hY']
  cases first
  · -- a comma, then the item
    simp only [readItems, Bool.false_eq_true, if_false, List.singleton_append,
      skipBlank_stop (by decide : isBlank 44 = false), hNY, hb]
    simp [skipBlank_append hN]
  · -- the first item
    simp only [readItems, if_true, List.nil_append, hNY, hb, if_false]
    simp [skipBlank_append hN]

/-- At the closing bracket of an array, after blanks, the reader gives the items read. -/
theorem readItems_close (fuel d : Nat) (first : Bool) (acc : List Value) {N : List UInt8}
    (hN : ∀ b ∈ N, isBlank b = true) (rest : List UInt8) (o : Nat) :
    readItems (fuel + 1) d first acc ⟨N ++ 93 :: rest, o⟩ =
      .ok (.array acc.reverse, ⟨rest, o + N.length + 1⟩) := by
  simp [readItems, skipBlank_append hN, skipBlank_stop (by decide : isBlank 93 = false)]

/-- At the closing brace of an object, after blanks, the reader gives the fields read. -/
theorem readFields_close (fuel d : Nat) (first : Bool) (acc : List (String × Value))
    {N : List UInt8} (hN : ∀ b ∈ N, isBlank b = true) (rest : List UInt8) (o : Nat) :
    readFields (fuel + 1) d first acc ⟨N ++ 125 :: rest, o⟩ =
      .ok (.object acc, ⟨rest, o + N.length + 1⟩) := by
  simp [readFields, skipBlank_append hN, skipBlank_stop (by decide : isBlank 125 = false)]

/-- At a field of an object, after a comma unless it is the first field and after blanks, the
reader reads the key, the colon and a value, and goes on with the fields after it. -/
theorem readFields_field (first : Bool) (fuel d : Nat) (acc : List (String × Value))
    {N : List UInt8} (hN : ∀ b ∈ N, isBlank b = true) (k : String)
    (hfuel : (quotedBytes k).length < fuel) (Y : List UInt8) (o : Nat) :
    readFields (fuel + 1) d first acc
        ⟨(if first then [] else [44]) ++ (N ++ 34 :: (quotedBytes k ++ 34 :: 58 :: Y)), o⟩ =
      (readValue fuel d ⟨Y, o + (if first then 0 else 1) + N.length + (quotedBytes k).length + 3⟩
        >>= fun p => readFields fuel d false (insertField k p.1 acc) p.2) := by
  have hkey : ∀ o', readString fuel ⟨quotedBytes k ++ 34 :: 58 :: Y, o'⟩ =
      .ok (k, ⟨58 :: Y, o' + (quotedBytes k).length + 1⟩) :=
    readString_quote k fuel hfuel _
  have hq : ∀ o', skipBlank (N ++ 34 :: (quotedBytes k ++ 34 :: 58 :: Y)) o' =
      ⟨34 :: (quotedBytes k ++ 34 :: 58 :: Y), o' + N.length⟩ := fun o' => by
    rw [skipBlank_append hN, skipBlank_stop (by decide : isBlank 34 = false)]
  have hcolon : ∀ o', skipBlank (58 :: Y) o' = ⟨58 :: Y, o'⟩ :=
    skipBlank_stop (by decide : isBlank 58 = false) _
  cases first
  · -- a comma, then the field
    simp only [readFields, Bool.false_eq_true, if_false, List.singleton_append,
      skipBlank_stop (by decide : isBlank 44 = false), hq]
    simp [bind, Except.bind, hkey, hcolon]
    rw [show o + 1 + N.length + 1 + (quotedBytes k).length + 1 + 1 =
      o + 1 + N.length + (quotedBytes k).length + 3 by omega]
  · -- the first field
    simp only [readFields, if_true, List.nil_append, hq]
    simp [bind, Except.bind, hkey, hcolon]
    rw [show o + N.length + 1 + (quotedBytes k).length + 1 + 1 =
      o + N.length + (quotedBytes k).length + 3 by omega]

/-! ### The bytes of each part of the text -/

theorem textBytes_newline (l : Nat) : textBytes (newline l) = 10 :: List.replicate (2 * l) 32 :=
  newline_bytes l

theorem newline_blanks (l : Nat) : ∀ b ∈ textBytes (newline l), isBlank b = true :=
  newline_blank l

theorem textBytes_renderPretty_array {items : List Value} (h : items ≠ []) (l : Nat) :
    textBytes ((Value.array items).renderPretty l) =
      91 :: textBytes (itemsText (l + 1) true items ++ newline l ++ "]") := by
  obtain ⟨w, ws, rfl⟩ := List.exists_cons_of_ne_nil h
  simp only [Value.renderPretty, prettyItems_eq_itemsText, textBytes_append]
  have h91 : textBytes "[" = [91] := by decide
  simp [h91]

theorem textBytes_renderPretty_object {fields : List (String × Value)} (h : fields ≠ [])
    (l : Nat) :
    textBytes ((Value.object fields).renderPretty l) =
      123 :: textBytes (fieldsText (l + 1) true fields ++ newline l ++ "\x7d") := by
  obtain ⟨kw, fs, rfl⟩ := List.exists_cons_of_ne_nil h
  simp only [Value.renderPretty, prettyFields_eq_fieldsText, textBytes_append]
  have h123 : textBytes "\x7b" = [123] := by decide
  simp [h123]

theorem textBytes_itemsText_nil (L : Nat) (first : Bool) (l : Nat) :
    textBytes (itemsText L first [] ++ newline l ++ "]") = textBytes (newline l) ++ [93] := by
  have h93 : textBytes "]" = [93] := by decide
  simp [itemsText, h93]

theorem textBytes_itemsText_cons (L : Nat) (first : Bool) (w : Value) (ws : List Value) (l : Nat) :
    textBytes (itemsText L first (w :: ws) ++ newline l ++ "]") =
      (if first then [] else [44]) ++ (textBytes (newline L) ++
        (textBytes (w.renderPretty L) ++ textBytes (itemsText L false ws ++ newline l ++ "]"))) := by
  have h44 : textBytes "," = [44] := by decide
  cases first <;> simp [itemsText, h44]

theorem textBytes_fieldsText_nil (L : Nat) (first : Bool) (l : Nat) :
    textBytes (fieldsText L first [] ++ newline l ++ "\x7d") = textBytes (newline l) ++ [125] := by
  have h125 : textBytes "\x7d" = [125] := by decide
  simp [fieldsText, h125]

theorem textBytes_fieldsText_cons (L : Nat) (first : Bool) (k : String) (w : Value)
    (fs : List (String × Value)) (l : Nat) :
    textBytes (fieldsText L first ((k, w) :: fs) ++ newline l ++ "\x7d") =
      (if first then [] else [44]) ++ (textBytes (newline L) ++ 34 :: (quotedBytes k ++
        34 :: 58 :: 32 :: (textBytes (w.renderPretty L) ++
          textBytes (fieldsText L false fs ++ newline l ++ "\x7d")))) := by
  have h44 : textBytes "," = [44] := by decide
  have hcolon : textBytes ": " = [58, 32] := by decide
  cases first <;> simp [fieldsText, h44, hcolon, textBytes_quote, String.append_assoc]

/-- A key greater than every key of the fields goes last. -/
theorem insertField_of_lt {k : String} (v : Value) {acc : List (String × Value)}
    (h : ∀ p ∈ acc, p.1 < k) : insertField k v acc = acc ++ [(k, v)] := by
  induction acc with
  | nil => rfl
  | cons p rest ih =>
    obtain ⟨k', w⟩ := p
    have hlt : k' < k := h (k', w) (List.mem_cons_self ..)
    have hnlt : ¬k < k' := String.lt_asymm hlt
    have hne : k ≠ k' := fun he => String.lt_irrefl k (he ▸ hlt)
    rw [insertField, if_neg hnlt, if_neg hne, ih fun p hp => h p (List.mem_cons_of_mem _ hp)]
    rfl

/-! ### What the reader does at the first byte of a value -/

theorem readValue_open (fuel d : Nat) (R : List UInt8) (o : Nat) :
    readValue (fuel + 1) d ⟨91 :: R, o⟩ =
      if d ≥ maxOpen then .error ⟨.recursionLimit, o + 1⟩
      else readItems fuel (d + 1) true [] ⟨R, o + 1⟩ := by
  simp [readValue, skipBlank_stop (by decide : isBlank 91 = false),
    (by decide : isDigit 91 = false)]

theorem readValue_brace (fuel d : Nat) (R : List UInt8) (o : Nat) :
    readValue (fuel + 1) d ⟨123 :: R, o⟩ =
      if d ≥ maxOpen then .error ⟨.recursionLimit, o + 1⟩
      else readFields fuel (d + 1) true [] ⟨R, o + 1⟩ := by
  simp [readValue, skipBlank_stop (by decide : isBlank 123 = false),
    (by decide : isDigit 123 = false)]

theorem readValue_quote (fuel d : Nat) (s : String) (hfuel : (quotedBytes s).length < fuel)
    (rest : List UInt8) (o : Nat) :
    readValue (fuel + 1) d ⟨34 :: (quotedBytes s ++ 34 :: rest), o⟩ =
      .ok (.string s, ⟨rest, o + 1 + (quotedBytes s).length + 1⟩) := by
  have hs : readString fuel ⟨quotedBytes s ++ 34 :: rest, o + 1⟩ =
      .ok (s, ⟨rest, o + 1 + (quotedBytes s).length + 1⟩) := readString_quote s fuel hfuel rest _
  simp [readValue, skipBlank_stop (by decide : isBlank 34 = false),
    (by decide : isDigit 34 = false), hs]

theorem readValue_null (fuel d : Nat) (rest : List UInt8) (o : Nat) :
    readValue (fuel + 1) d ⟨textBytes "null" ++ rest, o⟩ =
      .ok (.null, ⟨rest, o + (textBytes "null").length⟩) := by
  have h : textBytes "null" = [110, 117, 108, 108] := by decide
  simp [h, readValue, readWord, skipBlank_stop (by decide : isBlank 110 = false)]

theorem readValue_true (fuel d : Nat) (rest : List UInt8) (o : Nat) :
    readValue (fuel + 1) d ⟨textBytes "true" ++ rest, o⟩ =
      .ok (.bool true, ⟨rest, o + (textBytes "true").length⟩) := by
  have h : textBytes "true" = [116, 114, 117, 101] := by decide
  simp [h, readValue, readWord, skipBlank_stop (by decide : isBlank 116 = false)]

theorem readValue_false (fuel d : Nat) (rest : List UInt8) (o : Nat) :
    readValue (fuel + 1) d ⟨textBytes "false" ++ rest, o⟩ =
      .ok (.bool false, ⟨rest, o + (textBytes "false").length⟩) := by
  have h : textBytes "false" = [102, 97, 108, 115, 101] := by decide
  simp [h, readValue, readWord, skipBlank_stop (by decide : isBlank 102 = false)]

/-! ### What may follow a value inside the text -/

theorem dropWhile_isBlank_of_head {B : List UInt8} (hB : ∀ x ∈ B, isBlank x = true) {b : UInt8}
    (hb : isBlank b = false) (t : List UInt8) : (B ++ b :: t).dropWhile isBlank = b :: t := by
  induction B with
  | nil => simp [hb]
  | cons x B ih =>
    have hx := hB x (List.mem_cons_self ..)
    rw [List.cons_append, List.dropWhile_cons, if_pos hx, ih fun y hy => hB y (List.mem_cons_of_mem _ hy)]

theorem stops_itemsText (L : Nat) (ws : List Value) (l : Nat) (rest : List UInt8) :
    Stops (textBytes (itemsText L false ws ++ newline l ++ "]") ++ rest) := by
  cases ws with
  | nil =>
    rw [textBytes_itemsText_nil, textBytes_newline]
    exact ⟨by decide, by decide, by decide, by decide⟩
  | cons w ws =>
    rw [textBytes_itemsText_cons]
    exact ⟨by decide, by decide, by decide, by decide⟩

theorem stops_fieldsText (L : Nat) (fs : List (String × Value)) (l : Nat) (rest : List UInt8) :
    Stops (textBytes (fieldsText L false fs ++ newline l ++ "\x7d") ++ rest) := by
  cases fs with
  | nil =>
    rw [textBytes_fieldsText_nil, textBytes_newline]
    exact ⟨by decide, by decide, by decide, by decide⟩
  | cons kw fs =>
    -- splitting the pair would make Lean unfold the whole text
    have hkw : kw = (kw.1, kw.2) := rfl
    rw [hkw, textBytes_fieldsText_cons]
    exact ⟨by decide, by decide, by decide, by decide⟩

theorem length_textBytes_newline (l : Nat) : (textBytes (newline l)).length = 2 * l + 1 := by
  simp [textBytes_newline]

/-! ### Reading back the text of a value -/

/-- The indented text of `v` at any level, followed by anything that may follow a value,
reads back as `v` when `v` nests within the limit, and is refused with the recursion limit
otherwise; for a value whose keys are in order and whose numbers read back. -/
def Value.TextReadsBack (v : Value) : Prop :=
  v.Every Value.KeysSorted → v.Every Value.NumberReadsBack → ∀ (l d fuel : Nat), d ≤ maxOpen →
    ∀ (rest : List UInt8) (o : Nat), Stops rest → (textBytes (v.renderPretty l)).length < fuel →
    ReadsBack (readValue fuel d ⟨textBytes (v.renderPretty l) ++ rest, o⟩) v
      (d + v.depth ≤ maxOpen) rest (o + (textBytes (v.renderPretty l)).length)

/-- The items of an array from a given one on, then its closing bracket, read back as the
items when they nest within the limit. -/
def ItemsTextReadsBack (vs : List Value) : Prop :=
  Value.EveryItem Value.KeysSorted vs → Value.EveryItem Value.NumberReadsBack vs →
    ∀ (l d fuel : Nat), d ≤ maxOpen → ∀ (first : Bool) (acc : List Value) (rest : List UInt8)
    (o : Nat), (textBytes (itemsText (l + 1) first vs ++ newline l ++ "]")).length < fuel →
    ReadsBack (readItems fuel d first acc
        ⟨textBytes (itemsText (l + 1) first vs ++ newline l ++ "]") ++ rest, o⟩)
      (.array (acc.reverse ++ vs)) (d + itemsDepth vs ≤ maxOpen) rest
      (o + (textBytes (itemsText (l + 1) first vs ++ newline l ++ "]")).length)

/-- The fields of an object from a given one on, then its closing brace, read back as the
fields when their keys follow those read before in increasing order and they nest within
the limit. -/
def FieldsTextReadsBack (fs : List (String × Value)) : Prop :=
  Value.EveryField Value.KeysSorted fs → Value.EveryField Value.NumberReadsBack fs →
    ∀ (l d fuel : Nat), d ≤ maxOpen → ∀ (first : Bool) (acc : List (String × Value)),
    (acc ++ fs).Pairwise (fun a b => a.1 < b.1) → ∀ (rest : List UInt8) (o : Nat),
    (textBytes (fieldsText (l + 1) first fs ++ newline l ++ "\x7d")).length < fuel →
    ReadsBack (readFields fuel d first acc
        ⟨textBytes (fieldsText (l + 1) first fs ++ newline l ++ "\x7d") ++ rest, o⟩)
      (.object (acc ++ fs)) (d + fieldsDepth fs ≤ maxOpen) rest
      (o + (textBytes (fieldsText (l + 1) first fs ++ newline l ++ "\x7d")).length)

/-! ### The text of each kind of value -/

/-- A value whose text is one fixed word at every level reads back when the reader takes the
word whatever follows it. -/
theorem Value.textReadsBack_of_word {v : Value} {word : String}
    (htext : ∀ l, v.renderPretty l = word) (hdepth : v.depth = 0)
    (hread : ∀ fuel d rest o, readValue (fuel + 1) d ⟨textBytes word ++ rest, o⟩ =
      .ok (v, ⟨rest, o + (textBytes word).length⟩)) :
    v.TextReadsBack := by
  intro _ _ l d fuel hd rest o _ hfuel
  rw [htext] at hfuel ⊢
  obtain ⟨f, rfl⟩ : ∃ f, fuel = f + 1 := ⟨fuel - 1, by omega⟩
  exact ReadsBack.of_stop (by omega) (hread f d rest o) rfl

theorem Value.textReadsBack_null : Value.null.TextReadsBack :=
  Value.textReadsBack_of_word (fun _ => by simp [Value.renderPretty, Value.render]) rfl
    readValue_null

theorem Value.textReadsBack_bool (b : Bool) : (Value.bool b).TextReadsBack := by
  cases b with
  | false =>
    exact Value.textReadsBack_of_word (fun _ => by simp [Value.renderPretty, Value.render]) rfl
      readValue_false
  | true =>
    exact Value.textReadsBack_of_word (fun _ => by simp [Value.renderPretty, Value.render]) rfl
      readValue_true

theorem Value.textReadsBack_string (s : String) : (Value.string s).TextReadsBack := by
  intro _ _ l d fuel hd rest o _ hfuel
  have htext : textBytes ((Value.string s).renderPretty l) = 34 :: (quotedBytes s ++ [34]) := by
    simp [Value.renderPretty, Value.render, textBytes_quote]
  rw [htext] at hfuel ⊢
  simp only [List.length_cons, List.length_append, List.length_nil] at hfuel ⊢
  obtain ⟨f, rfl⟩ : ∃ f, fuel = f + 1 := ⟨fuel - 1, by omega⟩
  rw [List.cons_append, List.append_assoc, List.singleton_append,
    readValue_quote f d s (by omega) rest o]
  exact ReadsBack.of_stop (by simp [Value.depth]; omega) rfl (by omega)

/-- A number whose own text reads back reads back inside the text around it: the reader takes
the same bytes and leaves only blanks before what follows. -/
theorem Value.textReadsBack_number (n : Number) : (Value.number n).TextReadsBack := by
  intro _ hn l d fuel hd rest o hrest hfuel
  obtain ⟨B, T, L, htext, hB, hL, -, htakes⟩ := number_text_split hn
  have hr : (Value.number n).renderPretty l = n.render := by
    simp [Value.renderPretty, Value.render]
  rw [hr, htext] at hfuel ⊢
  obtain ⟨f, rfl⟩ : ∃ f, fuel = f + 1 := ⟨fuel - 1, by omega⟩
  -- the blanks before the number are skipped, and those after it stop it
  have hskip : skipBlank (B ++ (T ++ L) ++ rest) o =
      skipBlank (T ++ (L ++ rest)) (o + B.length) := by
    rw [List.append_assoc, skipBlank_append hB, List.append_assoc]
  have hstop : Stops (L ++ rest) := by
    cases L with
    | nil => exact hrest
    | cons x t => exact Stops.of_blank (hL x (List.mem_cons_self ..)) _
  rw [readValue_congr hskip, htakes f d rest (o + B.length) hstop]
  refine ReadsBack.of_ok (by simp [Value.depth]; omega) _ rfl ?_
  rw [skipBlank_append hL]
  exact congrArg (skipBlank rest) (by simp only [List.length_append]; omega)

theorem Value.textReadsBack_emptyArray : (Value.array []).TextReadsBack := by
  intro _ _ l d fuel hd rest o _ hfuel
  have htext : textBytes ((Value.array []).renderPretty l) = [91, 93] := by
    simp [Value.renderPretty]
    decide
  rw [htext] at hfuel ⊢
  obtain ⟨f, rfl⟩ : ∃ f, fuel = f + 2 := ⟨fuel - 2, by simp at hfuel; omega⟩
  rw [List.cons_append, readValue_open]
  split_ifs with hlim
  · exact ReadsBack.of_limit (by simp [Value.depth, itemsDepth]; omega) _ rfl rfl
  · have hclose := @readItems_close f (d + 1) true [] [] (by simp) rest (o + 1)
    rw [List.nil_append] at hclose
    exact ReadsBack.of_stop (by simp [Value.depth, itemsDepth]; omega) hclose (by simp)

theorem Value.textReadsBack_emptyObject : (Value.object []).TextReadsBack := by
  intro _ _ l d fuel hd rest o _ hfuel
  have htext : textBytes ((Value.object []).renderPretty l) = [123, 125] := by
    simp [Value.renderPretty]
    decide
  rw [htext] at hfuel ⊢
  obtain ⟨f, rfl⟩ : ∃ f, fuel = f + 2 := ⟨fuel - 2, by simp at hfuel; omega⟩
  rw [List.cons_append, readValue_brace]
  split_ifs with hlim
  · exact ReadsBack.of_limit (by simp [Value.depth, fieldsDepth]; omega) _ rfl rfl
  · have hclose := @readFields_close f (d + 1) true [] [] (by simp) rest (o + 1)
    rw [List.nil_append] at hclose
    exact ReadsBack.of_stop (by simp [Value.depth, fieldsDepth]; omega) hclose (by simp)

theorem ReadsBack.congr_offset {r : Except Failure (Value × Cursor)} {v : Value} {fits : Prop}
    {rest : List UInt8} {o o' : Nat} (h : ReadsBack r v fits rest o) (ho : o = o') :
    ReadsBack r v fits rest o' :=
  ho ▸ h

theorem Value.textReadsBack_array (items : List Value) (ih : ItemsTextReadsBack items) :
    (Value.array items).TextReadsBack := by
  intro hs hn l d fuel hd rest o hrest hfuel
  cases items with
  | nil => exact Value.textReadsBack_emptyArray hs hn l d fuel hd rest o hrest hfuel
  | cons w ws =>
    rw [textBytes_renderPretty_array (List.cons_ne_nil w ws)] at hfuel ⊢
    simp only [List.length_cons] at hfuel ⊢
    obtain ⟨f, rfl⟩ : ∃ f, fuel = f + 1 := ⟨fuel - 1, by omega⟩
    rw [List.cons_append, readValue_open]
    split_ifs with hlim
    · exact ReadsBack.of_limit (by simp only [Value.depth]; omega) _ rfl rfl
    · -- the items, one level deeper
      have hitems := ih hs.2 hn.2 l (d + 1) f (by omega) true [] rest (o + 1) (by omega)
      exact (hitems.congr (by simp only [Value.depth]; omega)).congr_offset (by omega)

theorem Value.textReadsBack_object (fields : List (String × Value))
    (ih : FieldsTextReadsBack fields) : (Value.object fields).TextReadsBack := by
  intro hs hn l d fuel hd rest o hrest hfuel
  cases fields with
  | nil => exact Value.textReadsBack_emptyObject hs hn l d fuel hd rest o hrest hfuel
  | cons kw fs =>
    rw [textBytes_renderPretty_object (List.cons_ne_nil kw fs)] at hfuel ⊢
    simp only [List.length_cons] at hfuel ⊢
    obtain ⟨f, rfl⟩ : ∃ f, fuel = f + 1 := ⟨fuel - 1, by omega⟩
    rw [List.cons_append, readValue_brace]
    split_ifs with hlim
    · exact ReadsBack.of_limit (by simp only [Value.depth]; omega) _ rfl rfl
    · -- the fields, one level deeper, with their keys in order
      have hfields := ih hs.2 hn.2 l (d + 1) f (by omega) true [] hs.1 rest (o + 1) (by omega)
      exact (hfields.congr (by simp only [Value.depth]; omega)).congr_offset (by omega)

theorem itemsTextReadsBack_nil : ItemsTextReadsBack [] := by
  intro _ _ l d fuel hd first acc rest o hfuel
  rw [textBytes_itemsText_nil] at hfuel ⊢
  obtain ⟨f, rfl⟩ : ∃ f, fuel = f + 1 := ⟨fuel - 1, by omega⟩
  rw [List.append_assoc, List.singleton_append,
    readItems_close f d first acc (newline_blanks l) rest o, List.append_nil]
  exact ReadsBack.of_stop (by simp only [itemsDepth]; omega) rfl
    (by simp only [List.length_append, List.length_cons, List.length_nil]; omega)

theorem fieldsTextReadsBack_nil : FieldsTextReadsBack [] := by
  intro _ _ l d fuel hd first acc _ rest o hfuel
  rw [textBytes_fieldsText_nil] at hfuel ⊢
  obtain ⟨f, rfl⟩ : ∃ f, fuel = f + 1 := ⟨fuel - 1, by omega⟩
  rw [List.append_assoc, List.singleton_append,
    readFields_close f d first acc (newline_blanks l) rest o, List.append_nil]
  exact ReadsBack.of_stop (by simp only [fieldsDepth]; omega) rfl
    (by simp only [List.length_append, List.length_cons, List.length_nil]; omega)

theorem itemsTextReadsBack_cons {w : Value} {ws : List Value} (ihw : w.TextReadsBack)
    (ihws : ItemsTextReadsBack ws) : ItemsTextReadsBack (w :: ws) := by
  intro hs hn l d fuel hd first acc rest o hfuel
  have hstop := stops_itemsText (l + 1) ws l rest
  obtain ⟨B, b, t, htw, hB, hb, h93, -⟩ := renderPretty_head w hn.1 (l + 1)
  rw [textBytes_itemsText_cons] at hfuel ⊢
  generalize hX : textBytes (itemsText (l + 1) false ws ++ newline l ++ "]") = X at hfuel hstop ⊢
  generalize hW : textBytes (w.renderPretty (l + 1)) = W at hfuel htw ⊢
  have hsep : (if first then ([] : List UInt8) else [44]).length = if first then 0 else 1 := by
    cases first <;> rfl
  simp only [List.length_append, length_textBytes_newline, hsep] at hfuel
  obtain ⟨g, rfl⟩ : ∃ g, fuel = g + 2 := ⟨fuel - 2, by omega⟩
  -- the item, after its separator and the blanks of its line
  have hY : (W ++ (X ++ rest)).dropWhile isBlank = b :: (t ++ (X ++ rest)) := by
    rw [htw, List.append_assoc, List.cons_append, dropWhile_isBlank_of_head hB hb]
  simp only [List.append_assoc]
  rw [readItems_item first (g + 1) d acc (newline_blanks (l + 1)) hY h93 o, readValue_skipBlank]
  have hval := ihw hs.1 hn.1 (l + 1) d (g + 1) hd (X ++ rest)
    (o + (if first then 0 else 1) + (textBytes (newline (l + 1))).length) hstop
    (by rw [hW]; omega)
  rw [hW] at hval
  have hfits : (d + w.depth ≤ maxOpen ∧ d + itemsDepth ws ≤ maxOpen) ↔
      d + itemsDepth (w :: ws) ≤ maxOpen := by
    simp only [itemsDepth]
    omega
  refine (ReadsBack.bind hval fun c hc => ?_).congr hfits
  -- the items after it
  obtain ⟨R, oc⟩ := c
  rw [readItems_congr hc]
  have hitems := ihws hs.2 hn.2 l d (g + 1) hd false (w :: acc) rest
    (o + (if first then 0 else 1) + (textBytes (newline (l + 1))).length + W.length)
    (by rw [hX]; omega)
  rw [hX] at hitems
  have hv : (w :: acc).reverse ++ ws = acc.reverse ++ w :: ws := by simp
  rw [hv] at hitems
  simp only [List.length_append, hsep]
  exact hitems.congr_offset (by omega)

theorem fieldsTextReadsBack_cons {k : String} {w : Value} {fs : List (String × Value)}
    (ihw : w.TextReadsBack) (ihfs : FieldsTextReadsBack fs) :
    FieldsTextReadsBack ((k, w) :: fs) := by
  intro hs hn l d fuel hd first acc hsorted rest o hfuel
  have hstop := stops_fieldsText (l + 1) fs l rest
  rw [textBytes_fieldsText_cons] at hfuel ⊢
  generalize hX : textBytes (fieldsText (l + 1) false fs ++ newline l ++ "\x7d") = X at hfuel hstop ⊢
  generalize hW : textBytes (w.renderPretty (l + 1)) = W at hfuel ⊢
  have hsep : (if first then ([] : List UInt8) else [44]).length = if first then 0 else 1 := by
    cases first <;> rfl
  simp only [List.length_append, List.length_cons, length_textBytes_newline, hsep] at hfuel
  obtain ⟨g, rfl⟩ : ∃ g, fuel = g + 2 := ⟨fuel - 2, by omega⟩
  -- the key, the colon and the value
  simp only [List.append_assoc, List.cons_append]
  rw [readFields_field first (g + 1) d acc (newline_blanks (l + 1)) k (by omega)
    (32 :: (W ++ (X ++ rest))) o]
  have hspace : ∀ o', skipBlank (32 :: (W ++ (X ++ rest))) o' =
      skipBlank (W ++ (X ++ rest)) (o' + 1) := fun o' => by
    rw [skipBlank, if_pos (by decide)]
  rw [readValue_congr (hspace _)]
  have hval := ihw hs.1 hn.1 (l + 1) d (g + 1) hd (X ++ rest)
    (o + (if first then 0 else 1) + (textBytes (newline (l + 1))).length +
      (quotedBytes k).length + 3 + 1) hstop (by rw [hW]; omega)
  rw [hW] at hval
  have hfits : (d + w.depth ≤ maxOpen ∧ d + fieldsDepth fs ≤ maxOpen) ↔
      d + fieldsDepth ((k, w) :: fs) ≤ maxOpen := by
    simp only [fieldsDepth]
    omega
  refine (ReadsBack.bind hval fun c hc => ?_).congr hfits
  -- the keys read before are below this one, which therefore goes last
  have hlt : ∀ p ∈ acc, p.1 < k := fun p hp =>
    (List.pairwise_append.1 hsorted).2.2 p hp (k, w) (List.mem_cons_self ..)
  obtain ⟨R, oc⟩ := c
  simp only
  rw [readFields_congr hc, insertField_of_lt w hlt]
  have hfields := ihfs hs.2 hn.2 l d (g + 1) hd false (acc ++ [(k, w)]) (by simpa using hsorted)
    rest (o + (if first then 0 else 1) + (textBytes (newline (l + 1))).length +
      (quotedBytes k).length + 3 + 1 + W.length) (by rw [hX]; omega)
  rw [hX] at hfields
  have hv : acc ++ [(k, w)] ++ fs = acc ++ (k, w) :: fs := by simp
  rw [hv] at hfields
  simp only [List.length_append, List.length_cons, hsep]
  exact hfields.congr_offset (by omega)

/-- The indented text of every value whose keys are in order and whose numbers read back
reads back, at every depth: by induction on the value, one case for each kind of value, for
the empty and the other lists of items, and for the empty and the other lists of fields. -/
theorem Value.textReadsBack (v : Value) : v.TextReadsBack :=
  @Value.rec Value.TextReadsBack ItemsTextReadsBack FieldsTextReadsBack
    (fun p => p.2.TextReadsBack) Value.textReadsBack_null Value.textReadsBack_bool
    Value.textReadsBack_number Value.textReadsBack_string Value.textReadsBack_array
    Value.textReadsBack_object itemsTextReadsBack_nil (fun _ _ => itemsTextReadsBack_cons)
    fieldsTextReadsBack_nil (fun _ _ => fieldsTextReadsBack_cons) (fun _ _ h => h) v

/-! ### Reading back the whole text -/

/-- The indented text of a value whose keys are in order and whose numbers read back reads
back as the value, when it nests no deeper than the reader allows. -/
theorem parse_pretty_of_depth_le {v : Value} (hs : v.Every Value.KeysSorted)
    (hn : v.Every Value.NumberReadsBack) (hd : v.depth ≤ maxOpen) : parse v.pretty = .ok v := by
  rw [parse_eq_parseBytes]
  have h := v.textReadsBack hs hn 0 0 (2 * (textBytes v.pretty).length + 8) (Nat.zero_le _) [] 0
    trivial (by unfold Value.pretty; omega)
  obtain ⟨c, hr, hc⟩ := h.1 (by omega)
  rw [List.append_nil] at hr
  exact parseBytes_of_ok hr (by rw [hc]; rfl)

/-- A value nested deeper than the reader allows has an indented text that is refused with
the recursion limit. -/
theorem parse_pretty_of_lt_depth {v : Value} (hs : v.Every Value.KeysSorted)
    (hn : v.Every Value.NumberReadsBack) (hd : maxOpen < v.depth) :
    ∃ e, parse v.pretty = .error e ∧ e.kind = .recursionLimit := by
  rw [parse_eq_parseBytes]
  have h := v.textReadsBack hs hn 0 0 (2 * (textBytes v.pretty).length + 8) (Nat.zero_le _) [] 0
    trivial (by unfold Value.pretty; omega)
  obtain ⟨f, hr, hf⟩ := h.2 (by omega)
  rw [List.append_nil] at hr
  obtain ⟨e, he, hk⟩ := parseBytes_of_error hr
  exact ⟨e, he, hk.trans hf⟩

end Runbook.Json
