import Mathlib
import Runbook.Workflow.StepPath
/-!
# A step path is read back from its text

The text of a step path joins its segments with dots, and a segment written for a loop
iteration holds a dot of its own, in `iter[n].steps[i]`. The text still names one path: a
segment starts with `iter[` or `steps[`, so a segment's text tells whether it carries an
iteration; its numbers are runs of digits, each closed by `]`, which is no digit, so each
number is read back whole; and after a segment's closing `]` the text either ends or goes on
with `.` and the next segment. The root reads `<root>`, which no segment starts like.

Main statement: `StepPath.render_injective`.
-/

namespace Runbook

namespace StepPath

/-! ## Numbers in a text -/

/-- A run of digits closed by a character that is no digit is read back whole, and so is what
follows the closing character. -/
theorem digits_append_inj {d d' u u' : List Char} (hd : ∀ c ∈ d, c.isDigit)
    (hd' : ∀ c ∈ d', c.isDigit) {c : Char} (hc : c.isDigit = false)
    (h : d ++ c :: u = d' ++ c :: u') : d = d' ∧ u = u' := by
  have hcut : ∀ (v : List Char) {e : List Char}, (∀ c ∈ e, c.isDigit) →
      (e ++ c :: v).takeWhile Char.isDigit = e := by
    intro v e he
    rw [List.takeWhile_append_of_pos he, List.takeWhile_cons_of_neg (by simp [hc]),
      List.append_nil]
  have hdd : d = d' := by rw [← hcut u hd, h, hcut u' hd']
  subst hdd
  exact ⟨rfl, (List.cons.inj (List.append_cancel_left h)).2⟩

/-- A number written in decimal and closed by a character that is no digit is read back, and
so is what follows. -/
theorem toDigits_append_inj {n m : Nat} {c : Char} (hc : c.isDigit = false) {u u' : List Char}
    (h : Nat.toDigits 10 n ++ c :: u = Nat.toDigits 10 m ++ c :: u') : n = m ∧ u = u' := by
  have hdigit : ∀ k, ∀ c ∈ Nat.toDigits 10 k, c.isDigit := fun _ _ =>
    Nat.isDigit_of_mem_toDigits (by decide) (by decide)
  obtain ⟨hnm, hu⟩ := digits_append_inj (hdigit n) (hdigit m) hc h
  refine ⟨?_, hu⟩
  calc n = Nat.ofDigitChars 10 (Nat.toDigits 10 n) 0 := Nat.ofDigitChars_ten_toDigits.symm
    _ = Nat.ofDigitChars 10 (Nat.toDigits 10 m) 0 := by rw [hnm]
    _ = m := Nat.ofDigitChars_ten_toDigits

/-! ## Segments -/

theorem toList_segment_render (s : Segment) :
    (Segment.render s).toList =
      (match s.iteration with
        | some n => "iter[".toList ++ Nat.toDigits 10 n ++ "].".toList
        | none => []) ++ "steps[".toList ++ Nat.toDigits 10 s.index ++ "]".toList := by
  unfold Segment.render
  cases s.iteration <;> simp [String.toList_append]

/-- A segment's text, followed by anything, gives back the segment and what follows. -/
theorem segment_render_append_inj {s s' : Segment} {u u' : List Char}
    (h : (Segment.render s).toList ++ u = (Segment.render s').toList ++ u') :
    s = s' ∧ u = u' := by
  obtain ⟨i, it⟩ := s
  obtain ⟨i', it'⟩ := s'
  rw [toList_segment_render, toList_segment_render] at h
  -- `iter[` and `steps[` differ in their first character
  cases it with
  | none =>
    cases it' with
    | none =>
      simp [List.append_assoc] at h
      obtain ⟨rfl, rfl⟩ := toDigits_append_inj (by decide) h
      exact ⟨rfl, rfl⟩
    | some n' => simp at h
  | some n =>
    cases it' with
    | none => simp at h
    | some n' =>
      simp [List.append_assoc] at h
      obtain ⟨rfl, h⟩ := toDigits_append_inj (by decide) h
      simp at h
      obtain ⟨rfl, rfl⟩ := toDigits_append_inj (by decide) h
      exact ⟨rfl, rfl⟩

/-! ## Paths -/

/-- The text of a path is its first segment's, then, unless that was the last, a dot and the
text of the rest. -/
theorem toList_render_cons (s : Segment) (rest : List Segment) :
    (render ⟨s :: rest⟩).toList =
      (Segment.render s).toList ++ if rest = [] then [] else '.' :: (render ⟨rest⟩).toList := by
  cases rest with
  | nil => simp [render]
  | cons t rest => simp [render, String.toList_intercalate]

/-- No path other than the root reads `<root>`: its text starts with `iter[` or `steps[`. -/
theorem render_cons_ne_root (s : Segment) (rest : List Segment) :
    (render ⟨s :: rest⟩).toList ≠ (render root).toList := by
  rw [toList_render_cons, toList_segment_render]
  cases s.iteration <;> simp [render, root]

/-- Paths with the same text are the same path: the same segments, with the same positions
and the same iterations. -/
theorem render_injective : Function.Injective render := by
  rintro ⟨l⟩ ⟨l'⟩ h
  replace h := congrArg String.toList h
  congr
  -- the first segments agree, and then the texts after them
  induction l generalizing l' with
  | nil =>
    cases l' with
    | nil => rfl
    | cons s' rest' => exact absurd h.symm (render_cons_ne_root s' rest')
  | cons s rest ih =>
    cases l' with
    | nil => exact absurd h (render_cons_ne_root s rest)
    | cons s' rest' =>
      rw [toList_render_cons, toList_render_cons] at h
      obtain ⟨rfl, htail⟩ := segment_render_append_inj h
      cases rest with
      | nil =>
        cases rest' with
        | nil => rfl
        | cons _ _ => simp at htail
      | cons t rest =>
        cases rest' with
        | nil => simp at htail
        | cons t' rest' =>
          simp only [reduceCtorEq, if_false, List.cons.injEq, true_and] at htail
          rw [ih (t' :: rest') htail]

end StepPath

end Runbook
