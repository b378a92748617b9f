import Runbook.Proofs.Workflow.RoundTrip
import Runbook.Proofs.Json.ReadPretty
/-!
# The text of a loaded workflow

Describing undoes loading at the level of text too, on two conditions that come from the
reader. The reader keeps an object's keys in increasing order, and a description keeps
them so whenever the value it was loaded from did. And the reader allows at most `maxOpen`
arrays and objects open at once; each loop adds three levels, so a chain of 42 loops still
reads back and a chain of 43 does not.

Main statement: `Workflow.description_loads_back`.
-/

namespace Runbook

open Json

/-! ### Fields in key order -/

section Sorted

variable {P : Value → Prop} {k : String} {v : Value}

theorem mem_insertField {fs : Params} {p : String × Value} (h : p ∈ insertField k v fs) :
    p = (k, v) ∨ p ∈ fs := by
  induction fs with
  | nil => simpa [insertField] using h
  | cons q rest ih =>
    obtain ⟨k', w⟩ := q
    unfold insertField at h
    split_ifs at h with hlt heq
    · simpa using h
    · rcases List.mem_cons.1 h with rfl | hp
      · exact .inl rfl
      · exact .inr (List.mem_cons_of_mem _ hp)
    · rcases List.mem_cons.1 h with rfl | hp
      · exact .inr (List.mem_cons_self ..)
      · rcases ih hp with rfl | hp
        · exact .inl rfl
        · exact .inr (List.mem_cons_of_mem _ hp)

/-- Putting a field into fields in key order keeps them in key order. -/
theorem insertField_sorted {fs : Params} (h : fs.Pairwise fun a b => a.1 < b.1) :
    (insertField k v fs).Pairwise fun a b => a.1 < b.1 := by
  induction fs with
  | nil => simp [insertField]
  | cons q rest ih =>
    obtain ⟨k', w⟩ := q
    rw [List.pairwise_cons] at h
    unfold insertField
    split_ifs with hlt heq
    · -- the key goes before every key
      refine List.pairwise_cons.2 ⟨?_, List.pairwise_cons.2 h⟩
      intro p hp
      rcases List.mem_cons.1 hp with rfl | hp
      · exact hlt
      · exact String.lt_trans hlt (h.1 p hp)
    · -- the key replaces the first
      subst heq
      exact List.pairwise_cons.2 h
    · -- the key goes after the first, which is below it
      have hgt : k' < k :=
        String.not_le.1 fun hle => heq (String.le_antisymm hle (String.not_lt.1 hlt))
      refine List.pairwise_cons.2 ⟨?_, ih h.2⟩
      intro p hp
      rcases mem_insertField hp with rfl | hp
      · exact hgt
      · exact h.1 p hp

theorem every_insertField {fs : Params} (hv : v.Every P) (hfs : ∀ p ∈ fs, p.2.Every P) :
    ∀ p ∈ insertField k v fs, p.2.Every P := by
  intro p hp
  rcases mem_insertField hp with rfl | hp
  · exact hv
  · exact hfs p hp

theorem every_of_lookup {fields : Params} (hf : ∀ p ∈ fields, p.2.Every P)
    (h : fields.lookup k = some v) : v.Every P := by
  obtain ⟨l₁, l₂, rfl, -⟩ := List.lookup_eq_some_iff.1 h
  exact hf (k, v) (by simp)

theorem every_of_firstPresent {fields : Params} {keys : List String}
    (hf : ∀ p ∈ fields, p.2.Every P) (h : firstPresent fields keys = some v) : v.Every P := by
  induction keys with
  | nil => simp [firstPresent] at h
  | cons key rest ih =>
    simp only [firstPresent] at h
    split at h
    · rename_i w hw
      cases h
      exact every_of_lookup hf hw
    · exact ih h

end Sorted

/-! ### Descriptions keep keys in order -/

/-- The description of a step whose parameters are in key order, and whose body's descriptions
have a property of every value in them, has it too, for a property that every object in key
order, every list and every string has. -/
theorem Step.toValue_every {P : Value → Prop}
    (hobj : ∀ fs : Params, (fs.Pairwise fun a b => a.1 < b.1) → P (.object fs))
    (harr : ∀ vs, P (.array vs)) (hstr : ∀ s, P (.string s)) {kind : StepKind}
    {params : Params} {body : List Step} (hp : params.Pairwise fun a b => a.1 < b.1)
    (hpv : ∀ p ∈ params, p.2.Every P) (hb : ∀ x ∈ Step.listToValue body, x.Every P) :
    (Step.mk kind params body).toValue.Every P := by
  have htag : (Value.string kind.tag).Every P := hstr _
  have hkeys : ("payload" : String) < "type" := by decide
  -- the description is the tag, with the payload beside it unless the step is bare
  have hdesc : ∀ (bare : Bool) (payload : Params), (payload.Pairwise fun a b => a.1 < b.1) →
      (∀ p ∈ payload, p.2.Every P) →
      (if bare then Value.object [("type", .string kind.tag)]
        else .object [("payload", .object payload), ("type", .string kind.tag)]).Every P := by
    intro bare payload hs hsv
    split
    · refine (Value.every_object_iff _ _).2 ⟨hobj _ (List.pairwise_singleton _ _), ?_⟩
      intro p hp
      rw [List.mem_singleton.1 hp]
      exact htag
    · refine (Value.every_object_iff _ _).2 ⟨hobj _ (List.pairwise_pair.2 hkeys), ?_⟩
      intro p hp
      rcases List.mem_pair.1 hp with rfl | rfl
      · exact (Value.every_object_iff _ _).2 ⟨hobj _ hs, hsv⟩
      · exact htag
  simp only [Step.toValue]
  apply hdesc
  · split
    · exact insertField_sorted hp
    · exact hp
  · split
    · exact every_insertField ((Value.every_array_iff _ _).2 ⟨harr _, hb⟩) hpv
    · exact hpv

section Loaded

/-- The parameters a descriptor gives are in key order, as are the values in them, when the
descriptor's own values are. -/
theorem Payload.keysSorted {fields params : Params} (h : Payload fields params)
    (hf : ∀ p ∈ fields, p.2.Every Value.KeysSorted) :
    (params.Pairwise fun a b => a.1 < b.1) ∧ ∀ p ∈ params, p.2.Every Value.KeysSorted := by
  cases h with
  | missing _ => simp
  | null _ => simp
  | object hp => exact (Value.every_object_iff _ _).1 (every_of_firstPresent hf hp)

/-- A descriptor whose values keep their keys in order gives its step parameters in key order
and the descriptors of a body that keep theirs in order. -/
theorem Descriptor.keysSorted {v : Value} {kind : StepKind} {params : Params}
    {items : List Value} (hd : Descriptor v kind params items) (hv : v.Every Value.KeysSorted) :
    (params.Pairwise fun a b => a.1 < b.1) ∧ (∀ p ∈ params, p.2.Every Value.KeysSorted) ∧
      ∀ x ∈ items, x.Every Value.KeysSorted := by
  cases hd with
  | leaf _ _ _ payload =>
    obtain ⟨hs, hsv⟩ := payload.keysSorted ((Value.every_object_iff _ _).1 hv).2
    exact ⟨hs, hsv, by simp⟩
  | emptyLoop _ _ payload _ =>
    obtain ⟨hs, hsv⟩ := payload.keysSorted ((Value.every_object_iff _ _).1 hv).2
    exact ⟨hs, hsv, by simp⟩
  | loop _ _ payload steps =>
    obtain ⟨hs, hsv⟩ := payload.keysSorted ((Value.every_object_iff _ _).1 hv).2
    -- the loop's parameters lose `steps`, which lists the body
    refine ⟨hs.filter _, fun p hp => hsv p (List.mem_filter.1 hp).1, ?_⟩
    exact ((Value.every_array_iff _ _).1 (every_of_lookup hsv steps)).2

/-- The description of a step loaded from a descriptor that keeps its keys in order keeps
them in order too. -/
theorem Describes.toValue_keysSorted {v : Value} {s : Step} (h : Describes v s)
    (hv : v.Every Value.KeysSorted) : s.toValue.Every Value.KeysSorted := by
  -- induction on the derivation, with the descriptions of a body item by item
  refine @Describes.rec (fun v s _ => v.Every Value.KeysSorted → s.toValue.Every Value.KeysSorted)
    (fun vs ss _ => (∀ x ∈ vs, x.Every Value.KeysSorted) →
      ∀ y ∈ Step.listToValue ss, y.Every Value.KeysSorted) ?_ ?_ ?_ _ _ h hv
  · intro v kind params items body hd _ ih hv
    obtain ⟨hs, hsv, hitems⟩ := hd.keysSorted hv
    exact Step.toValue_every (fun _ h => h) (fun _ => trivial) (fun _ => trivial) hs hsv
      (ih hitems)
  · intro _ y hy
    simp [Step.listToValue] at hy
  · intro v s vs ss _ _ ih ihs hall y hy
    simp only [Step.listToValue, List.mem_cons] at hy
    rcases hy with rfl | hy
    · exact ih (hall v (List.mem_cons_self ..))
    · exact ihs (fun x hx => hall x (List.mem_cons_of_mem _ hx)) y hy

/-- The description of a workflow loaded from a value that keeps its keys in order, as every
value the reader builds does, keeps them in order too. -/
theorem Workflow.toValue_keysSorted {v : Value} {w : Workflow} (h : Workflow.ofValue v = .ok w)
    (hv : v.Every Value.KeysSorted) : w.toValue.Every Value.KeysSorted := by
  obtain ⟨items, rfl, hd, -⟩ := (Workflow.ofValue_eq_ok_iff v w).1 h
  have hitems := ((Value.every_array_iff _ _).1 hv).2
  refine (Value.every_array_iff _ _).2 ⟨trivial, ?_⟩
  clear h hv
  generalize w.steps = ss at hd ⊢
  -- the root descriptors and the root steps, in order
  induction hd with
  | nil => simp [Step.listToValue]
  | cons hs _ ih =>
    intro y hy
    simp only [Step.listToValue, List.mem_cons] at hy
    rcases hy with rfl | hy
    · exact hs.toValue_keysSorted (hitems _ (List.mem_cons_self ..))
    · exact ih (fun x hx => hitems x (List.mem_cons_of_mem _ hx)) y hy

end Loaded

/-! ### The text of a loaded workflow -/

section Text

variable {v : Value} {w : Workflow} (h : Workflow.ofValue v = .ok w)
  (hv : v.Every Value.KeysSorted) (hn : w.toValue.Every Value.NumberReadsBack)
include h hv hn

/-- The text of a loaded workflow whose description nests within the limit loads back. -/
theorem Workflow.ofText_toText_of_depth_le (hd : w.toValue.depth ≤ maxOpen) :
    Workflow.ofText w.toText = .ok w := by
  rw [Workflow.ofText, Workflow.toText,
    parse_pretty_of_depth_le (Workflow.toValue_keysSorted h hv) hn hd]
  exact Workflow.ofValue_toValue h

/-- The text of a loaded workflow whose description nests deeper than the limit is refused. -/
theorem Workflow.ofText_toText_of_lt_depth (hd : maxOpen < w.toValue.depth) :
    ∃ e, Workflow.ofText w.toText = .error (.malformed e) ∧ e.kind = .recursionLimit := by
  obtain ⟨e, he, hk⟩ := parse_pretty_of_lt_depth (Workflow.toValue_keysSorted h hv) hn hd
  refine ⟨e, ?_, hk⟩
  rw [Workflow.ofText, Workflow.toText, he]

end Text

/-! ### Chains of loops -/

/-- A chain of `n + 1` loops, each holding the next. -/
def Step.loopChain : Nat → Step
  | 0 => .mk .loop [] []
  | n + 1 => .mk .loop [] [Step.loopChain n]

/-- The workflow of a chain of `n + 1` loops. -/
def Workflow.loopChain (n : Nat) : Workflow := ⟨[Step.loopChain n], none⟩

theorem Step.describes_loopChain (n : Nat) :
    Describes (Step.loopChain n).toValue (Step.loopChain n) := by
  induction n with
  | zero => exact .mk (Descriptor.toValue_loop rfl []) .nil
  | succ n ih => exact .mk (Descriptor.toValue_loop rfl [Step.loopChain n]) (.cons ih .nil)

theorem Workflow.ofValue_loopChain (n : Nat) :
    Workflow.ofValue (Workflow.loopChain n).toValue = .ok (Workflow.loopChain n) :=
  (Workflow.ofValue_eq_ok_iff _ _).2 ⟨_, rfl, .cons (Step.describes_loopChain n) .nil, rfl⟩

theorem Workflow.loopChain_every {P : Value → Prop}
    (hobj : ∀ fs : Params, (fs.Pairwise fun a b => a.1 < b.1) → P (.object fs))
    (harr : ∀ vs, P (.array vs)) (hstr : ∀ s, P (.string s)) (n : Nat) :
    (Workflow.loopChain n).toValue.Every P := by
  have hchain : ∀ n, (Step.loopChain n).toValue.Every P := by
    intro n
    induction n with
    | zero => exact Step.toValue_every hobj harr hstr .nil (by simp) (by simp [Step.listToValue])
    | succ n ih =>
      exact Step.toValue_every hobj harr hstr .nil (by simp) (by simpa [Step.listToValue] using ih)
  refine (Value.every_array_iff _ _).2 ⟨harr _, ?_⟩
  simpa [Workflow.loopChain, Step.listToValue] using hchain n

theorem Workflow.loopChain_keysSorted (n : Nat) :
    (Workflow.loopChain n).toValue.Every Value.KeysSorted :=
  Workflow.loopChain_every (fun _ h => h) (fun _ => trivial) (fun _ => trivial) n

theorem Workflow.loopChain_numbersReadBack (n : Nat) :
    (Workflow.loopChain n).toValue.Every Value.NumberReadsBack :=
  Workflow.loopChain_every (fun _ _ => trivial) (fun _ => trivial) (fun _ => trivial) n

/-- Each loop of a chain adds three levels to its description: the step, its payload and the
list of its body. -/
theorem Workflow.depth_toValue_loopChain (n : Nat) :
    (Workflow.loopChain n).toValue.depth = 3 * n + 4 := by
  have hchain : ∀ n, (Step.loopChain n).toValue.depth = 3 * n + 3 := by
    intro n
    induction n with
    | zero => rfl
    | succ n ih =>
      simp [Step.loopChain, Step.toValue, StepKind.isComposite, insertField, Step.listToValue,
        Value.depth, fieldsDepth, itemsDepth, ih]
      omega
  simp [Workflow.loopChain, Workflow.toValue, Step.listToValue, Value.depth, itemsDepth, hchain]

/-! ### Loading what describing writes -/

/-- Describing undoes loading. The description of a loaded workflow loads back into the same
workflow, so describing what it loads gives the description again. Its indented text loads
back into the same workflow exactly when the description nests no more arrays and objects
than the reader allows, and is refused with the recursion limit otherwise; for a value whose
objects keep their keys in order, as every value the reader builds does, and a description
whose numbers read back. -/
theorem Workflow.description_loads_back {v : Value} {w : Workflow}
    (h : Workflow.ofValue v = .ok w) :
    Workflow.ofValue w.toValue = .ok w ∧
      (Workflow.ofValue w.toValue).map Workflow.toValue = .ok w.toValue ∧
      (v.Every Value.KeysSorted → w.toValue.Every Value.NumberReadsBack →
        (w.toValue.depth ≤ maxOpen → Workflow.ofText w.toText = .ok w) ∧
        (maxOpen < w.toValue.depth →
          ∃ e, Workflow.ofText w.toText = .error (.malformed e) ∧ e.kind = .recursionLimit)) := by
  have hw := Workflow.ofValue_toValue h
  refine ⟨hw, by rw [hw]; rfl, fun hv hn => ⟨?_, ?_⟩⟩
  · exact Workflow.ofText_toText_of_depth_le h hv hn
  · exact Workflow.ofText_toText_of_lt_depth h hv hn

/-- The deepest chain of loops whose text loads back: 42 loops, whose description nests 127
arrays and objects. -/
theorem Workflow.ofText_toText_loopChain_deepest :
    Workflow.ofValue (Workflow.loopChain 41).toValue = .ok (Workflow.loopChain 41) ∧
      Workflow.ofText (Workflow.loopChain 41).toText = .ok (Workflow.loopChain 41) := by
  have h := Workflow.ofValue_loopChain 41
  have hv := Workflow.loopChain_keysSorted 41
  have hn := Workflow.loopChain_numbersReadBack 41
  have hd : (Workflow.loopChain 41).toValue.depth ≤ maxOpen := by
    rw [Workflow.depth_toValue_loopChain]
    decide
  exact ⟨h, ((Workflow.description_loads_back h).2.2 hv hn).1 hd⟩

/-- A chain of 43 loops loads from its description, which keeps its keys in order and has
no numbers, but its text does not load: the description nests 130 arrays and objects. -/
theorem Workflow.ofText_toText_loopChain_refused :
    Workflow.ofValue (Workflow.loopChain 42).toValue = .ok (Workflow.loopChain 42) ∧
      (Workflow.loopChain 42).toValue.Every Value.KeysSorted ∧
      (Workflow.loopChain 42).toValue.Every Value.NumberReadsBack ∧
      Workflow.ofText (Workflow.loopChain 42).toText ≠ .ok (Workflow.loopChain 42) := by
  have h := Workflow.ofValue_loopChain 42
  have hv := Workflow.loopChain_keysSorted 42
  have hn := Workflow.loopChain_numbersReadBack 42
  have hd : maxOpen < (Workflow.loopChain 42).toValue.depth := by
    rw [Workflow.depth_toValue_loopChain]
    decide
  obtain ⟨e, he, -⟩ := Workflow.ofText_toText_of_lt_depth h hv hn hd
  refine ⟨h, hv, hn, ?_⟩
  rw [he]
  intro hok
  cases hok

end Runbook
