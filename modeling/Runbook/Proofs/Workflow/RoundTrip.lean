import Runbook.Proofs.Workflow.Grammar
/-!
# Describing a loaded workflow and loading it again

The description of a loaded workflow loads back into the same workflow, because the
description of every step describes the step again (`Describes.toValue`). A loop's
description puts its body under `steps` among its parameters and the loader takes `steps`
back out, which gives the same parameters since a loaded loop's parameters hold no `steps`;
a step of another kind has no body, and its parameters are written under `payload` when
there are any. Tags are written in their canonical spelling, which names the same kind.

Main statement: `Workflow.ofValue_toValue`.
-/

namespace Runbook

open Json

section Fields

variable (k : String) (v : Value)

theorem lookup_cons_of_ne {k' : String} {w : Value} {rest : Params} (h : k ≠ k') :
    ((k', w) :: rest).lookup k = rest.lookup k := by
  have hb : (k == k') = false := by simp [h]
  rw [List.lookup_cons, hb]

theorem eraseField_cons_self (rest : Params) : eraseField ((k, v) :: rest) k = eraseField rest k := by
  simp [eraseField]

theorem eraseField_cons_of_ne {k' : String} {w : Value} {rest : Params} (h : k' ≠ k) :
    eraseField ((k', w) :: rest) k = (k', w) :: eraseField rest k := by
  simp [eraseField, h]

theorem lookup_insertField_self (fields : Params) : (insertField k v fields).lookup k = some v := by
  induction fields with
  | nil => simp [insertField]
  | cons kw rest ih =>
    obtain ⟨k', w⟩ := kw
    unfold insertField
    split
    · simp
    · split
      · simp
      · rename_i hne
        rw [lookup_cons_of_ne k hne, ih]

theorem lookup_eraseField_self (fields : Params) : (eraseField fields k).lookup k = none := by
  rw [List.lookup_eq_none_iff]
  intro p hp
  simp only [eraseField, List.mem_filter] at hp
  simpa [bne_comm] using hp.2

theorem eraseField_of_lookup_eq_none {fields : Params} (h : fields.lookup k = none) :
    eraseField fields k = fields := by
  unfold eraseField
  rw [List.filter_eq_self]
  intro p hp
  have hne := List.lookup_eq_none_iff.1 h p hp
  simpa [bne_comm] using hne

/-- Taking out a key that was just put into fields without it gives the fields back. -/
theorem eraseField_insertField {fields : Params} (h : fields.lookup k = none) :
    eraseField (insertField k v fields) k = fields := by
  induction fields with
  | nil => simp [insertField, eraseField]
  | cons kw rest ih =>
    obtain ⟨k', w⟩ := kw
    have hk : k ≠ k' := by
      intro hkk
      simp [hkk] at h
    have hrest : rest.lookup k = none := by
      rwa [lookup_cons_of_ne k hk] at h
    unfold insertField
    rw [if_neg hk]
    split
    · -- the key goes in front
      rw [eraseField_cons_self, eraseField_cons_of_ne k (Ne.symm hk),
        eraseField_of_lookup_eq_none k hrest]
    · rw [eraseField_cons_of_ne k (Ne.symm hk), ih hrest]

end Fields

/-! ### Descriptions of steps -/

theorem firstPresent_tag_only (tag : String) :
    firstPresent [("type", .string tag)] tagFields = some (.string tag) := by
  simp [firstPresent, tagFields]

theorem firstPresent_payload_only (tag : String) :
    firstPresent [("type", .string tag)] paramFields = none := by
  simp [firstPresent, paramFields, List.lookup_cons]

theorem firstPresent_tag (ps : Params) (tag : String) :
    firstPresent [("payload", .object ps), ("type", .string tag)] tagFields = some (.string tag) := by
  simp [firstPresent, tagFields, List.lookup_cons]

theorem firstPresent_payload (ps : Params) (tag : String) :
    firstPresent [("payload", .object ps), ("type", .string tag)] paramFields = some (.object ps) := by
  simp [firstPresent, paramFields]

/-- The description of a step of a kind other than a loop gives its kind and parameters. -/
theorem Descriptor.toValue_leaf {kind : StepKind} (hk : kind ≠ .loop) (params : Params) :
    Descriptor (Step.mk kind params []).toValue kind params [] := by
  simp only [Step.toValue, StepKind.isComposite_eq_false hk, Bool.false_eq_true, if_false,
    Bool.not_false, Bool.true_and, List.isEmpty_nil, Bool.and_true]
  by_cases hp : params.isEmpty
  · -- no parameters: the description is the tag alone
    have hnil : params = [] := List.isEmpty_iff.1 hp
    subst hnil
    rw [if_pos hp]
    exact .leaf (firstPresent_tag_only _) (StepKind.ofTag?_tag kind) hk
      (.missing (firstPresent_payload_only _))
  · rw [if_neg hp]
    exact .leaf (firstPresent_tag _ _) (StepKind.ofTag?_tag kind) hk
      (.object (firstPresent_payload _ _))

/-- The description of a loop whose parameters hold no `steps` gives its parameters and the
descriptions of its body. -/
theorem Descriptor.toValue_loop {params : Params} (h : params.lookup "steps" = none)
    (body : List Step) :
    Descriptor (Step.mk .loop params body).toValue .loop params (Step.listToValue body) := by
  simp only [Step.toValue, StepKind.isComposite, if_true, Bool.not_true, Bool.false_and,
    Bool.false_eq_true, if_false]
  have hd := Descriptor.loop (firstPresent_tag _ _) (StepKind.ofTag?_tag .loop)
    (.object (firstPresent_payload _ _))
    (lookup_insertField_self "steps" (.array (Step.listToValue body)) params)
  rwa [eraseField_insertField "steps" _ h] at hd

/-- The description of a step that a descriptor describes describes the step again. -/
theorem Describes.toValue {v : Value} {s : Step} (h : Describes v s) : Describes s.toValue s := by
  -- induction on the derivation; for the body, the descriptions of its steps in order
  refine @Describes.rec (fun _ s _ => Describes s.toValue s)
    (fun _ ss _ => List.Forall₂ Describes (Step.listToValue ss) ss) ?_ .nil ?_ _ _ h
  · intro v kind params items body hd hbody ih
    cases hd with
    | leaf tag names notLoop payload =>
      cases hbody
      exact .mk (Descriptor.toValue_leaf notLoop params) ih
    | emptyLoop tag names payload noSteps =>
      cases hbody
      exact .mk (Descriptor.toValue_loop noSteps []) ih
    | @loop fields params t items tag names payload steps =>
      exact .mk (Descriptor.toValue_loop (lookup_eraseField_self "steps" params) body) ih
  · intro v s vs ss hs hss ih ihs
    exact .cons ih ihs

theorem Describes.listToValue {vs : List Value} {ss : List Step} (h : List.Forall₂ Describes vs ss) :
    List.Forall₂ Describes (Step.listToValue ss) ss := by
  induction h with
  | nil => exact .nil
  | cons hs _ ih => exact .cons hs.toValue ih

/-- The description of a loaded workflow loads back into the same workflow: the same steps
at every depth, with their canonical kinds, the same parameters and no name. -/
theorem Workflow.ofValue_toValue {v : Value} {w : Workflow} (h : Workflow.ofValue v = .ok w) :
    Workflow.ofValue w.toValue = .ok w := by
  obtain ⟨items, -, hd, hn⟩ := (Workflow.ofValue_eq_ok_iff v w).1 h
  exact (Workflow.ofValue_eq_ok_iff w.toValue w).2 ⟨_, rfl, Describes.listToValue hd, hn⟩

end Runbook
