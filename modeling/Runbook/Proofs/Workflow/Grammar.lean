import Mathlib.Data.List.Forall2
import Runbook.Workflow.Load
/-!
# The grammar of workflow descriptions

`Describes v s` is the grammar of step descriptors: `v` describes the step `s`, through
what `Descriptor` says a descriptor gives its own step (the kind its tag names, its
parameters and, for a loop, its body). `descriptorFault` is the first of a descriptor's own
checks that fails, and `descriptorsAt` lists the descriptors reachable from one in
document order, a loop's body before its later siblings.

Main statements: `loadStep_eq_ok_iff`, `loadStep_eq_error_iff`, and for whole descriptions
`Workflow.ofValue_eq_ok_iff` and `Workflow.ofValue_eq_error_iff`: the loader accepts
exactly the grammar, and otherwise reports the first fault in document order.
-/

namespace Runbook

open Json

theorem Except.bind_eq_ok_iff {ε α β : Type} {x : Except ε α} {f : α → Except ε β} {b : β} :
    x >>= f = .ok b ↔ ∃ a, x = .ok a ∧ f a = .ok b := by
  cases x with
  | error e => simp [bind, Except.bind]
  | ok a => simp [bind, Except.bind]

theorem Except.bind_eq_error_iff {ε α β : Type} {x : Except ε α} {f : α → Except ε β} {e : ε} :
    x >>= f = .error e ↔ x = .error e ∨ ∃ a, x = .ok a ∧ f a = .error e := by
  cases x with
  | error e => simp [bind, Except.bind]
  | ok a => simp [bind, Except.bind]

/-! ### The grammar -/

/-- The parameters a descriptor's fields give: those of the object under the first present
parameter field, and none when that field is missing or `null`. -/
inductive Payload (fields : Params) : Params → Prop
  | missing : firstPresent fields paramFields = none → Payload fields []
  | null : firstPresent fields paramFields = some .null → Payload fields []
  | object {params : Params} : firstPresent fields paramFields = some (.object params) →
      Payload fields params

/-- What a descriptor gives its own step: it is an object whose first present tag field
holds a string naming the kind, with the parameters `Payload` gives. A loop's parameters
lose `steps`, which lists the descriptors of its body (none when it is missing); any other
kind keeps `steps` as a parameter and has no body. -/
inductive Descriptor : Value → StepKind → Params → List Value → Prop
  | leaf {fields params : Params} {t : String} {kind : StepKind}
      (tag : firstPresent fields tagFields = some (.string t))
      (names : StepKind.ofTag? t = some kind) (notLoop : kind ≠ .loop)
      (payload : Payload fields params) :
      Descriptor (.object fields) kind params []
  | emptyLoop {fields params : Params} {t : String}
      (tag : firstPresent fields tagFields = some (.string t))
      (names : StepKind.ofTag? t = some .loop) (payload : Payload fields params)
      (noSteps : params.lookup "steps" = none) :
      Descriptor (.object fields) .loop params []
  | loop {fields params : Params} {t : String} {items : List Value}
      (tag : firstPresent fields tagFields = some (.string t))
      (names : StepKind.ofTag? t = some .loop) (payload : Payload fields params)
      (steps : params.lookup "steps" = some (.array items)) :
      Descriptor (.object fields) .loop (eraseField params "steps") items

/-- The grammar of descriptors: `v` describes a step when it gives the step's kind and
parameters, and the descriptors of its body describe the steps of the body, in order. -/
inductive Describes : Value → Step → Prop
  | mk {v : Value} {kind : StepKind} {params : Params} {items : List Value} {body : List Step} :
      Descriptor v kind params items → List.Forall₂ Describes items body →
      Describes v (.mk kind params body)

/-! ### Faults in document order -/

/-- The fault of a loop's `steps`: none when it is missing or a list. -/
def stepsFault (p : StepPath) : Option Value → Option LoadError
  | none => none
  | some (.array _) => none
  | some other => some (.invalidFormat p ("loop steps must be a list, found " ++ other.kindPhrase))

/-- The fault of a descriptor's parameter field for a step of a kind: none when it is
missing, `null`, or an object whose `steps` pass `stepsFault` for a loop. -/
def payloadFault (p : StepPath) (kind : StepKind) : Option Value → Option LoadError
  | none => none
  | some .null => none
  | some (.object params) => if kind = .loop then stepsFault p (params.lookup "steps") else none
  | some other => some (.invalidFormat p ("payload must be an object, found " ++ other.kindPhrase))

/-- The first of a descriptor's own checks that fails, in the order they are made: it is an
object; it has a tag field; the tag is a string; the tag names a kind; the parameters are
missing, `null` or an object; and a loop's `steps` are missing or a list. -/
def descriptorFault (p : StepPath) : Value → Option LoadError
  | .object fields =>
    match firstPresent fields tagFields with
    | none => some (.missingField "type" p)
    | some (.string t) =>
      match StepKind.ofTag? t with
      | none => some (.unknownKind t p)
      | some kind => payloadFault p kind (firstPresent fields paramFields)
    | some other => some (.invalidFormat p ("step type must be a string, found " ++ other.kindPhrase))
  | other => some (.invalidFormat p ("expected a step object, found " ++ other.kindPhrase))

/-- The descriptors a loop descriptor lists under its parameters' `steps`; none for any
other value. -/
def bodyOf : Value → List Value
  | .object fields =>
    match firstPresent fields tagFields, firstPresent fields paramFields with
    | some (.string t), some (.object params) =>
      match StepKind.ofTag? t, params.lookup "steps" with
      | some .loop, some (.array items) => items
      | _, _ => []
    | _, _ => []
  | _ => []

theorem sizeOf_nil_le_value (v : Value) : sizeOf ([] : List Value) ≤ sizeOf v := by
  cases v <;> simp only [List.nil.sizeOf_spec, Value.null.sizeOf_spec, Value.bool.sizeOf_spec,
    Value.number.sizeOf_spec, Value.string.sizeOf_spec, Value.array.sizeOf_spec,
    Value.object.sizeOf_spec] <;> omega

/-- A loop's body is smaller than its descriptor. -/
theorem sizeOf_bodyOf_le (v : Value) : sizeOf (bodyOf v) ≤ sizeOf v := by
  unfold bodyOf
  split
  · rename_i fields
    split
    · rename_i params _ hp
      split
      · rename_i items hs
        have hitems := sizeOf_lt_of_lookup hs
        have hparams := sizeOf_lt_of_firstPresent hp
        simp only [Value.array.sizeOf_spec, Value.object.sizeOf_spec] at hitems hparams ⊢
        omega
      · exact sizeOf_nil_le_value _
    · exact sizeOf_nil_le_value _
  · exact sizeOf_nil_le_value _

mutual

/-- The descriptors reachable from one at a path, in document order: itself, then those of
its body as the children of the path. -/
def descriptorsAt (p : StepPath) (v : Value) : List (StepPath × Value) :=
  (p, v) :: descriptorsIn p 0 (bodyOf v)
termination_by sizeOf v + 1
decreasing_by
  have := sizeOf_bodyOf_le v
  omega

/-- The descriptors reachable from a list of them, as the children `i`, `i + 1`, ... of a
path. -/
def descriptorsIn (p : StepPath) (i : Nat) : List Value → List (StepPath × Value)
  | [] => []
  | v :: rest => descriptorsAt (p.child i) v ++ descriptorsIn p (i + 1) rest
termination_by vs => sizeOf vs
decreasing_by
  all_goals simp only [List.cons.sizeOf_spec]
  · have := sizeOf_nil_le rest
    simp only [List.nil.sizeOf_spec] at this
    omega
  · omega

end

/-- The first fault of a list of descriptors at their paths. -/
def firstFault (ds : List (StepPath × Value)) : Option LoadError :=
  ds.findSome? fun d => descriptorFault d.1 d.2

theorem firstFault_descriptorsAt (p : StepPath) (v : Value) :
    firstFault (descriptorsAt p v) =
      (descriptorFault p v).or (firstFault (descriptorsIn p 0 (bodyOf v))) := by
  rw [descriptorsAt, firstFault, List.findSome?_cons]
  cases descriptorFault p v <;> rfl

theorem firstFault_descriptorsIn_cons (p : StepPath) (i : Nat) (v : Value) (rest : List Value) :
    firstFault (descriptorsIn p i (v :: rest)) =
      (firstFault (descriptorsAt (p.child i) v)).or (firstFault (descriptorsIn p (i + 1) rest)) := by
  rw [descriptorsIn, firstFault, List.findSome?_append]
  rfl

/-! ### One descriptor -/

theorem StepKind.isComposite_iff (kind : StepKind) : kind.isComposite = true ↔ kind = .loop := by
  cases kind <;> simp [StepKind.isComposite]

theorem StepKind.isComposite_eq_false {kind : StepKind} (h : kind ≠ .loop) :
    kind.isComposite = false := by
  cases hk : kind.isComposite
  · rfl
  · exact absurd ((StepKind.isComposite_iff kind).1 hk) h

theorem readTag_eq_ok_iff {p : StepPath} {fields : Params} {t : String} :
    readTag p fields = .ok t ↔ firstPresent fields tagFields = some (.string t) := by
  unfold readTag
  split
  · rename_i h
    simp [h]
  · rename_i s h
    simp [h]
  · rename_i other hother h
    simp only [h, reduceCtorEq, false_iff, Option.some.injEq]
    exact fun heq => hother t heq

theorem StepKind.parse_eq_ok_iff {t : String} {p : StepPath} {kind : StepKind} :
    StepKind.parse t p = .ok kind ↔ StepKind.ofTag? t = some kind := by
  unfold StepKind.parse
  split
  · rename_i k h
    simp [h]
  · rename_i h
    simp [h]

theorem readParams_eq_ok_iff {p : StepPath} {fields params : Params} :
    readParams p fields = .ok params ↔ Payload fields params := by
  constructor
  · intro h
    unfold readParams at h
    split at h
    · cases h
      exact .missing ‹_›
    · cases h
      exact .null ‹_›
    · cases h
      exact .object ‹_›
    · cases h
  · intro h
    cases h with
    | missing h => simp [readParams, h]
    | null h => simp [readParams, h]
    | object h => simp [readParams, h]

theorem readBody_eq_ok_iff {p : StepPath} {params rest : Params} {items : List Value} :
    readBody p params = .ok (rest, items) ↔
      (params.lookup "steps" = none ∧ rest = params ∧ items = []) ∨
      (params.lookup "steps" = some (.array items) ∧ rest = eraseField params "steps") := by
  unfold readBody
  split
  · rename_i h
    simp [h, eq_comm]
  · rename_i its h
    simp [h, eq_comm, and_comm]
  · rename_i other hother h
    simp only [h, reduceCtorEq, false_and, false_or, false_iff, Option.some.injEq, not_and]
    exact fun heq => absurd heq (hother items)

theorem readBody_eq_error_iff {p : StepPath} {params : Params} {e : LoadError} :
    readBody p params = .error e ↔ stepsFault p (params.lookup "steps") = some e := by
  unfold readBody stepsFault
  rcases params.lookup "steps" with _ | ⟨⟩ | ⟨b⟩ | ⟨n⟩ | ⟨s⟩ | ⟨items⟩ | ⟨fs⟩ <;> simp

/-- A descriptor passes its own checks exactly when it gives a step's kind, parameters and
body descriptors as `Descriptor` says. -/
theorem readDescriptor_eq_ok_iff {p : StepPath} {v : Value} {kind : StepKind} {params : Params}
    {items : List Value} :
    readDescriptor p v = .ok (kind, params, items) ↔ Descriptor v kind params items := by
  constructor
  · intro h
    cases v with
    | object fields =>
      -- the checks in the order they are made: tag, kind, parameters, then a loop's body
      obtain ⟨t, ht, h⟩ := Except.bind_eq_ok_iff.1 h
      obtain ⟨k, hk, h⟩ := Except.bind_eq_ok_iff.1 h
      obtain ⟨ps, hps, h⟩ := Except.bind_eq_ok_iff.1 h
      rw [readTag_eq_ok_iff] at ht
      rw [StepKind.parse_eq_ok_iff] at hk
      rw [readParams_eq_ok_iff] at hps
      by_cases hl : k = .loop
      · subst hl
        rw [if_pos ((StepKind.isComposite_iff _).2 rfl)] at h
        obtain ⟨⟨rest, its⟩, hb, h⟩ := Except.bind_eq_ok_iff.1 h
        cases h
        rcases readBody_eq_ok_iff.1 hb with ⟨hs, rfl, rfl⟩ | ⟨hs, rfl⟩
        · exact .emptyLoop ht hk hps hs
        · exact .loop ht hk hps hs
      · rw [StepKind.isComposite_eq_false hl] at h
        cases h
        exact .leaf ht hk hl hps
    | _ => cases h
  · intro h
    cases h with
    | leaf tag names notLoop payload =>
      simp only [readDescriptor, readTag_eq_ok_iff.2 tag, StepKind.parse_eq_ok_iff.2 names,
        readParams_eq_ok_iff.2 payload, StepKind.isComposite_eq_false notLoop, bind, Except.bind]
      rfl
    | @emptyLoop fields params t tag names payload noSteps =>
      have hb : readBody p params = .ok (params, []) :=
        readBody_eq_ok_iff.2 (.inl ⟨noSteps, rfl, rfl⟩)
      simp only [readDescriptor, readTag_eq_ok_iff.2 tag, StepKind.parse_eq_ok_iff.2 names,
        readParams_eq_ok_iff.2 payload, hb, StepKind.isComposite, if_true, bind, Except.bind]
    | @loop fields params t items tag names payload steps =>
      have hb : readBody p params = .ok (eraseField params "steps", items) :=
        readBody_eq_ok_iff.2 (.inr ⟨steps, rfl⟩)
      simp only [readDescriptor, readTag_eq_ok_iff.2 tag, StepKind.parse_eq_ok_iff.2 names,
        readParams_eq_ok_iff.2 payload, hb, StepKind.isComposite, if_true, bind, Except.bind]

/-- A descriptor fails its own checks exactly with `descriptorFault`. -/
theorem readDescriptor_eq_error_iff {p : StepPath} {v : Value} {e : LoadError} :
    readDescriptor p v = .error e ↔ descriptorFault p v = some e := by
  cases v with
  | object fields =>
    simp only [readDescriptor, descriptorFault]
    -- the checks in order; at each, every value it refuses gives one fault on both sides
    rcases htag : firstPresent fields tagFields with _ | ⟨⟩ | ⟨b⟩ | ⟨n⟩ | ⟨t⟩ | ⟨xs⟩ | ⟨fs⟩
    all_goals simp only [readTag, htag, bind, Except.bind]
    all_goals try simp
    rcases hkind : StepKind.ofTag? t with _ | kind
    all_goals simp only [StepKind.parse, hkind]
    all_goals try simp
    rcases hpay : firstPresent fields paramFields with _ | ⟨⟩ | ⟨b⟩ | ⟨n⟩ | ⟨s⟩ | ⟨xs⟩ | ⟨ps⟩
    all_goals simp only [readParams, hpay, payloadFault]
    all_goals try simp
    -- what is left: parameters that pass, where only a loop's `steps` can still fail
    · -- no parameters: a loop's body is empty
      by_cases hl : kind = .loop
      · subst hl
        simp [StepKind.isComposite, readBody]
      · simp [StepKind.isComposite_eq_false hl]
    · -- `null` parameters are none as well
      by_cases hl : kind = .loop
      · subst hl
        simp [StepKind.isComposite, readBody]
      · simp [StepKind.isComposite_eq_false hl]
    · -- an object: a loop's `steps` must be missing or a list
      by_cases hl : kind = .loop
      · subst hl
        rcases hs : ps.lookup "steps" with _ | ⟨⟩ | ⟨b⟩ | ⟨n⟩ | ⟨s⟩ | ⟨items⟩ | ⟨fs⟩ <;>
          simp [StepKind.isComposite, readBody, hs, stepsFault]
      · simp [StepKind.isComposite_eq_false hl, hl]
  | _ => simp [readDescriptor, descriptorFault]

/-- The descriptors of a body are those `bodyOf` finds. -/
theorem Descriptor.bodyOf_eq {v : Value} {kind : StepKind} {params : Params} {items : List Value}
    (h : Descriptor v kind params items) : bodyOf v = items := by
  cases h with
  | leaf tag names notLoop payload =>
    cases kind <;> first
      | exact absurd rfl notLoop
      | cases payload <;> simp_all [bodyOf]
  | emptyLoop tag names payload noSteps =>
    cases payload with
    | missing hp => simp [bodyOf, hp]
    | null hp => simp [bodyOf, hp]
    | object hp => simp [bodyOf, tag, names, hp, noSteps]
  | loop tag names payload steps =>
    cases payload with
    | missing hp => simp at steps
    | null hp => simp at steps
    | object hp => simp [bodyOf, tag, names, hp, steps]

theorem descriptorFault_eq_none {p : StepPath} {v : Value} {kind : StepKind} {params : Params}
    {items : List Value} (h : readDescriptor p v = .ok (kind, params, items)) :
    descriptorFault p v = none := by
  cases hf : descriptorFault p v with
  | none => rfl
  | some e =>
    rw [readDescriptor_eq_error_iff.2 hf] at h
    cases h

/-! ### Loading -/

theorem loadStep_of_error {p : StepPath} {v : Value} {e : LoadError}
    (h : readDescriptor p v = .error e) : loadStep p v = .error e := by
  rw [loadStep]
  split
  · rename_i e' h'
    rw [h] at h'
    cases h'
    rfl
  · rename_i h'
    rw [h] at h'
    cases h'

theorem loadStep_of_ok {p : StepPath} {v : Value} {kind : StepKind} {params : Params}
    {items : List Value} (h : readDescriptor p v = .ok (kind, params, items)) :
    loadStep p v = loadSteps p 0 items >>= fun body => .ok (.mk kind params body) := by
  rw [loadStep]
  split
  · rename_i e' h'
    rw [h] at h'
    cases h'
  · rename_i h'
    rw [h] at h'
    cases h'
    rfl

theorem loadSteps_cons (p : StepPath) (i : Nat) (v : Value) (rest : List Value) :
    loadSteps p i (v :: rest) = loadStep (p.child i) v >>= fun s =>
      loadSteps p (i + 1) rest >>= fun ss => .ok (s :: ss) := by
  rw [loadSteps]

/-- Loading is exact for the grammar: a descriptor loads into the steps it describes, and a
list of descriptors into the list of steps they describe in order. -/
theorem load_eq_ok_iff :
    (∀ p v s, loadStep p v = .ok s ↔ Describes v s) ∧
    (∀ p i vs ss, loadSteps p i vs = .ok ss ↔ List.Forall₂ Describes vs ss) := by
  refine loadStep.mutual_induct (fun p v => ∀ s, loadStep p v = .ok s ↔ Describes v s)
    (fun p i vs => ∀ ss, loadSteps p i vs = .ok ss ↔ List.Forall₂ Describes vs ss) ?_ ?_ ?_ ?_
  · -- a descriptor that fails its own checks loads into nothing and describes nothing
    intro p v e hd s
    rw [loadStep_of_error hd]
    constructor
    · intro h
      cases h
    · rintro ⟨hdesc, -⟩
      rw [readDescriptor_eq_ok_iff.2 hdesc] at hd
      cases hd
  · intro p v kind params items hd ih s
    rw [loadStep_of_ok hd]
    constructor
    · intro h
      obtain ⟨body, hb, h⟩ := Except.bind_eq_ok_iff.1 h
      cases h
      exact .mk (readDescriptor_eq_ok_iff.1 hd) ((ih body).1 hb)
    · -- the descriptor gives one kind, parameters and body, so the step is the one loaded
      rintro ⟨hdesc, hbody⟩
      rw [readDescriptor_eq_ok_iff.2 hdesc] at hd
      cases hd
      rw [(ih _).2 hbody]
      rfl
  · intro p i ss
    rw [loadSteps]
    constructor
    · intro h
      cases h
      exact .nil
    · intro h
      cases h
      rfl
  · intro p i v rest ihv ihrest ss
    rw [loadSteps_cons]
    constructor
    · intro h
      obtain ⟨s, hs, h⟩ := Except.bind_eq_ok_iff.1 h
      obtain ⟨ss', hss, h⟩ := Except.bind_eq_ok_iff.1 h
      cases h
      exact .cons ((ihv s).1 hs) ((ihrest ss').1 hss)
    · intro h
      cases h with
      | cons hs hss =>
        rw [(ihv _).2 hs, (ihrest _).2 hss]
        rfl

/-- A load fails with the first fault among the descriptors reachable from the one loaded,
in document order. -/
theorem load_eq_error_iff :
    (∀ p v e, loadStep p v = .error e ↔ firstFault (descriptorsAt p v) = some e) ∧
    (∀ p i vs e, loadSteps p i vs = .error e ↔ firstFault (descriptorsIn p i vs) = some e) := by
  refine loadStep.mutual_induct
    (fun p v => ∀ e, loadStep p v = .error e ↔ firstFault (descriptorsAt p v) = some e)
    (fun p i vs => ∀ e, loadSteps p i vs = .error e ↔ firstFault (descriptorsIn p i vs) = some e)
    ?_ ?_ ?_ ?_
  · -- the descriptor's own fault comes before those of its body
    intro p v e' hd e
    rw [loadStep_of_error hd, firstFault_descriptorsAt, readDescriptor_eq_error_iff.1 hd]
    simp
  · -- a descriptor that passes its own checks fails with the first fault of its body
    intro p v kind params items hd ih e
    have hbody : bodyOf v = items := (readDescriptor_eq_ok_iff.1 hd).bodyOf_eq
    rw [loadStep_of_ok hd, firstFault_descriptorsAt, descriptorFault_eq_none hd, hbody,
      Option.none_or, ← ih e, Except.bind_eq_error_iff]
    simp
  · intro p i e
    rw [loadSteps, descriptorsIn]
    simp [firstFault]
  · intro p i v rest ihv ihrest e
    rw [loadSteps_cons, firstFault_descriptorsIn_cons, Except.bind_eq_error_iff]
    rcases hv : loadStep (p.child i) v with e' | s
    · -- the first descriptor fails, and its fault comes first
      rw [(ihv e').1 hv]
      simp
    · -- the first descriptor loads, so none of its descriptors has a fault
      have hfirst : firstFault (descriptorsAt (p.child i) v) = none := by
        cases hf : firstFault (descriptorsAt (p.child i) v) with
        | none => rfl
        | some e' =>
          have hfails := (ihv e').2 hf
          rw [hv] at hfails
          cases hfails
      rw [hfirst, Option.none_or, ← ihrest e]
      simp [Except.bind_eq_error_iff]

/-! ### Whole descriptions -/

theorem firstFault_eq_none_iff (ds : List (StepPath × Value)) :
    firstFault ds = none ↔ ∀ d ∈ ds, descriptorFault d.1 d.2 = none :=
  List.findSome?_eq_none_iff

/-- A description loads exactly when it is a list of descriptors that describe steps; the
workflow holds those steps and no name. -/
theorem Workflow.ofValue_eq_ok_iff (v : Value) (w : Workflow) :
    Workflow.ofValue v = .ok w ↔
      ∃ items, v = .array items ∧ List.Forall₂ Describes items w.steps ∧ w.name = none := by
  cases v with
  | array items =>
    rw [Workflow.ofValue, Except.bind_eq_ok_iff]
    constructor
    · rintro ⟨steps, hs, h⟩
      cases h
      exact ⟨items, rfl, (load_eq_ok_iff.2 _ _ _ _).1 hs, rfl⟩
    · rintro ⟨items', h, hd, hn⟩
      cases h
      obtain ⟨steps, name⟩ := w
      dsimp only at hd hn
      subst hn
      exact ⟨steps, (load_eq_ok_iff.2 _ _ _ _).2 hd, rfl⟩
  | _ => simp [Workflow.ofValue]

/-- A description that is not a list is refused at the root; a list is refused with the
first fault among the descriptors reachable from it, in document order. -/
theorem Workflow.ofValue_eq_error_iff (v : Value) (e : LoadError) :
    Workflow.ofValue v = .error e ↔
      (∃ items, v = .array items ∧ firstFault (descriptorsIn .root 0 items) = some e) ∨
      ((∀ items, v ≠ .array items) ∧
        e = .invalidFormat .root ("expected a list of steps, found " ++ v.kindPhrase)) := by
  cases v with
  | array items =>
    rw [Workflow.ofValue, Except.bind_eq_error_iff, load_eq_error_iff.2]
    simp
  | _ => simp [Workflow.ofValue, eq_comm]

/-- The loader accepts exactly its grammar and reports the first fault in document order. A
description loads exactly when it is a list and every descriptor reachable from it passes
its own checks; it then loads, with no name, into the steps its descriptors describe, each
with its kind, its parameters and its body. Otherwise the error is the root's when the
description is not a list, and else the first fault, in the order of `descriptorFault`'s
checks, of the first reachable descriptor that fails them, a loop's body coming before the
loop's later siblings. -/
theorem Workflow.ofValue_exact_for_grammar (v : Value) :
    ((∃ w, Workflow.ofValue v = .ok w) ↔
      ∃ items, v = .array items ∧
        ∀ d ∈ descriptorsIn .root 0 items, descriptorFault d.1 d.2 = none) ∧
    (∀ w, Workflow.ofValue v = .ok w ↔
      ∃ items, v = .array items ∧ List.Forall₂ Describes items w.steps ∧ w.name = none) ∧
    (∀ e, Workflow.ofValue v = .error e ↔
      (∃ items, v = .array items ∧ firstFault (descriptorsIn .root 0 items) = some e) ∨
      ((∀ items, v ≠ .array items) ∧
        e = .invalidFormat .root ("expected a list of steps, found " ++ v.kindPhrase))) := by
  refine ⟨?_, Workflow.ofValue_eq_ok_iff v, Workflow.ofValue_eq_error_iff v⟩
  -- a load that does not fail succeeds, so success is the absence of every error
  constructor
  · rintro ⟨w, hw⟩
    obtain ⟨items, rfl, -, -⟩ := (Workflow.ofValue_eq_ok_iff v w).1 hw
    refine ⟨items, rfl, (firstFault_eq_none_iff _).1 ?_⟩
    cases hf : firstFault (descriptorsIn .root 0 items) with
    | none => rfl
    | some e =>
      have hfails := (Workflow.ofValue_eq_error_iff _ e).2 (.inl ⟨items, rfl, hf⟩)
      rw [hw] at hfails
      cases hfails
  · rintro ⟨items, rfl, hnone⟩
    cases hw : Workflow.ofValue (.array items) with
    | ok w => exact ⟨w, rfl⟩
    | error e =>
      rcases (Workflow.ofValue_eq_error_iff _ e).1 hw with ⟨items', h, hf⟩ | ⟨hne, -⟩
      · cases h
        rw [(firstFault_eq_none_iff _).2 hnone] at hf
        cases hf
      · exact absurd rfl (hne items)

end Runbook
