import Runbook.Condition
import Runbook.Proofs.Workflow.Grammar
/-!
# Conditions evaluate by their rules

The rules of a condition, stated on their own: its operator (`and` by default, else the
trimmed and lowered name), its list of expressions (`conditions`, else `condition`), and
when an expression reads as a truth value (a boolean, a number, the words `true` and
`false`, or a nested condition). Evaluation fails, in order, on a bad operator, on a
missing list, or with the fault of the first expression that does not read: every
expression is read, so a bad one is never hidden by an earlier value.

Main statement: `Condition.evaluate_follows_rules`.
-/

namespace Runbook.Condition

open Json

/-! ## The rules -/

/-- The operator a condition's `operator` parameter names: `and` when it is missing or
`null`, else the operator whose name the string is, trimmed and lowered. -/
inductive Names : Option Value → Operator → Prop
  | missing : Names none .and
  | null : Names (some .null) .and
  | word {s : String} {op : Operator} :
      Text.asciiLower (Text.trim s) = op.name → Names (some (.string s)) op

/-- The text a bad operator is reported by: a string as itself, anything else as compact
JSON. -/
def operatorText : Value → String
  | .string s => s
  | v => v.render

/-- The expressions a condition's parameters list: `conditions` when it is a list, its one
value when it is anything else, else the one value of `condition`; none when neither is
there. -/
def expressions (fields : List (String × Value)) : Option (List Value) :=
  match fields.lookup "conditions" with
  | some (.array items) => some items
  | some single => some [single]
  | none => (fields.lookup "condition").map fun single => [single]

/-- Whether an object is a condition of its own: it holds `conditions` or `condition`. -/
def IsNested (fields : List (String × Value)) : Prop :=
  (fields.lookup "conditions").isSome = true ∨ (fields.lookup "condition").isSome = true

mutual

/-- An expression reads as a truth value. -/
inductive Reads : Value → Bool → Prop
  | bool (b : Bool) : Reads (.bool b) b
  | number (n : Number) : Reads (.number n) (numberTruth n)
  | yes {s : String} : Text.asciiLower (Text.trim s) = "true" → Reads (.string s) true
  | no {s : String} : Text.asciiLower (Text.trim s) = "false" → Reads (.string s) false
  | nested {fields : List (String × Value)} {b : Bool} :
      IsNested fields → Holds fields b → Reads (.object fields) b

/-- Expressions read, in order, as truth values. -/
inductive ReadsAll : List Value → List Bool → Prop
  | nil : ReadsAll [] []
  | cons {v : Value} {vs : List Value} {b : Bool} {bs : List Bool} :
      Reads v b → ReadsAll vs bs → ReadsAll (v :: vs) (b :: bs)

/-- A condition's parameters hold with value `b`: they name an operator and list
expressions that all read, and the operator combines their values to `b`. -/
inductive Holds : List (String × Value) → Bool → Prop
  | mk {fields : List (String × Value)} {op : Operator} {es : List Value} {bs : List Bool} :
      Names (fields.lookup "operator") op → expressions fields = some es → ReadsAll es bs →
      Holds fields (op.combine bs)

end

mutual

/-- An expression at position `i` that does not read, with the fault it raises. -/
inductive Refuses : Value → Nat → Fault → Prop
  | word {s : String} {i : Nat} :
      Text.asciiLower (Text.trim s) ≠ "true" → Text.asciiLower (Text.trim s) ≠ "false" →
      Refuses (.string s) i (badExpression i ("'" ++ s ++ "' is not a boolean"))
  | nested {fields : List (String × Value)} {i : Nat} {f : Fault} :
      IsNested fields → Fails fields f → Refuses (.object fields) i f
  | plain {fields : List (String × Value)} {i : Nat} :
      ¬IsNested fields →
      Refuses (.object fields) i
        (badExpression i ("cannot evaluate " ++ (Value.object fields).render ++ " as a condition"))
  | null {i : Nat} :
      Refuses .null i (badExpression i ("cannot evaluate " ++ Value.null.render ++ " as a condition"))
  | array {items : List Value} {i : Nat} :
      Refuses (.array items) i
        (badExpression i ("cannot evaluate " ++ (Value.array items).render ++ " as a condition"))

/-- The first expression from position `i` on that does not read, with its fault; every
expression before it reads. -/
inductive FirstRefused : List Value → Nat → Fault → Prop
  | here {v : Value} {vs : List Value} {i : Nat} {f : Fault} :
      Refuses v i f → FirstRefused (v :: vs) i f
  | later {v : Value} {vs : List Value} {i : Nat} {f : Fault} {b : Bool} :
      Reads v b → FirstRefused vs (i + 1) f → FirstRefused (v :: vs) i f

/-- Why a condition's parameters fail, the checks in order: an operator that names none,
whatever the expressions; then no expressions; then the first expression that does not
read. -/
inductive Fails : List (String × Value) → Fault → Prop
  | operator {fields : List (String × Value)} {v : Value} :
      fields.lookup "operator" = some v → (∀ op, ¬Names (some v) op) →
      Fails fields (.invalidOperator (operatorText v))
  | missing {fields : List (String × Value)} {op : Operator} :
      Names (fields.lookup "operator") op → expressions fields = none →
      Fails fields (.missingParameter .condition "conditions")
  | expression {fields : List (String × Value)} {op : Operator} {es : List Value} {f : Fault} :
      Names (fields.lookup "operator") op → expressions fields = some es →
      FirstRefused es 0 f → Fails fields f

end

theorem IsNested.iff (fields : List (String × Value)) :
    IsNested fields ↔
      ((fields.lookup "conditions").isSome || (fields.lookup "condition").isSome) = true := by
  rw [IsNested, Bool.or_eq_true]

theorem ReadsAll.exists_of_mem {vs : List Value} {bs : List Bool} (h : ReadsAll vs bs)
    {v : Value} (hv : v ∈ vs) : ∃ b, Reads v b := by
  induction vs generalizing bs with
  | nil => cases hv
  | cons w ws ih =>
    cases h with
    | cons hb hrest =>
      rcases List.mem_cons.mp hv with rfl | hv
      · exact ⟨_, hb⟩
      · exact ih hrest hv

/-! ## The operator -/

/-- The operator parameter is read by its rule. -/
theorem parse_eq_ok_iff {o : Option Value} {op : Operator} :
    Operator.parse o = .ok op ↔ Names o op := by
  constructor
  · intro h
    unfold Operator.parse at h
    split at h
    · cases h
      exact .missing
    · cases h
      exact .null
    · simp only at h
      split at h
      · cases h
        exact .word ‹_›
      · split at h
        · cases h
          exact .word ‹_›
        · cases h
    · cases h
  · intro h
    cases h with
    | missing => rfl
    | null => rfl
    | word hw =>
      cases op with
      | and => simp [Operator.parse, hw, Operator.name]
      | or => simp [Operator.parse, hw, Operator.name]

/-- A bad operator is reported by its text. -/
theorem parse_error_text {o : Option Value} {f : Fault} (h : Operator.parse o = .error f) :
    ∃ v, o = some v ∧ f = .invalidOperator (operatorText v) := by
  unfold Operator.parse at h
  split at h
  · cases h
  · cases h
  · simp only at h
    split at h
    · cases h
    · split at h
      · cases h
      · cases h
        exact ⟨_, rfl, rfl⟩
  · cases h
    rename_i other hnull hstring
    refine ⟨other, rfl, ?_⟩
    -- anything but a string is reported as its JSON text
    cases other with
    | string s => exact absurd rfl (hstring s)
    | _ => rfl

theorem parse_eq_error_iff {o : Option Value} {f : Fault} :
    Operator.parse o = .error f ↔
      ∃ v, o = some v ∧ (∀ op, ¬Names (some v) op) ∧ f = .invalidOperator (operatorText v) := by
  constructor
  · intro h
    obtain ⟨v, rfl, hf⟩ := parse_error_text h
    refine ⟨v, rfl, fun op hn => ?_, hf⟩
    rw [parse_eq_ok_iff.2 hn] at h
    cases h
  · rintro ⟨v, rfl, hn, rfl⟩
    cases hp : Operator.parse (some v) with
    | ok op => exact absurd (parse_eq_ok_iff.1 hp) (hn op)
    | error f =>
      obtain ⟨v', hv', rfl⟩ := parse_error_text hp
      cases hv'
      rfl

/-! ## What evaluating does -/

/-- Evaluating reads the operator, then the listed expressions' values, and combines them;
without a list it fails once the operator is read. -/
theorem evaluate_eq (fields : List (String × Value)) :
    evaluate fields = Operator.parse (fields.lookup "operator") >>= fun op =>
      match expressions fields with
      | some es => truthAll es 0 >>= fun bs => .ok (op.combine bs)
      | none => .error (.missingParameter .condition "conditions") := by
  rw [evaluate]
  refine congrArg _ (funext fun op => ?_)
  unfold expressions
  split
  · rename_i items hc
    simp only [hc]
  · -- one expression is read as a list of one
    rename_i single hnot hc
    have hlist : (match some single with
        | some (Value.array items) => some items
        | some single => some [single]
        | none => Option.map (fun single => [single]) (List.lookup "condition" fields)) =
        some [single] := by
      cases single with
      | array items => exact absurd rfl (hnot items)
      | _ => rfl
    rw [hc, hlist]
    simp only [truthAll]
    cases truth single 0 <;> rfl
  · rename_i hc
    simp only [hc]
    split
    · rename_i single hs
      simp only [hs, Option.map_some]
      simp only [truthAll]
      cases truth single 0 <;> rfl
    · rename_i hs
      simp only [hs, Option.map_none]
      rfl

/-- What holds of the list under `conditions`, and of every value listed alone, holds of
the listed expressions. -/
theorem expressions_read {fields : List (String × Value)} {P : List Value → Prop}
    (hitems : ∀ items, fields.lookup "conditions" = some (.array items) → P items)
    (hsingle : ∀ single, fields.lookup "conditions" = some single ∨
      fields.lookup "condition" = some single → P [single]) :
    ∀ es, expressions fields = some es → P es := by
  intro es hes
  unfold expressions at hes
  split at hes
  · cases hes
    exact hitems _ ‹_›
  · cases hes
    exact hsingle _ (.inl ‹_›)
  · obtain ⟨single, hs, rfl⟩ := Option.map_eq_some_iff.mp hes
    exact hsingle _ (.inr hs)

/-! ## Values -/

theorem truthAll_nil_ok_iff (i : Nat) (bs : List Bool) :
    truthAll [] i = .ok bs ↔ ReadsAll [] bs := by
  rw [truthAll]
  constructor
  · intro h
    cases h
    exact .nil
  · intro h
    cases h
    rfl

/-- The values of a list of expressions: the first's, then the rest's. -/
theorem truthAll_cons_ok_iff {v : Value} {rest : List Value} {i : Nat}
    (hv : ∀ b, truth v i = .ok b ↔ Reads v b)
    (hrest : ∀ bs, truthAll rest (i + 1) = .ok bs ↔ ReadsAll rest bs) (bs : List Bool) :
    truthAll (v :: rest) i = .ok bs ↔ ReadsAll (v :: rest) bs := by
  rw [truthAll]
  constructor
  · intro h
    obtain ⟨b, hb, h⟩ := Except.bind_eq_ok_iff.1 h
    obtain ⟨bs', hbs, h⟩ := Except.bind_eq_ok_iff.1 h
    cases h
    exact .cons ((hv b).1 hb) ((hrest bs').1 hbs)
  · intro h
    cases h with
    | cons hb hbs =>
      rw [(hv _).2 hb]
      show (truthAll rest (i + 1) >>= fun bs => .ok (_ :: bs)) = _
      rw [(hrest _).2 hbs]
      rfl

/-- Evaluating gives a value exactly when the rules give it; so does reading one
expression, or a list of them. -/
theorem evaluate_ok_iff :
    (∀ fields b, evaluate fields = .ok b ↔ Holds fields b) ∧
    (∀ v i b, truth v i = .ok b ↔ Reads v b) ∧
    (∀ vs i bs, truthAll vs i = .ok bs ↔ ReadsAll vs bs) := by
  -- one induction along `evaluate`, `truth` and `truthAll` together
  refine evaluate.mutual_induct (fun fields => ∀ b, evaluate fields = .ok b ↔ Holds fields b)
    (fun v i => ∀ b, truth v i = .ok b ↔ Reads v b)
    (fun vs i => ∀ bs, truthAll vs i = .ok bs ↔ ReadsAll vs bs) ?_ ?_ ?_ ?_ ?_ ?_ ?_ ?_ ?_ ?_ ?_
  · intro fields hitems hconds hcond b
    -- whichever way the expressions are listed, their values follow the rules
    have hes : ∀ es, expressions fields = some es →
        ∀ bs, truthAll es 0 = .ok bs ↔ ReadsAll es bs :=
      expressions_read hitems fun single hs =>
        truthAll_cons_ok_iff (hs.elim (hconds single) (hcond single)) (truthAll_nil_ok_iff 1)
    rw [evaluate_eq]
    constructor
    · intro h
      obtain ⟨op, hop, h⟩ := Except.bind_eq_ok_iff.1 h
      cases hexp : expressions fields with
      | none =>
        rw [hexp] at h
        cases h
      | some es =>
        rw [hexp] at h
        obtain ⟨bs, hbs, h⟩ := Except.bind_eq_ok_iff.1 h
        cases h
        exact .mk (parse_eq_ok_iff.1 hop) hexp ((hes es hexp bs).1 hbs)
    · intro h
      cases h with
      | @mk _ op es bs hop hexp hbs =>
        rw [parse_eq_ok_iff.2 hop, hexp]
        change (truthAll es 0 >>= fun bs => (.ok (op.combine bs) : Except Fault Bool)) = _
        rw [(hes _ hexp _).2 hbs]
        rfl
  · intro b i b'
    rw [truth]
    constructor
    · intro h
      cases h
      exact .bool b
    · intro h
      cases h
      rfl
  · intro n i b
    rw [truth]
    constructor
    · intro h
      cases h
      exact .number n
    · intro h
      cases h
      rfl
  · intro s i word hw b
    simp only [word] at hw
    simp only [truth, hw, if_true]
    constructor
    · intro h
      cases h
      exact .yes hw
    · intro h
      cases h with
      | yes _ => rfl
      | no hf => exact absurd (hw.symm.trans hf) (by decide)
  · intro s i word hw hf b
    simp only [word] at hw hf
    simp only [truth, hf, if_true]
    constructor
    · intro h
      cases h
      exact .no hf
    · intro h
      cases h with
      | yes ht => exact absurd ht hw
      | no _ => rfl
  · intro s i word hw hf b
    simp only [word] at hw hf
    simp only [truth, hw, hf, if_false, reduceCtorEq, false_iff]
    intro h
    cases h with
    | yes ht => exact hw ht
    | no hf' => exact hf hf'
  · intro nested i hkey ih b
    rw [truth, if_pos hkey, ih b]
    constructor
    · exact .nested ((IsNested.iff nested).2 hkey)
    · intro h
      cases h with
      | nested _ h => exact h
  · intro nested i hkey b
    rw [truth, if_neg hkey]
    simp only [reduceCtorEq, false_iff]
    intro h
    cases h with
    | nested hn _ => exact hkey ((IsNested.iff nested).1 hn)
  · intro other i hb hn hs ho b
    cases other with
    | bool b' => exact absurd rfl (hb b')
    | number n => exact absurd rfl (hn n)
    | string s => exact absurd rfl (hs s)
    | object fs => exact absurd rfl (ho fs)
    | null =>
      simp only [truth, reduceCtorEq, false_iff]
      intro h
      cases h
    | array items =>
      simp only [truth, reduceCtorEq, false_iff]
      intro h
      cases h
  · exact truthAll_nil_ok_iff
  · intro v rest i ihv ihrest
    exact truthAll_cons_ok_iff ihv ihrest

/-! ## Faults -/

theorem truthAll_nil_error_iff (i : Nat) (f : Fault) :
    truthAll [] i = .error f ↔ FirstRefused [] i f := by
  rw [truthAll]
  constructor
  · intro h
    cases h
  · intro h
    cases h

/-- A list of expressions fails at its first expression, or after it at the rest. -/
theorem truthAll_cons_error_iff {v : Value} {rest : List Value} {i : Nat}
    (hv : ∀ f, truth v i = .error f ↔ Refuses v i f)
    (hrest : ∀ f, truthAll rest (i + 1) = .error f ↔ FirstRefused rest (i + 1) f) (f : Fault) :
    truthAll (v :: rest) i = .error f ↔ FirstRefused (v :: rest) i f := by
  have hreads := evaluate_ok_iff.2.1 v i
  rw [truthAll]
  constructor
  · intro h
    rcases Except.bind_eq_error_iff.1 h with h | ⟨b, hb, h⟩
    · exact .here ((hv f).1 h)
    · -- the first expression read, so the fault is the rest's
      rcases Except.bind_eq_error_iff.1 h with h | ⟨bs, -, h⟩
      · exact .later ((hreads b).1 hb) ((hrest f).1 h)
      · cases h
  · intro h
    cases h with
    | here hr =>
      rw [(hv f).2 hr]
      rfl
    | later hb hr =>
      rw [(hreads _).2 hb]
      change (truthAll rest (i + 1) >>= fun bs => (.ok (_ :: bs) : Except Fault (List Bool))) = _
      rw [(hrest f).2 hr]
      rfl

/-- A bad operator is the fault, whatever the expressions. -/
theorem fails_iff_of_parse_error {fields : List (String × Value)} {f0 : Fault}
    (hop : Operator.parse (fields.lookup "operator") = .error f0) (f : Fault) :
    Fails fields f ↔ f = f0 := by
  obtain ⟨v, hv, hn, rfl⟩ := parse_eq_error_iff.1 hop
  constructor
  · intro h
    cases h with
    | operator hv' _ =>
      rw [hv] at hv'
      cases hv'
      rfl
    | missing hn' _ =>
      rw [hv] at hn'
      exact absurd hn' (hn _)
    | expression hn' _ _ =>
      rw [hv] at hn'
      exact absurd hn' (hn _)
  · rintro rfl
    exact .operator hv hn

/-- Past an operator that names one, a condition without expressions fails for the
missing list. -/
theorem fails_iff_of_missing {fields : List (String × Value)} {op : Operator}
    (hop : Names (fields.lookup "operator") op) (hexp : expressions fields = none) (f : Fault) :
    Fails fields f ↔ f = .missingParameter .condition "conditions" := by
  constructor
  · intro h
    cases h with
    | operator hv hn => exact absurd (hv ▸ hop) (hn op)
    | missing _ _ => rfl
    | expression _ hexp' _ =>
      rw [hexp] at hexp'
      cases hexp'
  · rintro rfl
    exact .missing hop hexp

/-- Past an operator that names one, a condition with expressions fails for the first of
them that does not read. -/
theorem fails_iff_of_listed {fields : List (String × Value)} {op : Operator} {es : List Value}
    (hop : Names (fields.lookup "operator") op) (hexp : expressions fields = some es) (f : Fault) :
    Fails fields f ↔ FirstRefused es 0 f := by
  constructor
  · intro h
    cases h with
    | operator hv hn => exact absurd (hv ▸ hop) (hn op)
    | missing _ hexp' =>
      rw [hexp] at hexp'
      cases hexp'
    | expression _ hexp' hfirst =>
      rw [hexp] at hexp'
      cases hexp'
      exact hfirst
  · exact .expression hop hexp

/-- Evaluating fails exactly when the rules fail, with the same fault; so does reading one
expression, or a list of them. -/
theorem evaluate_error_iff :
    (∀ fields f, evaluate fields = .error f ↔ Fails fields f) ∧
    (∀ v i f, truth v i = .error f ↔ Refuses v i f) ∧
    (∀ vs i f, truthAll vs i = .error f ↔ FirstRefused vs i f) := by
  refine evaluate.mutual_induct (fun fields => ∀ f, evaluate fields = .error f ↔ Fails fields f)
    (fun v i => ∀ f, truth v i = .error f ↔ Refuses v i f)
    (fun vs i => ∀ f, truthAll vs i = .error f ↔ FirstRefused vs i f) ?_ ?_ ?_ ?_ ?_ ?_ ?_ ?_ ?_ ?_ ?_
  · intro fields hitems hconds hcond f
    have hes : ∀ es, expressions fields = some es →
        ∀ f, truthAll es 0 = .error f ↔ FirstRefused es 0 f :=
      expressions_read hitems fun single hs =>
        truthAll_cons_error_iff (hs.elim (hconds single) (hcond single)) (truthAll_nil_error_iff 1)
    rw [evaluate_eq]
    cases hop : Operator.parse (fields.lookup "operator") with
    | error f0 =>
      -- the operator is checked first, whatever the expressions
      rw [fails_iff_of_parse_error hop]
      change Except.error f0 = Except.error f ↔ f = f0
      rw [Except.error.injEq, eq_comm]
    | ok op =>
      have hnames := parse_eq_ok_iff.1 hop
      cases hexp : expressions fields with
      | none =>
        rw [fails_iff_of_missing hnames hexp]
        change Except.error _ = Except.error f ↔ _
        rw [Except.error.injEq, eq_comm]
      | some es =>
        rw [fails_iff_of_listed hnames hexp, ← hes es hexp f]
        change (truthAll es 0 >>= fun bs => (.ok (op.combine bs) : Except Fault Bool)) = _ ↔ _
        rw [Except.bind_eq_error_iff]
        simp
  · intro b i f
    rw [truth]
    simp only [reduceCtorEq, false_iff]
    intro h
    cases h
  · intro n i f
    rw [truth]
    simp only [reduceCtorEq, false_iff]
    intro h
    cases h
  · intro s i word hw f
    simp only [word] at hw
    simp only [truth, hw, if_true, reduceCtorEq, false_iff]
    intro h
    cases h with
    | word ht _ => exact ht hw
  · intro s i word hw hf f
    simp only [word] at hw hf
    simp only [truth]
    rw [if_neg hw, if_pos hf]
    simp only [reduceCtorEq, false_iff]
    intro h
    cases h with
    | word _ hf' => exact hf' hf
  · intro s i word hw hf f
    simp only [word] at hw hf
    simp only [truth, hw, hf, if_false, Except.error.injEq]
    constructor
    · rintro rfl
      exact .word hw hf
    · intro h
      cases h
      rfl
  · intro nested i hkey ih f
    rw [truth, if_pos hkey, ih f]
    constructor
    · exact .nested ((IsNested.iff nested).2 hkey)
    · intro h
      cases h with
      | nested _ h => exact h
      | plain hn => exact absurd ((IsNested.iff nested).2 hkey) hn
  · intro nested i hkey f
    rw [truth, if_neg hkey, Except.error.injEq]
    constructor
    · rintro rfl
      exact .plain fun hn => hkey ((IsNested.iff nested).1 hn)
    · intro h
      cases h with
      | nested hn _ => exact absurd ((IsNested.iff nested).1 hn) hkey
      | plain _ => rfl
  · intro other i hb hn hs ho f
    cases other with
    | bool b' => exact absurd rfl (hb b')
    | number n => exact absurd rfl (hn n)
    | string s => exact absurd rfl (hs s)
    | object fs => exact absurd rfl (ho fs)
    | null =>
      simp only [truth, Except.error.injEq]
      constructor
      · rintro rfl
        exact .null
      · intro h
        cases h
        rfl
    | array items =>
      simp only [truth, Except.error.injEq]
      constructor
      · rintro rfl
        exact .array
      · intro h
        cases h
        rfl
  · exact truthAll_nil_error_iff
  · intro v rest i ihv ihrest
    exact truthAll_cons_error_iff ihv ihrest

/-! ## The rules, whole -/

/-- Evaluating a condition's parameters follows the rules: it gives the value `b` exactly
when the parameters name an operator, list expressions that all read, and the operator
combines their values to `b`; it fails with `f` exactly when, checked in order, the
operator names none and `f` reports it, or no expressions are listed and `f` says so, or `f`
is the fault of the first expression that does not read. In particular no value of other
expressions hides one that does not read: the condition fails. -/
theorem evaluate_follows_rules :
    (∀ fields b, evaluate fields = .ok b ↔ Holds fields b) ∧
    (∀ fields f, evaluate fields = .error f ↔ Fails fields f) ∧
    (∀ fields es, expressions fields = some es → (∃ v ∈ es, ∀ b, ¬Reads v b) →
      ∃ f, evaluate fields = .error f) := by
  refine ⟨evaluate_ok_iff.1, evaluate_error_iff.1, ?_⟩
  intro fields es hexp ⟨v, hv, hnot⟩
  cases h : evaluate fields with
  | error f => exact ⟨f, rfl⟩
  | ok b =>
    -- a value means every listed expression read
    cases (evaluate_ok_iff.1 fields b).1 h with
    | mk _ hexp' hbs =>
      rw [hexp] at hexp'
      cases hexp'
      obtain ⟨b', hb'⟩ := hbs.exists_of_mem hv
      exact absurd hb' (hnot b')

/-- `or` over `true` and `"maybe"`. -/
def orMaybe : List (String × Value) :=
  [("conditions", .array [.bool true, .string "maybe"]), ("operator", .string "or")]

/-- `or` over `true` and `"maybe"` fails: the `true` before it does not hide that `"maybe"`
is no truth value. -/
theorem evaluate_follows_rules_orMaybe :
    (expressions orMaybe = some [.bool true, .string "maybe"] ∧
      ∃ v ∈ [Value.bool true, .string "maybe"], ∀ b, ¬Reads v b) ∧
    ∃ f, evaluate orMaybe = .error f := by
  have hmaybe : ∀ b, ¬Reads (.string "maybe") b := by
    intro b h
    cases h with
    | yes ht => exact absurd ht (by decide)
    | no hf => exact absurd hf (by decide)
  have hlisted : ∃ v ∈ [Value.bool true, .string "maybe"], ∀ b, ¬Reads v b :=
    ⟨.string "maybe", by simp, hmaybe⟩
  exact ⟨⟨rfl, hlisted⟩, evaluate_follows_rules.2.2 orMaybe _ rfl hlisted⟩

end Runbook.Condition
