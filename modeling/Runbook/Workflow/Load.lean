import Runbook.Json.Parse
import Runbook.Workflow.Step
import Runbook.Workflow.StepPath
import Runbook.Files.Store
/-!
# Loading a workflow from its description

A description is a list of step descriptors. A descriptor is an object whose tag is the
first present field among `type`, `action` and `step_type`, and whose parameters are the
first present field among `payload` and `params` (missing or `null` for none). For a loop,
the parameters' `steps` field is taken out and loaded as its body. Descriptors are loaded
in document order, and the first fault stops the load; its path names the descriptor as
`steps[i]`, `steps[i].steps[j]` and so on.
-/

namespace Runbook

open Json

/-- Why a workflow could not be loaded. -/
inductive LoadError where
  | unreadable (error : FileError)
  | malformed (error : SyntaxError)
  | invalidFormat (path : StepPath) (reason : String)
  | missingField (field : String) (path : StepPath)
  | unknownKind (tag : String) (path : StepPath)

namespace LoadError

/-- The name of the kind of a loading error. -/
def kindName : LoadError → String
  | .unreadable _ => "IoError"
  | .malformed _ => "JsonError"
  | .invalidFormat .. => "InvalidFormat"
  | .missingField .. => "MissingField"
  | .unknownKind .. => "InvalidStepType"

/-- The message of a loading error. -/
def message : LoadError → String
  | .unreadable e => "Failed to read workflow file: " ++ e.message
  | .malformed e => "Failed to parse JSON: " ++ e.message
  | .invalidFormat p reason => "Invalid workflow format at " ++ p.render ++ ": " ++ reason
  | .missingField f p => "Missing required field '" ++ f ++ "' at " ++ p.render
  | .unknownKind t p =>
    "Unknown step type '" ++ t ++ "' at " ++ p.render ++ ". Supported types: " ++
      StepKind.acceptedList

/-- The message of the error beneath, when there is one: the file error or the syntax
error. -/
def cause? : LoadError → Option String
  | .unreadable e => some e.message
  | .malformed e => some e.message
  | _ => none

end LoadError

/-- The kind a tag names, or the error for an unknown tag at a path. -/
def StepKind.parse (t : String) (p : StepPath) : Except LoadError StepKind :=
  match StepKind.ofTag? t with
  | some k => .ok k
  | none => .error (.unknownKind t p)

/-- The value of the first of `keys` present among the fields. -/
def firstPresent (fields : Params) : List String → Option Value
  | [] => none
  | k :: rest =>
    match fields.lookup k with
    | some v => some v
    | none => firstPresent fields rest

/-- The fields without a key. -/
def eraseField (fields : Params) (key : String) : Params :=
  fields.filter fun (k, _) => k != key

/-- The tag fields, in the order they are looked for. -/
def tagFields : List String := ["type", "action", "step_type"]

/-- The parameter fields, in the order they are looked for. -/
def paramFields : List String := ["payload", "params"]

/-- A value found under the first present of some keys is smaller than the fields. -/
theorem sizeOf_lt_of_firstPresent {fields : List (String × Value)} {keys : List String}
    {v : Value} (h : firstPresent fields keys = some v) : sizeOf v < sizeOf fields := by
  induction keys with
  | nil => simp [firstPresent] at h
  | cons k rest ih =>
    simp only [firstPresent] at h
    split at h
    · cases h
      exact sizeOf_lt_of_lookup (by assumption)
    · exact ih h

/-- The tag of a descriptor: the first present tag field, which must hold a string. -/
def readTag (p : StepPath) (fields : Params) : Except LoadError String :=
  match firstPresent fields tagFields with
  | none => .error (.missingField "type" p)
  | some (.string t) => .ok t
  | some other => .error (.invalidFormat p ("step type must be a string, found " ++ other.kindPhrase))

/-- The parameters of a descriptor: the first present parameter field, which must hold an
object; none when it is missing or `null`. -/
def readParams (p : StepPath) (fields : Params) : Except LoadError Params :=
  match firstPresent fields paramFields with
  | none => .ok []
  | some .null => .ok []
  | some (.object ps) => .ok ps
  | some other => .error (.invalidFormat p ("payload must be an object, found " ++ other.kindPhrase))

/-- A loop's parameters without `steps`, and the descriptors `steps` lists: none when it is
missing, and an error when it is not a list. -/
def readBody (p : StepPath) (params : Params) : Except LoadError (Params × List Value) :=
  match params.lookup "steps" with
  | none => .ok (params, [])
  | some (.array items) => .ok (eraseField params "steps", items)
  | some other => .error (.invalidFormat p ("loop steps must be a list, found " ++ other.kindPhrase))

/-- The checks one descriptor makes on its own, in order: an object, a tag that is a string
naming a kind, parameters that are an object, and for a loop a body that is a list. Gives
the kind, the parameters and the descriptors of the body. -/
def readDescriptor (p : StepPath) : Value → Except LoadError (StepKind × Params × List Value)
  | .object fields => do
    let tag ← readTag p fields
    let kind ← StepKind.parse tag p
    let params ← readParams p fields
    if kind.isComposite then
      let (params, items) ← readBody p params
      .ok (kind, params, items)
    else .ok (kind, params, [])
  | other => .error (.invalidFormat p ("expected a step object, found " ++ other.kindPhrase))

theorem sizeOf_nil_le {α : Type} [SizeOf α] (l : List α) : sizeOf ([] : List α) ≤ sizeOf l := by
  cases l with
  | nil => exact Nat.le_refl _
  | cons a rest =>
    simp only [List.nil.sizeOf_spec, List.cons.sizeOf_spec]
    omega

theorem sizeOf_le_of_readParams {p : StepPath} {fields ps : List (String × Value)}
    (h : readParams p fields = .ok ps) : sizeOf ps ≤ sizeOf fields := by
  unfold readParams at h
  split at h
  · cases h
    exact sizeOf_nil_le fields
  · cases h
    exact sizeOf_nil_le fields
  · cases h
    have := sizeOf_lt_of_firstPresent (by assumption)
    simp at this
    omega
  · cases h

theorem sizeOf_le_of_readBody {p : StepPath} {params ps : List (String × Value)}
    {items : List Value} (h : readBody p params = .ok (ps, items)) :
    sizeOf items ≤ sizeOf params := by
  unfold readBody at h
  split at h
  · cases h
    exact sizeOf_nil_le params
  · cases h
    have := sizeOf_lt_of_lookup (by assumption)
    simp at this
    omega
  · cases h

/-- The body a descriptor lists is smaller than the descriptor. -/
theorem sizeOf_lt_of_readDescriptor {p : StepPath} {v : Value} {k : StepKind} {ps : Params}
    {items : List Value} (h : readDescriptor p v = .ok (k, ps, items)) :
    sizeOf items < sizeOf v := by
  cases v with
  | object fields =>
    simp only [readDescriptor, bind, Except.bind] at h
    split at h
    · cases h
    · split at h
      · cases h
      · split at h
        · cases h
        · rename_i params hp
          have hle := sizeOf_le_of_readParams hp
          rw [Value.object.sizeOf_spec]
          split at h
          · split at h
            · cases h
            · rename_i body hb
              cases h
              have := sizeOf_le_of_readBody hb
              omega
          · cases h
            have := sizeOf_nil_le fields
            simp only [List.nil.sizeOf_spec] at this ⊢
            omega
  | _ => simp [readDescriptor] at h

mutual

/-- Loads one descriptor at a path: its own checks, then its body, as the children of the
path. -/
def loadStep (p : StepPath) (v : Value) : Except LoadError Step :=
  match _h : readDescriptor p v with
  | .error e => .error e
  | .ok (kind, params, items) => do
    let body ← loadSteps p 0 items
    .ok (.mk kind params body)
termination_by sizeOf v
decreasing_by exact sizeOf_lt_of_readDescriptor _h

/-- Loads descriptors as the children `i`, `i + 1`, ... of a path. -/
def loadSteps (p : StepPath) (i : Nat) : List Value → Except LoadError (List Step)
  | [] => .ok []
  | v :: rest => do
    let s ← loadStep (p.child i) v
    let ss ← loadSteps p (i + 1) rest
    .ok (s :: ss)
termination_by vs => sizeOf vs

end

/-- Loads a workflow from its description. -/
def Workflow.ofValue (v : Value) : Except LoadError Workflow :=
  match v with
  | .array items => do
    let steps ← loadSteps StepPath.root 0 items
    .ok ⟨steps, none⟩
  | other => .error (.invalidFormat StepPath.root ("expected a list of steps, found " ++ other.kindPhrase))

/-- Loads a workflow from the text of its description. -/
def Workflow.ofText (s : String) : Except LoadError Workflow :=
  match Json.parse s with
  | .ok v => Workflow.ofValue v
  | .error e => .error (.malformed e)

/-- Loads the workflow file at a path of a store, named by the file's stem. -/
def Workflow.ofFile (fs : FileStore) (path : String) : Except LoadError Workflow := do
  let content ← match fs.read path with
    | .ok c => .ok c
    | .error e => .error (.unreadable e)
  let text ← match content.text? with
    | some t => .ok t
    | none => .error (.unreadable .notUtf8)
  let w ← Workflow.ofText text
  .ok { w with name := fileStem path }

end Runbook
