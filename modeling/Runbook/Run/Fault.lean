import Runbook.Workflow.StepKind
import Runbook.Workflow.StepPath
import Runbook.Files.Store
/-!
# Why a run stops

A `Fault` is what went wrong inside one step: a missing or invalid parameter, an unknown
condition operator, a capability that is absent or failed, a kind with no rule, nesting
beyond the limit, or a file error. A run reports a fault together with the step where it
arose: `RunError.atStep` carries the path and kind of that step. A fault is located once,
at the innermost step, so a located error never holds another located error.
-/

namespace Runbook

/-- What went wrong inside a step. -/
inductive Fault where
  | missingParameter (kind : StepKind) (name : String)
  | invalidParameter (kind : StepKind) (name : String) (reason : String)
  | invalidOperator (operator : String)
  | unavailable (capability : String) (reason : String)
  | failed (capability : String) (message : String)
  | unhandled (kind : StepKind)
  | tooDeep (depth limit : Nat)
  | io (error : FileError)
  deriving Repr, DecidableEq

namespace Fault

/-- The name of the kind of a fault. -/
def kindName : Fault → String
  | .missingParameter .. => "MissingParameter"
  | .invalidParameter .. => "InvalidParameter"
  | .invalidOperator .. => "InvalidOperator"
  | .unavailable .. => "CapabilityUnavailable"
  | .failed .. => "CapabilityFailed"
  | .unhandled .. => "UnhandledStepType"
  | .tooDeep .. => "NestingTooDeep"
  | .io .. => "IoError"

/-- The message of a fault. -/
def message : Fault → String
  | .missingParameter k n => "Step '" ++ k.tag ++ "' is missing required parameter '" ++ n ++ "'"
  | .invalidParameter k n r => "Step '" ++ k.tag ++ "' has invalid parameter '" ++ n ++ "': " ++ r
  | .invalidOperator op => "Invalid condition operator '" ++ op ++ "'. Expected 'and' or 'or'"
  | .unavailable c r => "Capability '" ++ c ++ "' is not available: " ++ r
  | .failed c m => "Capability '" ++ c ++ "' failed: " ++ m
  | .unhandled k => "No execution rule registered for step type '" ++ k.tag ++ "'"
  | .tooDeep d l => "Step nesting depth " ++ toString d ++ " exceeds the limit of " ++ toString l
  | .io e => "IO error: " ++ e.message

/-- The messages beneath a fault's own, outermost first: a file error's own wording. -/
def causes : Fault → List String
  | .io e => [e.message]
  | _ => []

end Fault

/-- An error of a run: a fault not yet placed, or a fault at the step where it arose. -/
inductive RunError where
  | fault (f : Fault)
  | atStep (path : StepPath) (kind : StepKind) (f : Fault)
  deriving Repr, DecidableEq

namespace RunError

/-- Places an error at a step, unless it is placed already. -/
def locate (p : StepPath) (k : StepKind) : RunError → RunError
  | .fault f => .atStep p k f
  | e => e

/-- The fault beneath any placement. -/
def root : RunError → Fault
  | .fault f => f
  | .atStep _ _ f => f

/-- The name of the kind of an error. -/
def kindName : RunError → String
  | .fault f => f.kindName
  | .atStep .. => "StepFailed"

/-- The message of an error. -/
def message : RunError → String
  | .fault f => f.message
  | .atStep p k f => "Step " ++ p.render ++ " (" ++ k.tag ++ ") failed: " ++ f.message

/-- The messages beneath an error's own, outermost first. -/
def causes : RunError → List String
  | .fault f => f.causes
  | .atStep _ _ f => f.message :: f.causes

@[simp] theorem root_locate (p : StepPath) (k : StepKind) (e : RunError) :
    (e.locate p k).root = e.root := by
  cases e <;> rfl

end RunError

end Runbook
