import Runbook.Workflow.Load
import Runbook.Run.Fault
/-!
# JSON views of results and errors

Errors of loading and of running as objects: `error` names the kind, `message` holds the
message, and the fields that locate the error stand beside them.
-/

namespace Runbook

open Json

/-- A loading error as an object. -/
def LoadError.toValue (e : LoadError) : Value :=
  let extra : List (String × Value) := match e with
    | .invalidFormat p reason => [("path", str p.render), ("reason", str reason)]
    | .missingField f p => [("field", str f), ("path", str p.render)]
    | .unknownKind t p =>
      [("path", str p.render), ("supported", .array (StepKind.acceptedTags.map str)), ("tag", str t)]
    | _ => []
  Value.ofFields ([("error", str e.kindName), ("message", str e.message)] ++ extra)

/-- A fault as an object. -/
def Fault.toValue (f : Fault) : Value :=
  Value.ofFields [("error", str f.kindName), ("message", str f.message)]

/-- A run error as an object; a located one also names the step and its root fault. -/
def RunError.toValue : RunError → Value
  | .fault f => f.toValue
  | e@(.atStep p k f) => Value.ofFields [("error", str e.kindName), ("message", str e.message),
      ("path", str p.render), ("step_type", str k.tag), ("root", str f.kindName),
      ("root_message", str f.message)]

end Runbook
