import Runbook.Json.Value
import Runbook.Workflow.StepKind
/-!
# Steps and workflows

A step is a kind, its parameters (a JSON object's fields, sorted by key) and, for a loop,
the steps of its body. A workflow is a list of root steps with an optional name.

The description of a step is `{"type": tag}` with a `"payload"` object beside it when the
step holds parameters or steps, or is a loop; a loop's payload always lists its body under
`"steps"`, and the payload of another kind of step lists its parameters alone. Counting:
the total counts every step of the tree, the depth is the longest chain of nested steps (a
flat workflow has depth 1, an empty one 0).
-/

namespace Runbook

open Json

/-- The parameters of a step: object fields sorted by key. -/
abbrev Params := List (String × Value)

/-- A step of a workflow: its kind, its parameters and the steps it holds. -/
inductive Step where
  | mk (kind : StepKind) (params : Params) (body : List Step)

namespace Step

/-- The kind of a step. -/
def kind : Step → StepKind
  | .mk k _ _ => k

/-- The parameters of a step. -/
def params : Step → Params
  | .mk _ p _ => p

/-- The steps a loop holds; other steps hold none. -/
def body : Step → List Step
  | .mk _ _ b => b

mutual

/-- The description of a step. -/
def toValue : Step → Value
  | .mk kind params body =>
    let payload :=
      if kind.isComposite then insertField "steps" (.array (listToValue body)) params else params
    if !kind.isComposite && params.isEmpty && body.isEmpty then .object [("type", .string kind.tag)]
    else .object [("payload", .object payload), ("type", .string kind.tag)]

/-- The descriptions of a list of steps. -/
def listToValue : List Step → List Value
  | [] => []
  | s :: rest => s.toValue :: listToValue rest

end

mutual

/-- How many steps a step's tree holds, itself included. -/
def size : Step → Nat
  | .mk _ _ body => listSize body + 1

/-- How many steps a list of trees holds. -/
def listSize : List Step → Nat
  | [] => 0
  | s :: rest => s.size + listSize rest

end

mutual

/-- The longest chain of nested steps starting at a step. -/
def depth : Step → Nat
  | .mk _ _ body => listDepth body + 1

/-- The longest chain of nested steps in a list of trees. -/
def listDepth : List Step → Nat
  | [] => 0
  | s :: rest => max s.depth (listDepth rest)

end

end Step

/-- A loaded workflow: its root steps and, when it came from a file, its name. -/
structure Workflow where
  steps : List Step
  name : Option String := none

namespace Workflow

/-- The name shown for a workflow: its own, or `workflow`. -/
def displayName (w : Workflow) : String := w.name.getD "workflow"

/-- The number of root steps. -/
def length (w : Workflow) : Nat := w.steps.length

/-- The number of steps in the whole tree. -/
def totalSteps (w : Workflow) : Nat := Step.listSize w.steps

/-- The longest chain of nested steps. -/
def maxDepth (w : Workflow) : Nat := Step.listDepth w.steps

/-- The description of a workflow: the list of its steps' descriptions. -/
def toValue (w : Workflow) : Value := .array (Step.listToValue w.steps)

/-- The description as indented text. -/
def toText (w : Workflow) : String := w.toValue.pretty

end Workflow

end Runbook
