import Runbook.Workflow.Step
import Runbook.Workflow.StepPath
/-!
# The trace of a run

Every step entered during a run leaves one trace entry: its path, its kind, the loop
iteration it was entered in, and details taken from its parameters. The details hold, for
each of the keys `x y text path src dst sheet cell value operator conditions condition
count seconds message email` present among the parameters, the value as text (a string as
itself, anything else as compact JSON); a loop adds `steps`, the number of steps in its
body. Details are sorted by key.
-/

namespace Runbook

open Json

/-- The parameter keys copied into trace details. -/
def traceKeys : List String :=
  ["x", "y", "text", "path", "src", "dst", "sheet", "cell", "value", "operator", "conditions",
    "condition", "count", "seconds", "message", "email"]

/-- A parameter value as detail text: a string as itself, else its compact JSON. -/
def detailText : Value → String
  | .string s => s
  | v => v.render

/-- Inserts a detail into a key-sorted list. -/
def insertDetail (key value : String) : List (String × String) → List (String × String)
  | [] => [(key, value)]
  | (k, v) :: rest =>
    if key < k then (key, value) :: (k, v) :: rest
    else if key = k then (key, value) :: rest
    else (k, v) :: insertDetail key value rest

/-- The record of entering one step. -/
structure TraceEntry where
  path : StepPath
  kind : StepKind
  iteration : Option Nat
  details : List (String × String)

/-- The details of a step: its traced parameters, and a loop's body size. -/
def Step.details (s : Step) : List (String × String) :=
  let base := traceKeys.foldl (fun acc k =>
    match s.params.lookup k with
    | some v => insertDetail k (detailText v) acc
    | none => acc) []
  if s.kind.isComposite then insertDetail "steps" (toString s.body.length) base else base

/-- The trace entry of entering a step at a path. -/
def TraceEntry.ofStep (s : Step) (p : StepPath) (iteration : Option Nat) : TraceEntry :=
  ⟨p, s.kind, iteration, s.details⟩

/-- How deep the entered step is. -/
def TraceEntry.depth (e : TraceEntry) : Nat := e.path.depth

/-- A trace entry as an object. -/
def TraceEntry.toValue (e : TraceEntry) : Value :=
  .object [("depth", nat e.depth), ("details", .object (e.details.map fun (k, v) => (k, str v))),
    ("iteration", opt nat e.iteration), ("path", str e.path.render), ("step_type", str e.kind.tag)]

end Runbook
