import Runbook.Run.Handlers
/-!
# Running steps and workflows

A step is entered at a path: deeper than the limit it fails at once; otherwise it leaves a
trace entry, and then fails if its kind has no rule, or does its work. A loop runs its body
`count` times, the steps of the body in order, each at `iter[n].steps[j]` below the loop,
and stops at the first failure. A workflow runs its root steps in order, at `steps[i]`,
and stops at the first failure. A fault is placed at the innermost step where it arose.
-/

namespace Runbook

open Json

/-- The record a run keeps: the desk and the trace. -/
structure Trail where
  desk : Desk
  trace : Array TraceEntry := #[]

/-- What runs steps: the providers, the settings and the kinds that have a rule. -/
structure Runner where
  bench : Bench := {}
  settings : Settings := {}
  registry : List StepKind := StepKind.all

/-- Runs work on the desk of a trail. -/
def Work.onTrail {α : Type} (w : Work α) (t : Trail) : Except Fault α × Trail :=
  let (r, desk) := (w.run).run t.desk
  (r, { t with desk := desk })

mutual

/-- Enters a step at a path, in a loop iteration or at the top. -/
def Runner.enter (r : Runner) (step : Step) (path : StepPath) (iteration : Option Nat)
    (t : Trail) : Except RunError Outcome × Trail :=
  if path.depth > r.settings.maxDepth then
    (.error (.atStep path step.kind (.tooDeep path.depth r.settings.maxDepth)), t)
  else
    let t := { t with trace := t.trace.push (TraceEntry.ofStep step path iteration) }
    if !r.registry.contains step.kind then (.error (.atStep path step.kind (.unhandled step.kind)), t)
    else
      match step with
      | .mk .loop params body =>
        match (loopCount params).onTrail t with
        | (.error f, t) => (.error (.atStep path .loop f), t)
        | (.ok count, t) =>
          if body.isEmpty then (.ok .completed, t)
          else
            match r.iterate body path count 0 t with
            | (.ok (), t) => (.ok .completed, t)
            | (.error e, t) => (.error (e.locate path .loop), t)
      | .mk kind params _ =>
        match (leafStep r.bench r.settings kind params).onTrail t with
        | (.ok o, t) => (.ok o, t)
        | (.error f, t) => (.error (.atStep path kind f), t)
termination_by (sizeOf step, 0)

/-- Runs `k` more iterations of a loop body, the next being iteration `n`. -/
def Runner.iterate (r : Runner) (body : List Step) (path : StepPath) (k n : Nat)
    (t : Trail) : Except RunError Unit × Trail :=
  match k with
  | 0 => (.ok (), t)
  | k' + 1 =>
    match r.runBody body path n 0 t with
    | (.ok (), t') => r.iterate body path k' (n + 1) t'
    | (.error e, t') => (.error e, t')
termination_by (sizeOf body, k + 1)

/-- Runs the steps of a loop body from position `j`, in iteration `n`. -/
def Runner.runBody (r : Runner) (steps : List Step) (path : StepPath) (n j : Nat)
    (t : Trail) : Except RunError Unit × Trail :=
  match steps with
  | [] => (.ok (), t)
  | c :: rest =>
    match r.enter c (path.iterationChild n j) (some n) t with
    | (.ok _, t') => r.runBody rest path n (j + 1) t'
    | (.error e, t') => (.error e, t')
termination_by (sizeOf steps, 0)

end

/-- The record of a root step that succeeded. -/
structure StepRecord where
  index : Nat
  kind : StepKind
  outcome : Outcome

/-- A step record as an object, with the given status text. -/
def StepRecord.toValue (status : String) (s : StepRecord) : Value :=
  .object [("index", nat s.index), ("outcome", s.outcome.toValue), ("status", str status),
    ("step_type", str s.kind.tag)]

/-- Runs root steps from index `i`; `acc` holds the records so far in reverse. -/
def Runner.runRoots (r : Runner) : List Step → Nat → List StepRecord → Trail →
    Except RunError (List StepRecord) × Trail
  | [], _, acc, t => (.ok acc.reverse, t)
  | s :: rest, i, acc, t =>
    match r.enter s (StepPath.rootStep i) none t with
    | (.ok o, t') => r.runRoots rest (i + 1) (⟨i, s.kind, o⟩ :: acc) t'
    | (.error e, t') => (.error e, t')

/-- Runs a workflow on a desk: the root step records or the error that stopped the run,
with the trail it left. -/
def Runner.run (r : Runner) (w : Workflow) (desk : Desk) :
    Except RunError (List StepRecord) × Trail :=
  r.runRoots w.steps 0 [] ⟨desk, #[]⟩

/-- Runs one step on its own, at `steps[0]`. -/
def Runner.runStep (r : Runner) (s : Step) (desk : Desk) : Except RunError Outcome × Trail :=
  r.enter s (StepPath.rootStep 0) none ⟨desk, #[]⟩

end Runbook
