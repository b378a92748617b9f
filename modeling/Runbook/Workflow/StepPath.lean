/-!
# Step paths

A step path names one step of a workflow, and, during a run, one visit of it: a list of
segments from the outermost step inward, each giving the step's position among its
siblings and, for a step entered during a loop, the loop's iteration. The root path has no
segments and reads `<root>`; any other reads as its segments joined by dots, each
`steps[i]`, preceded by `iter[n].` when it carries iteration `n`.
-/

namespace Runbook

/-- One level of a step path: the position among siblings and the loop iteration. -/
structure Segment where
  index : Nat
  iteration : Option Nat
  deriving Repr, DecidableEq

/-- A path from the outermost step inward. -/
structure StepPath where
  segments : List Segment
  deriving Repr, DecidableEq

namespace StepPath

/-- The path of the workflow itself. -/
def root : StepPath := ⟨[]⟩

/-- The path of root step `i`. -/
def rootStep (i : Nat) : StepPath := ⟨[⟨i, none⟩]⟩

/-- The path of child `i`, as the loader names nested steps. -/
def child (p : StepPath) (i : Nat) : StepPath := ⟨p.segments ++ [⟨i, none⟩]⟩

/-- The path of child `i` entered during iteration `n` of a loop. -/
def iterationChild (p : StepPath) (n i : Nat) : StepPath := ⟨p.segments ++ [⟨i, some n⟩]⟩

/-- How many steps enclose the named one, itself included. -/
def depth (p : StepPath) : Nat := p.segments.length

/-- Whether the path names the workflow itself. -/
def isRoot (p : StepPath) : Bool := p.segments.isEmpty

/-- The position of the named step among its siblings. -/
def index? (p : StepPath) : Option Nat := p.segments.getLast?.map Segment.index

/-- The text of one segment. -/
def Segment.render (s : Segment) : String :=
  (match s.iteration with
    | some n => "iter[" ++ toString n ++ "]."
    | none => "") ++ "steps[" ++ toString s.index ++ "]"

/-- The text of a path. -/
def render (p : StepPath) : String :=
  if p.segments.isEmpty then "<root>" else ".".intercalate (p.segments.map Segment.render)

@[simp] theorem depth_child (p : StepPath) (i : Nat) : (p.child i).depth = p.depth + 1 := by
  simp [child, depth]

@[simp] theorem depth_iterationChild (p : StepPath) (n i : Nat) :
    (p.iterationChild n i).depth = p.depth + 1 := by
  simp [iterationChild, depth]

end StepPath

end Runbook
