/-!
# Kinds of steps

A workflow step is one of nine kinds. Each kind has one canonical tag; `if` and `for` are
accepted as other spellings of `condition` and `loop`. Tags are matched exactly, with case
and blanks significant. Only a loop holds further steps.
-/

namespace Runbook

/-- The kinds of workflow steps. -/
inductive StepKind where
  | click
  | input
  | screenshot
  | fileCopy
  | excelWrite
  | condition
  | loop
  | wait
  | notify
  deriving Repr, DecidableEq, Inhabited

namespace StepKind

/-- Every kind, in the order the accepted tags list them. -/
def all : List StepKind :=
  [.click, .input, .screenshot, .fileCopy, .excelWrite, .condition, .loop, .wait, .notify]

/-- The canonical tag of a kind. -/
def tag : StepKind → String
  | .click => "click"
  | .input => "input"
  | .screenshot => "screenshot"
  | .fileCopy => "file_copy"
  | .excelWrite => "excel_write"
  | .condition => "condition"
  | .loop => "loop"
  | .wait => "wait"
  | .notify => "notify"

/-- The accepted tags: the canonical ones, then the two other spellings. -/
def acceptedTags : List String := all.map tag ++ ["if", "for"]

/-- The kind a tag names, if it names one. -/
def ofTag? (t : String) : Option StepKind :=
  if t = "if" then some .condition
  else if t = "for" then some .loop
  else all.find? (fun k => k.tag == t)

/-- Whether steps of a kind hold further steps. -/
def isComposite : StepKind → Bool
  | .loop => true
  | _ => false

theorem ofTag?_tag (k : StepKind) : ofTag? k.tag = some k := by
  cases k <;> decide

theorem tag_injective {a b : StepKind} (h : a.tag = b.tag) : a = b := by
  have := ofTag?_tag a
  rw [h, ofTag?_tag] at this
  exact (Option.some.inj this).symm

/-- The accepted tags as a bracketed list of quoted names, as error messages show it. -/
def acceptedList : String :=
  "[" ++ ", ".intercalate (acceptedTags.map fun t => "\"" ++ t ++ "\"") ++ "]"

end StepKind

end Runbook
