import Runbook.Json.Value
import Runbook.Text.Blank
import Runbook.Run.Fault
/-!
# Conditions

A condition combines expressions with `and` or `or`. Its parameters name the operator
under `operator` (missing or `null` for `and`; a string is trimmed and compared without
regard to ASCII case) and the expressions under `conditions` (a list, or one expression),
else under `condition` (one expression). An expression is a boolean, a number (true when
not zero), the string `true` or `false` (trimmed, any ASCII case), or an object with its
own `conditions` or `condition`, evaluated the same way. The operator is checked first;
then every expression is evaluated in order and the first fault wins, so no fault is
hidden by the result of an earlier expression.
-/

namespace Runbook.Condition

open Json

/-- How the values of expressions combine. -/
inductive Operator where
  | and
  | or
  deriving Repr, DecidableEq

namespace Operator

/-- The operator named by a parameter value. -/
def parse : Option Value → Except Fault Operator
  | none => .ok .and
  | some .null => .ok .and
  | some (.string name) =>
    let word := Text.asciiLower (Text.trim name)
    if word = "and" then .ok .and
    else if word = "or" then .ok .or
    else .error (.invalidOperator name)
  | some other => .error (.invalidOperator other.render)

/-- `and` holds when every value holds, `or` when some value holds. -/
def combine : Operator → List Bool → Bool
  | .and, bs => bs.all id
  | .or, bs => bs.any id

/-- The name of an operator. -/
def name : Operator → String
  | .and => "and"
  | .or => "or"

end Operator

/-- The fault of an expression at a position that cannot be read as a truth value. -/
def badExpression (position : Nat) (reason : String) : Fault :=
  .invalidParameter .condition ("conditions[" ++ toString position ++ "]") reason

/-- The truth of a number: whether it differs from zero. -/
def numberTruth (n : Number) : Bool := !Binary64.isZero n.toFloat

mutual

/-- Evaluates a condition's parameters. -/
def evaluate (fields : List (String × Value)) : Except Fault Bool := do
  let op ← Operator.parse (fields.lookup "operator")
  let values ← match _hc : fields.lookup "conditions" with
    | some (.array items) => truthAll items 0
    | some single => (fun b => [b]) <$> truth single 0
    | none =>
      match _hs : fields.lookup "condition" with
      | some single => (fun b => [b]) <$> truth single 0
      | none => .error (.missingParameter .condition "conditions")
  .ok (op.combine values)
termination_by sizeOf fields
decreasing_by
  all_goals first
    | (have h1 := sizeOf_lt_of_lookup _hc; simp at h1; omega)
    | (have h1 := sizeOf_lt_of_lookup _hs; omega)
    | (have h1 := sizeOf_lt_of_lookup _hc; omega)

/-- The truth values of expressions, from a position on. -/
def truthAll : List Value → Nat → Except Fault (List Bool)
  | [], _ => .ok []
  | v :: rest, i => do
    let b ← truth v i
    let bs ← truthAll rest (i + 1)
    .ok (b :: bs)
termination_by vs => sizeOf vs

/-- The truth value of one expression at a position. -/
def truth : Value → Nat → Except Fault Bool
  | .bool b, _ => .ok b
  | .number n, _ => .ok (numberTruth n)
  | .string s, i =>
    let word := Text.asciiLower (Text.trim s)
    if word = "true" then .ok true
    else if word = "false" then .ok false
    else .error (badExpression i ("'" ++ s ++ "' is not a boolean"))
  | .object nested, i =>
    if (nested.lookup "conditions").isSome || (nested.lookup "condition").isSome then
      evaluate nested
    else .error (badExpression i ("cannot evaluate " ++ (Value.object nested).render ++ " as a condition"))
  | other, i => .error (badExpression i ("cannot evaluate " ++ other.render ++ " as a condition"))
termination_by v => sizeOf v

end

end Runbook.Condition
