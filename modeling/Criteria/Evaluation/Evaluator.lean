import Criteria.Evaluation.Registry
import Criteria.Node.Limits

/-!
# Evaluating a condition

A literal is its value, an array the array of the values of its elements, and
a function whatever its handler makes of its argument.  Arrays and functions
use up one level of a depth budget each, on which the evaluation recurses, so
that no handler can keep it running for ever.
-/

namespace Criteria

/-- Handlers and the greatest nesting that they are applied to. -/
structure Evaluator where
  registry : Registry
  maxDepth : Nat

namespace Evaluator

/-- An evaluator with the standard nesting limit. -/
def ofRegistry (registry : Registry) : Evaluator :=
  ⟨registry, Limits.standard.maxDepth⟩

/-- An evaluator without handlers. -/
def empty : Evaluator :=
  ofRegistry .empty

/-- The same evaluator under the nesting limit given. -/
def withLimits (evaluator : Evaluator) (limits : Limits) : Evaluator :=
  { evaluator with maxDepth := limits.maxDepth }

/-- The same evaluator with one more handler. -/
def addHandler (evaluator : Evaluator) (name : String) (handler : Handler) :
    Evaluator :=
  { evaluator with registry := evaluator.registry.add name handler }

/-- The value of a node when a number of levels is left. -/
def evaluateWithin (evaluator : Evaluator) :
    (levels : Nat) → Node → Evaluation Json
  | _, .literal value => pure value.toJson
  | 0, _ => throw (.limitExceeded .evaluationDepth evaluator.maxDepth)
  | levels + 1, .array elements => do
      let items ← elements.mapM (evaluator.evaluateWithin levels)
      return .array items
  | levels + 1, .function name argument =>
      evaluator.registry.invoke
        ⟨evaluator.evaluateWithin levels, evaluator.registry.contains⟩
        ⟨name, argument⟩

/-- The value of a condition. -/
def evaluation (evaluator : Evaluator) (root : Node) : Evaluation Json :=
  evaluator.evaluateWithin evaluator.maxDepth root

/-- The outcome of a condition against a context, and the session afterwards. -/
def run (evaluator : Evaluator) (context : Context) (root : Node) :
    Except ConditionError Json × Session :=
  (evaluator.evaluation root).runFrom ⟨context, []⟩

/-- The outcome of a condition against a context. -/
def evaluate (evaluator : Evaluator) (context : Context) (root : Node) :
    Except ConditionError Json :=
  (evaluator.run context root).1

end Evaluator

end Criteria
