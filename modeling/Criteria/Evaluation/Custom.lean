import Criteria.Evaluation.Evaluator

/-!
# Handlers to register beside the built-in functions

Ready-made rules for functions of one's own: answers that ignore the
argument, rules that look at the operands or at the registry, and a rule that
records what passes through it.
-/

namespace Criteria.Handler

/-- Answers with one value and leaves the argument alone. -/
def constant (value : Json) : Handler :=
  fun _ _ => pure value

/-- Fails with a type error in the words given. -/
def failure (message : String) : Handler :=
  fun _ _ => throw (.typeMismatch (.described message))

/-- Evaluates all operands and answers how many there are. -/
def counting : Handler :=
  fun scope call => do
    let operands ← Evaluation.ofExcept call.argument.arguments
    let values ← scope.evaluateAll operands
    return (Double.ofInt values.length).toJson

/--
Takes an exact number of operands and answers with the array of their values.
-/
def exactly (count : Nat) : Handler :=
  fun scope call => do
    let operands ← Evaluation.ofExcept (call.argument.exactArguments count)
    return .array (← scope.evaluateAll operands)

/-- Records the value of the argument and answers with it. -/
def recording : Handler :=
  fun scope call => do
    let value ← scope.evaluate call.argument
    Evaluation.note value
    return value

/-- Answers whether the name that the argument evaluates to has a handler. -/
def definedness : Handler :=
  fun scope call => do
    match ← scope.evaluate call.argument with
    | .string name => return .bool (scope.isDefined name)
    | _ => throw (.typeMismatch (.described "expected function name"))

/-- Answers with the whole context and leaves the argument alone. -/
def wholeContext : Handler :=
  fun _ _ => Evaluation.resolveContext

/-- Answers with the name it was called by. -/
def ownName : Handler :=
  fun _ call => pure (.string call.name)

/-- Answers with the value of the argument. -/
def identity : Handler :=
  fun scope call => scope.evaluate call.argument

end Criteria.Handler
