import Criteria.Evaluation.Evaluator
import Criteria.Evaluation.Sha1
import Criteria.Text.Bytes

/-!
# Built-in functions

The functions that every condition may use.  Each receives its argument
unevaluated, so that conjunction, disjunction and the conditional skip the
operands that they do not need.
-/

namespace Criteria

/-- A built-in function. -/
inductive Builtin where
  | conjunction
  | disjunction
  | negation
  | conditional
  | context
  | greater
  | less
  | greaterOrEqual
  | lessOrEqual
  | equal
  | bucket
  deriving DecidableEq

namespace Builtin

/-- All built-in functions. -/
def all : List Builtin :=
  [conjunction, disjunction, negation, conditional, context, greater, less,
    greaterOrEqual, lessOrEqual, equal, bucket]

/-- The name under which a built-in function is registered. -/
def name : Builtin → String
  | conjunction => "and"
  | disjunction => "or"
  | negation => "not"
  | conditional => "if"
  | context => "context"
  | greater => "gt"
  | less => "lt"
  | greaterOrEqual => "gte"
  | lessOrEqual => "lte"
  | equal => "eq"
  | bucket => "sha1mod"

/-- The built-in function with a name. -/
def ofName? (name : String) : Option Builtin :=
  all.find? fun builtin => builtin.name == name

/-- Whether every node is truthy; stops at the first that is not. -/
def everyTruthy (scope : Scope) : List Node → Evaluation Bool
  | [] => pure true
  | node :: nodes => do
      let value ← scope.evaluate node
      if value.isTruthy then everyTruthy scope nodes else return false

/-- Whether some node is truthy; stops at the first that is. -/
def someTruthy (scope : Scope) : List Node → Evaluation Bool
  | [] => pure false
  | node :: nodes => do
      let value ← scope.evaluate node
      if value.isTruthy then return true else someTruthy scope nodes

/-- The double that a value is, if it is a number. -/
def expectNumber : Json → Except ConditionError Double
  | .number value => .ok value.toDouble
  | other => .error (.typeMismatch (.notANumber other.kind))

/--
A predicate, what holds if it is truthy, and optionally what holds otherwise.
-/
def choose (scope : Scope) : List Node → Evaluation Json
  | [condition, consequence] => do
      let value ← scope.evaluate condition
      if value.isTruthy then scope.evaluate consequence else return .null
  | [condition, consequence, alternative] => do
      let value ← scope.evaluate condition
      if value.isTruthy then scope.evaluate consequence
      else scope.evaluate alternative
  | operands => throw (.arity (.oneOf 2 3) operands.length)

/--
Compares two operands, each of which must be a number once it is evaluated.
-/
def compare (holds : Double → Double → Bool) (scope : Scope) (argument : Node) :
    Evaluation Json := do
  let (first, second) ← Evaluation.ofExcept argument.twoArguments
  let left ← Evaluation.ofExcept (expectNumber (← scope.evaluate first))
  let right ← Evaluation.ofExcept (expectNumber (← scope.evaluate second))
  return .bool (holds left right)

/-- The integer that the first eight bytes of the digest of a key spell. -/
def keyHash (key : Json) : Nat :=
  ((Sha1.digest (bytesOfText key.canonicalText)).take 8).foldl
    (fun value byte => 256 * value + byte.toNat) 0

/--
The modulus that a number names once its fraction is cut off: from `1` to
`2 ^ 64`.
-/
def modulus (number : Double) : Except ConditionError Nat :=
  match number with
  | .finite value =>
      if !value.isNegative && 1 ≤ value.wholePart &&
          value.wholePart ≤ 2 ^ 64 then
        .ok (min value.wholePart (2 ^ 64 - 1))
      else .error (.typeMismatch (.notAModulus number.truncate))
  | _ => .error (.typeMismatch (.notAModulus number))

/-- The bucket of a key among as many as the modulus says. -/
def bucketOf (scope : Scope) (argument : Node) : Evaluation Json := do
  let (first, second) ← Evaluation.ofExcept argument.twoArguments
  let key ← scope.evaluate first
  let number ← Evaluation.ofExcept (expectNumber (← scope.evaluate second))
  let buckets ← Evaluation.ofExcept (modulus number)
  return (Double.ofInt (keyHash key % buckets : Nat)).toJson

/-- The value at the path that the operands spell, null if there is none. -/
def lookupPath (scope : Scope) (argument : Node) : Evaluation Json := do
  let operands ← Evaluation.ofExcept argument.arguments
  let path ← scope.evaluateAll operands
  let found ← Evaluation.lookupContext path
  return found.getD .null

/-- The rule that carries out a built-in function. -/
def handler : Builtin → Handler
  | conjunction => fun scope call => do
      let operands ← Evaluation.ofExcept call.argument.arguments
      return .bool (← everyTruthy scope operands)
  | disjunction => fun scope call => do
      let operands ← Evaluation.ofExcept call.argument.arguments
      return .bool (← someTruthy scope operands)
  | negation => fun scope call => do
      let value ← scope.evaluate call.argument
      return .bool (!value.isTruthy)
  | conditional => fun scope call => do
      let operands ← Evaluation.ofExcept call.argument.arguments
      choose scope operands
  | context => fun scope call => lookupPath scope call.argument
  | greater => fun scope call =>
      compare (fun left right => right.lt left) scope call.argument
  | less => fun scope call => compare Double.lt scope call.argument
  | greaterOrEqual => fun scope call =>
      compare (fun left right => right.le left) scope call.argument
  | lessOrEqual => fun scope call => compare Double.le scope call.argument
  | equal => fun scope call => do
      let (first, second) ← Evaluation.ofExcept call.argument.twoArguments
      let left ← scope.evaluate first
      let right ← scope.evaluate second
      return .bool (left.deepEqual right)
  | bucket => fun scope call => bucketOf scope call.argument

@[simp]
theorem ofName?_name (builtin : Builtin) :
    ofName? builtin.name = some builtin := by
  cases builtin <;> rfl

end Builtin

/-- The registry of all built-in functions under their own names. -/
def Registry.builtins : Registry :=
  .ofList (Builtin.all.map fun builtin => (builtin.name, builtin.handler))

/-- An evaluator with all built-in functions and the standard nesting limit. -/
def Evaluator.standard : Evaluator :=
  .ofRegistry .builtins

end Criteria
