import Criteria.Error

/-!
# Positional arguments

A function that takes several operands takes them as an array.  These
functions read the operands off its argument.
-/

namespace Criteria.Node

/-- The operands of a function whose argument is an array. -/
def arguments : Node → Except ConditionError (List Node)
  | .array elements => .ok elements
  | other => .error (.typeMismatch (.notAnArray other.kind))

/-- The operands of a function that takes an exact number of them. -/
def exactArguments (count : Nat) (argument : Node) :
    Except ConditionError (List Node) := do
  let operands ← argument.arguments
  if operands.length = count then return operands
  else .error (.arity (.exactly count) operands.length)

@[simp]
theorem arguments_array (elements : List Node) :
    (array elements).arguments = .ok elements := rfl

/-- Both operands of a function that takes two. -/
def twoArguments (argument : Node) : Except ConditionError (Node × Node) := do
  match ← argument.arguments with
  | [first, second] => return (first, second)
  | operands => .error (.arity (.exactly 2) operands.length)

end Criteria.Node
