import Criteria.Json.Basic

/-!
# Equality of JSON values

Two values are equal when they have the same shape, the same strings and
flags, and numbers of the same double value; so `1` equals `1.0`, and two
integers that round to one double are equal.  Values of different kinds never
are.
-/

namespace Criteria

/-- Two numbers are equal when they round to the same double value. -/
def Number.sameValue (left right : Number) : Bool :=
  left.toDouble.sameValue right.toDouble

namespace Json

mutual

/-- Deep equality of values. -/
def deepEqual : Json → Json → Bool
  | .null, .null => true
  | .bool left, .bool right => left == right
  | .number left, .number right => left.sameValue right
  | .string left, .string right => left == right
  | .array left, .array right => itemsEqual left right
  | .object left, .object right => membersEqual left right
  | _, _ => false

/-- Items are equal one by one, and as many on both sides. -/
def itemsEqual : List Json → List Json → Bool
  | [], [] => true
  | left :: lefts, right :: rights =>
      deepEqual left right && itemsEqual lefts rights
  | _, _ => false

/-- Members have the same keys, in their common order, and equal values. -/
def membersEqual : List (String × Json) → List (String × Json) → Bool
  | [], [] => true
  | (leftKey, left) :: lefts, (rightKey, right) :: rights =>
      leftKey == rightKey && deepEqual left right && membersEqual lefts rights
  | _, _ => false

end

end Json

end Criteria
