import Criteria.Error
import Criteria.Json.Equality

/-!
# Looking up a path

A path is a list of segments that leads into a value: a string segment picks
the member of an object, a number segment an item of an array.  A member or an
item that is not there ends the walk without an error, whatever segments
follow; a segment that does not fit the value it meets is a type error.
-/

namespace Criteria

/--
The position that a number stands for, if it is a whole number and not negative.
It need not fit 64 bits, nor is it cut down to fit them: no array in memory has
as many as `2 ^ 64` items, so that either position is past its end.
-/
def Number.position? (number : Number) : Option Nat :=
  match number.toDouble with
  | .finite value =>
      if value.isIntegral && 0 ≤ value.signedUnits then some value.wholePart
      else none
  | _ => none

namespace Json

/-- One step into a value. -/
def descend (value segment : Json) : Except ConditionError (Option Json) :=
  match segment, value with
  | .string key, .object members => .ok (members.lookup key)
  | .string key, other =>
      .error (.typeMismatch (.keyOutsideObject other.kind key))
  | .number index, .array items =>
      .ok (index.position?.bind fun position => items[position]?)
  | .number index, other =>
      .error (.typeMismatch (.positionOutsideArray other.kind index))
  | other, _ => .error (.typeMismatch (.notASegment other.kind))

/-- The value at the end of a path, if there is one. -/
def walk (root : Json) : List Json → Except ConditionError (Option Json)
  | [] => .ok (some root)
  | segment :: path => do
      match ← root.descend segment with
      | some next => next.walk path
      | none => return none

end Json

end Criteria
