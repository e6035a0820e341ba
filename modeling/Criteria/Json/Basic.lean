import Criteria.Number.Double

/-!
# JSON values

The values that conditions compute with.  A number is either an integer of
the range `-2 ^ 63` to `2 ^ 64 - 1` or a finite double; which of the two it is
shows only when the value is written.  The members of an object stand in
strictly increasing order of their keys, which `Json.Ordered` states.
-/

namespace Criteria

/-- A JSON number: an integer within range or a finite double. -/
inductive Number where
  | integer (value : Int) (inRange : -2 ^ 63 ≤ value ∧ value < 2 ^ 64)
  | float (value : FiniteDouble)
  deriving DecidableEq

/-- A JSON value. -/
inductive Json where
  | null
  | bool (value : Bool)
  | number (value : Number)
  | string (value : String)
  | array (items : List Json)
  | object (members : List (String × Json))

namespace Number

/--
The double that a number is compared as: an integer is rounded to the nearest.
-/
def toDouble : Number → Double
  | .integer value _ => .ofInt value
  | .float value => .finite value

end Number

theorem FiniteDouble.truncated_inRange
    {double : FiniteDouble} (small : double.wholePart ≤ 2 ^ 53) :
    -2 ^ 63 ≤ double.truncated ∧ double.truncated < 2 ^ 64 := by
  unfold FiniteDouble.truncated
  split <;> omega

/--
The value of a double: an integer if it is integral and at most `2 ^ 53` in
magnitude, null if it is not finite, and itself otherwise.
-/
def Double.toJson : Double → Json
  | .finite value =>
      if small : value.isIntegral = true ∧ value.wholePart ≤ 2 ^ 53 then
        .number
          (.integer value.truncated (FiniteDouble.truncated_inRange small.2))
      else .number (.float value)
  | .infinite _ | .nan => .null

namespace Json

/-- The kinds of values that messages distinguish. -/
inductive Kind where
  | null
  | bool
  | number
  | string
  | array
  | object
  deriving DecidableEq

/-- The name of a kind. -/
def Kind.name : Kind → String
  | .null => "null"
  | .bool => "bool"
  | .number => "number"
  | .string => "string"
  | .array => "array"
  | .object => "object"

/-- The kind of a value. -/
def kind : Json → Kind
  | .null => .null
  | .bool _ => .bool
  | .number _ => .number
  | .string _ => .string
  | .array _ => .array
  | .object _ => .object

/-- Whether a value counts as true: all values do except null and false. -/
def isTruthy : Json → Bool
  | .null => false
  | .bool value => value
  | _ => true

mutual

/--
Every object within a value has its members in strictly increasing order of
keys.
-/
def Ordered : Json → Prop
  | .array items => ItemsOrdered items
  | .object members =>
      members.Pairwise (fun first second => first.1 < second.1) ∧
        MembersOrdered members
  | _ => True

/-- Every item is ordered. -/
def ItemsOrdered : List Json → Prop
  | [] => True
  | item :: items => Ordered item ∧ ItemsOrdered items

/-- The value of every member is ordered. -/
def MembersOrdered : List (String × Json) → Prop
  | [] => True
  | (_, value) :: members => Ordered value ∧ MembersOrdered members

end

end Json

end Criteria
