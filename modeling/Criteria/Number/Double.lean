import Criteria.Number.Power

/-!
# Double precision numbers

A number of a condition is a binary floating point number of 64 bits.  It is
kept here as exact data, so that every question about it is a question about
integers: a finite double is a sign together with the place of its absolute
value in the increasing list of all finite absolute values.

That place is the pattern of the low 63 bits.  The absolute value itself is
`units * 2 ^ (-1074)`, where the number of units is an integer; all rounding
goes through `Double.ofRatio`, which takes an exact quotient of integers to
the nearest double, ties going to the even pattern.
-/

namespace Criteria

/-- The first pattern above all finite absolute values. -/
def infinityPattern : Nat := 2047 * 2 ^ 52

/-- How many units make one: every finite double is a whole number of units. -/
def unitsPerOne : Nat := 2 ^ 1074

/-- A finite double: a sign and the pattern of its absolute value. -/
structure FiniteDouble where
  isNegative : Bool
  pattern : Nat
  pattern_lt : pattern < infinityPattern
  deriving DecidableEq

/-- A double: finite, infinite with a sign, or not a number. -/
inductive Double where
  | finite (value : FiniteDouble)
  | infinite (isNegative : Bool)
  | nan
  deriving DecidableEq

/-- The absolute value, in units, that a pattern stands for. -/
def patternUnits (pattern : Nat) : Nat :=
  if pattern < 2 ^ 52 then pattern
  else (2 ^ 52 + pattern % 2 ^ 52) * 2 ^ (pattern / 2 ^ 52 - 1)

/--
A quotient rounded to the nearest integer, a half going to the even neighbour.
-/
def roundHalfEven (numerator denominator : Nat) : Nat :=
  let quotient := numerator / denominator
  let remainder := numerator % denominator
  if 2 * remainder < denominator then quotient
  else if denominator < 2 * remainder then quotient + 1
  else quotient + quotient % 2

/--
The pattern nearest to a quotient of integers.  Of the quotient in units, as
many low bits are dropped as leave 53; a carry out of the 53 bits lands on
the next pattern by itself.
-/
def nearestPattern (numerator denominator : Nat) : Nat :=
  let scaled := numerator * unitsPerOne
  let dropped := (scaled / denominator).log2 - 52
  roundHalfEven scaled (denominator * 2 ^ dropped) + dropped * 2 ^ 52

/--
The double with a given sign and pattern; patterns past the finite ones are
infinite.
-/
def Double.ofPattern (isNegative : Bool) (pattern : Nat) : Double :=
  if finite : pattern < infinityPattern then
    .finite ⟨isNegative, pattern, finite⟩
  else .infinite isNegative

/--
The double nearest to a quotient of integers; past the largest double it is
infinite.
-/
def Double.ofRatio (isNegative : Bool) (numerator denominator : Nat) : Double :=
  .ofPattern isNegative (nearestPattern numerator denominator)

/-- The double nearest to an integer. -/
def Double.ofInt (value : Int) : Double :=
  .ofRatio (value < 0) value.natAbs 1

namespace FiniteDouble

/-- Zero with a given sign. -/
def zero (isNegative : Bool) : FiniteDouble :=
  ⟨isNegative, 0, by decide⟩

/-- The absolute value in units. -/
def units (double : FiniteDouble) : Nat :=
  patternUnits double.pattern

/-- The value in units, with its sign; both zeros are zero. -/
def signedUnits (double : FiniteDouble) : Int :=
  if double.isNegative then -(double.units : Int) else double.units

/-- Whether the value is zero, of either sign. -/
def isZero (double : FiniteDouble) : Bool :=
  double.pattern == 0

/-- Whether the value is an integer. -/
def isIntegral (double : FiniteDouble) : Bool :=
  double.units % unitsPerOne == 0

/-- The absolute value with its fraction cut off. -/
def wholePart (double : FiniteDouble) : Nat :=
  double.units / unitsPerOne

/-- The value with its fraction cut off, as a signed integer. -/
def truncated (double : FiniteDouble) : Int :=
  if double.isNegative then -(double.wholePart : Int) else double.wholePart

/-- Whether one value is at most another. -/
def le (left right : FiniteDouble) : Bool :=
  left.signedUnits ≤ right.signedUnits

/-- Whether one value is below another. -/
def lt (left right : FiniteDouble) : Bool :=
  left.signedUnits < right.signedUnits

/-- Equality of values: the two zeros are equal. -/
def sameValue (left right : FiniteDouble) : Bool :=
  left.signedUnits == right.signedUnits

/-- The product of two absolute values, rounded, under a given sign. -/
def scaledBy (left right : FiniteDouble) : Double :=
  .ofRatio (left.isNegative != right.isNegative)
    (left.units * right.units) (unitsPerOne * unitsPerOne)

/-- The quotient of two absolute values, rounded; the divisor is not zero. -/
def dividedBy (left right : FiniteDouble) : Double :=
  .ofRatio (left.isNegative != right.isNegative) left.units right.units

end FiniteDouble

namespace Double

/-- The finite double that a double is, if it is one. -/
def finite? : Double → Option FiniteDouble
  | .finite value => some value
  | .infinite _ | .nan => none

/--
Equality of values: the two zeros are equal and not-a-number equals nothing.
-/
def sameValue : Double → Double → Bool
  | .finite left, .finite right => left.sameValue right
  | .infinite left, .infinite right => left == right
  | _, _ => false

/-- The double with its fraction cut off; the sign stays. -/
def truncate : Double → Double
  | .finite value => .ofRatio value.isNegative value.wholePart 1
  | other => other

/-- Whether one double is below another; not-a-number is below nothing. -/
def lt : Double → Double → Bool
  | .finite left, .finite right => left.lt right
  | .finite _, .infinite isNegative => !isNegative
  | .infinite isNegative, .finite _ => isNegative
  | .infinite left, .infinite right => left && !right
  | _, _ => false

/-- Whether one double is at most another. -/
def le (left right : Double) : Bool :=
  left.lt right || left.sameValue right

/-- The double that 64 bits encode: a sign bit above the pattern. -/
def ofBits (bits : Nat) : Double :=
  let isNegative := bits / 2 ^ 63 % 2 == 1
  let pattern := bits % 2 ^ 63
  if infinityPattern < pattern then .nan else .ofPattern isNegative pattern

/-- The 64 bits that encode a double. -/
def toBits : Double → Nat
  | .finite value => (if value.isNegative then 2 ^ 63 else 0) + value.pattern
  | .infinite isNegative => (if isNegative then 2 ^ 63 else 0) + infinityPattern
  | .nan => infinityPattern + 2 ^ 51

end Double

end Criteria
