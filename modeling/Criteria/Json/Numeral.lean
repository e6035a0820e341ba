import Criteria.Json.Basic
import Criteria.Number.Numeral

/-!
# JSON numbers from numerals

Reading a JSON number is deliberately cheaper than rounding correctly.  An
integer within range stays exact.  Any other numeral becomes a 64 bit
significand, from which the digits that no longer fit are dropped, and a power
of ten; the significand is rounded to a double and then multiplied or divided
by the double nearest to that power, which may round once more.
-/

namespace Criteria

/-- The first number past the range of significands. -/
def significandBound : Nat := 2 ^ 64

/--
Appends digits to a significand as long as it fits; returns the digits left
over.
-/
def appendDigits (significand : Nat) : List Char → Nat × List Char
  | [] => (significand, [])
  | digit :: digits =>
      let extended := 10 * significand + digitValue digit
      if extended < significandBound then appendDigits extended digits
      else (significand, digit :: digits)

/-- The double nearest to a power of ten. -/
def powerOfTen (exponent : Nat) : Double :=
  .ofInt (10 ^ exponent : Nat)

/-- The product of two doubles if all three are finite. -/
def product? (left right : Double) : Option FiniteDouble := do
  let left ← left.finite?
  let right ← right.finite?
  (left.scaledBy right).finite?

/-- The quotient of two doubles if all three are finite. -/
def quotient? (left right : Double) : Option FiniteDouble := do
  let left ← left.finite?
  let right ← right.finite?
  (left.dividedBy right).finite?

/-- The greatest power of ten that is a double. -/
def greatestPower : Nat := 308

/-- A double divided by the greatest power of ten. -/
def stepDown? (value : FiniteDouble) : Option FiniteDouble :=
  quotient? (.finite value) (powerOfTen greatestPower)

/--
A double times a power of ten, in steps of at most 308 powers downward; none
if the result, or the power itself, is too large.
-/
def scaleByPower? (value : FiniteDouble) (exponent : Int) :
    Option FiniteDouble :=
  if exponent.natAbs ≤ greatestPower then
    if 0 ≤ exponent then product? (.finite value) (powerOfTen exponent.natAbs)
    else quotient? (.finite value) (powerOfTen exponent.natAbs)
  else if value.isZero then some value
  else if 0 < exponent then none
  else (stepDown? value).bind fun smaller =>
    scaleByPower? smaller (exponent + greatestPower)
termination_by exponent.natAbs
decreasing_by
  unfold greatestPower at *
  omega

/-- A double under another sign. -/
def FiniteDouble.withSign (isNegative : Bool) (value : FiniteDouble) :
    FiniteDouble :=
  { value with isNegative := isNegative }

/--
The number of a significand, a power of ten and a sign, if it is in range.
-/
def Number.ofSignificand?
    (isNegative : Bool) (significand : Nat) (exponent : Int) :
    Option Number := do
  let value ← (Double.ofInt significand).finite?
  let scaled ← scaleByPower? value exponent
  return .float (scaled.withSign isNegative)

/--
The integer with a given sign and absolute value, if it is in range; minus zero
is not.
-/
def Number.ofInteger? (isNegative : Bool) (magnitude : Nat) : Option Number :=
  if isNegative then
    if bounds : 0 < magnitude ∧ magnitude ≤ 2 ^ 63 then
      some (.integer (-(magnitude : Int)) (by omega))
    else none
  else if bounds : magnitude < 2 ^ 64 then
    some (.integer magnitude (by omega))
  else none

/-- The number that a numeral writes in JSON text, if it is in range. -/
def Numeral.toNumber? (numeral : Numeral) : Option Number :=
  let (significand, droppedWhole) := appendDigits 0 numeral.whole
  let (extended, droppedFraction) := appendDigits significand numeral.fraction
  let kept := numeral.fraction.length - droppedFraction.length
  let exponent := numeral.exponentValue + droppedWhole.length - kept
  let isInteger :=
    numeral.fraction.isEmpty && numeral.exponent.isNone && droppedWhole.isEmpty
  match isInteger, Number.ofInteger? numeral.isNegative significand with
  | true, some number => some number
  | _, _ => Number.ofSignificand? numeral.isNegative extended exponent

end Criteria
