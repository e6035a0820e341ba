import Criteria.Number.Digits
import Criteria.Number.Double

/-!
# Decimals

A decimal is an integer times a power of ten.  Reading one as a double rounds
correctly.  The other way round, `FiniteDouble.shortest` finds a decimal of
fewest digits that reads back as the double it is given: for one digit, two
digits and so on it tries the two neighbours of the exact value on the grid of
that many digits, and the first grid with a neighbour that reads back wins.
Seventeen digits always suffice; the exact expansion stands behind the search
so that the answer reads back whatever the search does.
-/

namespace Criteria

/-- An integer times a power of ten. -/
structure Decimal where
  digits : Nat
  exponent : Int
  deriving DecidableEq

/-- Which of two equally near neighbours is taken. -/
inductive TieRule where
  | upward
  | toEven
  deriving DecidableEq

/--
The double nearest to a decimal.  Two guards keep the powers of ten small: at
`10 ^ 400` everything is past the largest double, and a number below
`10 ^ (-400)` is nearest to zero.
-/
def Double.ofDecimal (isNegative : Bool) (decimal : Decimal) : Double :=
  if decimal.digits = 0 then .finite (.zero isNegative)
  else if 400 ≤ decimal.exponent then .infinite isNegative
  else if decimal.exponent ≤ -(decimal.digits.log2 + 401 : Int) then
    .finite (.zero isNegative)
  else if 0 ≤ decimal.exponent then
    .ofRatio isNegative (decimal.digits * 10 ^ decimal.exponent.toNat) 1
  else
    .ofRatio isNegative decimal.digits (10 ^ (-decimal.exponent).toNat)

/-- The greatest power of ten that is at most a positive integer. -/
def floorLog10 (number : Nat) : Nat :=
  if number < 10 then 0 else floorLog10 (number / 10) + 1
termination_by number

/-- A decimal without the zeros at the end of its digits. -/
def Decimal.trimmed (decimal : Decimal) : Decimal :=
  if decimal.digits ≠ 0 ∧ decimal.digits % 10 = 0 then
    Decimal.trimmed ⟨decimal.digits / 10, decimal.exponent + 1⟩
  else decimal
termination_by decimal.digits
decreasing_by
  rename_i divisible
  exact Nat.div_lt_self (Nat.pos_of_ne_zero divisible.1) (by decide)

/-- The power of ten of a decimal's first digit. -/
def Decimal.leadingExponent (decimal : Decimal) : Int :=
  decimal.exponent + floorLog10 decimal.digits

namespace FiniteDouble

/-- The power of ten of the first digit of a value that is not zero. -/
def leadingExponent (double : FiniteDouble) : Int :=
  if unitsPerOne ≤ double.units then floorLog10 (double.units / unitsPerOne)
  else -(floorLog10 ((unitsPerOne - 1) / double.units) + 1 : Nat)

/--
The exact quotient of an absolute value and a power of ten, as two integers.
-/
def quotientByPower (double : FiniteDouble) (exponent : Int) : Nat × Nat :=
  if 0 ≤ exponent then (double.units, unitsPerOne * 10 ^ exponent.toNat)
  else (double.units * 10 ^ (-exponent).toNat, unitsPerOne)

/-- Whether a decimal, under the sign of a double, reads as that double. -/
def isReadFrom (double : FiniteDouble) (decimal : Decimal) : Bool :=
  Double.ofDecimal double.isNegative decimal == .finite double

/--
The nearest neighbour on the grid of an exponent among those that read back.
-/
def neighbour? (rule : TieRule) (double : FiniteDouble) (exponent : Int) :
    Option Decimal :=
  let (numerator, denominator) := double.quotientByPower exponent
  let below : Decimal := ⟨numerator / denominator, exponent⟩
  let above : Decimal := ⟨numerator / denominator + 1, exponent⟩
  match double.isReadFrom below, double.isReadFrom above with
  | true, true =>
      let twice := 2 * (numerator % denominator)
      if twice < denominator then some below
      else if denominator < twice then some above
      else if rule = .toEven ∧ below.digits % 2 = 0 then some below
      else some above
  | true, false => some below
  | false, true => some above
  | false, false => none

/--
The exact value as a decimal: a unit is `5 ^ 1074` of the smallest grid's steps.
-/
def exactDecimal (double : FiniteDouble) : Decimal :=
  ⟨double.units * 5 ^ 1074, -1074⟩

/--
A decimal of fewest digits that reads back as the double, nearest to it among
those.
-/
def shortest (rule : TieRule) (double : FiniteDouble) : Decimal :=
  if double.isZero then ⟨0, 0⟩
  else
    let lead := double.leadingExponent
    let found := (List.range 17).findSome? fun extra =>
      neighbour? rule double (lead - (extra : Nat))
    (found.getD double.exactDecimal).trimmed

end FiniteDouble

end Criteria
