import Criteria.Number.Decimal

/-!
# Number styles

A number style says how a double is written: by which rule ties between its
shortest decimals go, for which powers of ten of the first digit the decimal
point is set in place, how wide an exponent is at least, and whether an
integer still shows a fraction.  One function writes in every style; the
styles in use are the constants of `NumberStyle`.
-/

namespace Criteria

/-- The decisions that fix the written form of a double. -/
structure NumberStyle where
  /-- Which of two equally near shortest decimals is written. -/
  tie : TieRule
  /-- Whether a leading power of ten is written with the point in place. -/
  isPositional : Int → Bool
  /-- The least number of digits of an exponent. -/
  exponentWidth : Nat
  /-- Whether an integer is written with a fraction of one zero. -/
  keepsFraction : Bool

namespace NumberStyle

/--
JSON text: positional from `0.00001` to below `10 ^ 16`, always with a fraction.
-/
def json : NumberStyle :=
  ⟨.toEven, fun lead => -5 ≤ lead && lead < 16, 1, true⟩

/-- Plain text: never an exponent. -/
def plain : NumberStyle :=
  ⟨.upward, fun _ => true, 1, false⟩

/-- Canonical keys: positional from `10 ^ (-6)` to below `10 ^ 21`. -/
def canonical : NumberStyle :=
  ⟨.upward, fun lead => -6 ≤ lead && lead < 21, 1, false⟩

/-- Labels of trees and tokens: six places at most, exponents of two digits. -/
def label : NumberStyle :=
  ⟨.upward, fun lead => -4 ≤ lead && lead < 6, 2, false⟩

/--
Digits with the decimal point in place; `lead` is the power of ten of the first
digit.
-/
def positional (keepsFraction : Bool) (digits : List Char) (lead : Int) :
    List Char :=
  if lead < 0 then
    '0' :: '.' :: (List.replicate (-lead - 1).toNat '0' ++ digits)
  else
    let places := lead.toNat + 1
    if digits.length ≤ places then
      digits ++ List.replicate (places - digits.length) '0' ++
        (if keepsFraction then ['.', '0'] else [])
    else digits.take places ++ '.' :: digits.drop places

/--
Digits with a point after the first and an exponent that always shows its sign.
-/
def scientific (exponentWidth : Nat) (digits : List Char) (lead : Int) :
    List Char :=
  let exponent := decimalDigits lead.natAbs
  let mantissa :=
    match digits with
    | first :: second :: rest => first :: '.' :: second :: rest
    | short => short
  mantissa ++ 'e' :: (if lead < 0 then '-' else '+') ::
    (List.replicate (exponentWidth - exponent.length) '0' ++ exponent)

/-- The written form of a finite double. -/
def writeFinite (style : NumberStyle) (double : FiniteDouble) : List Char :=
  let decimal := double.shortest style.tie
  let digits := decimalDigits decimal.digits
  let lead := decimal.leadingExponent
  (if double.isNegative then ['-'] else []) ++
    if style.isPositional lead then positional style.keepsFraction digits lead
    else scientific style.exponentWidth digits lead

/-- The written form of a double. -/
def write (style : NumberStyle) : Double → List Char
  | .finite value => style.writeFinite value
  | .infinite true => "-inf".toList
  | .infinite false => "inf".toList
  | .nan => "NaN".toList

end NumberStyle

end Criteria
