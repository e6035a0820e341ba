import Criteria.Number.Decimal

/-!
# What a plain scalar stands for

A scalar without quotes may be read as null, as a flag or as a number.  These
readers decide which texts are; everything else is a string.
-/

namespace Criteria.Yaml

/-- The spellings of null. -/
def isNull (text : List Char) : Bool :=
  ["", "~", "null", "Null", "NULL"].any fun word => word.toList == text

/-- The spellings of the two flags. -/
def isFlag (text : List Char) : Bool :=
  ["true", "True", "TRUE", "false", "False", "FALSE"].any fun word =>
    word.toList == text

/--
The digits of a number in some base, all of which must be digits of that base.
-/
def readBase? (base : Nat) (digits : List Char) : Option Nat :=
  if digits.isEmpty then none
  else
    digits.foldlM
      (fun value digit => do
        let next ← hexValue? digit
        if next < base then some (base * value + next) else none)
      0

/-- Whether decimal digits start with a zero that another digit follows. -/
def hasLeadingZero : List Char → Bool
  | '0' :: digit :: digits => (digit :: digits).all Char.isDigit
  | _ => false

/-- An unsigned integer: decimal, or in base 16, 8 or 2 behind its mark. -/
def readNatural? : List Char → Option Nat
  | '0' :: 'x' :: digits => readBase? 16 digits
  | '0' :: 'o' :: digits => readBase? 8 digits
  | '0' :: 'b' :: digits => readBase? 2 digits
  | digits => if hasLeadingZero digits then none else readBase? 10 digits

/-- An unsigned integer with an optional plus sign. -/
def readUnsigned? : List Char → Option Nat
  | '+' :: digits => readNatural? digits
  | digits => readNatural? digits

/-- A text without the sign in front of it. -/
def dropSign : List Char → List Char
  | '+' :: rest => rest
  | '-' :: rest => rest
  | text => text

/-- The exponent at the end of a number, if the text is one or is empty. -/
def readExponent? : List Char → Option Int
  | [] => some 0
  | mark :: rest =>
      let digits := dropSign rest
      if (mark = 'e' ∨ mark = 'E') ∧ digits ≠ [] ∧ digits.all Char.isDigit then
        some
          (if rest.head? = some '-' then -(digitsValue digits : Int)
          else digitsValue digits)
      else none

/-- Whether a text without a sign is a decimal number with a finite value. -/
def isDecimal (text : List Char) : Bool :=
  let whole := text.takeWhile Char.isDigit
  let afterWhole := text.dropWhile Char.isDigit
  let (fraction, afterFraction) :=
    match afterWhole with
    | '.' :: rest => (rest.takeWhile Char.isDigit, rest.dropWhile Char.isDigit)
    | rest => ([], rest)
  match whole ++ fraction, readExponent? afterFraction with
  | [], _ => false
  | digits, some exponent =>
      (Double.ofDecimal false
        ⟨digitsValue digits, exponent - fraction.length⟩).finite?.isSome
  | _, none => false

/-- The largest number that an integer of 128 bits may have behind a sign. -/
def largestInteger (negative : Bool) : Nat :=
  if negative then 2 ^ 127 else 2 ^ 128 - 1

/-- Whether a text is a number, of any form that YAML has for one. -/
def isNumber (text : List Char) : Bool :=
  let unsigned := dropSign text
  (readNatural? unsigned).any (· ≤ largestInteger (text.head? == some '-')) ||
    isDecimal unsigned ||
    [".inf", ".Inf", ".INF"].any (fun word => word.toList == unsigned) ||
    [".nan", ".NaN", ".NAN"].any (fun word => word.toList == text)

/-- Whether a plain scalar is read as a string. -/
def isString (text : List Char) : Bool :=
  !(isNull text || isFlag text || isNumber text)

end Criteria.Yaml
