/-!
# Digits

Runs of digit characters and the numbers they spell.  A run is read most
significant digit first; the empty run spells zero.
-/

namespace Criteria

/-- The value of a decimal digit character. -/
def digitValue (digit : Char) : Nat :=
  digit.toNat - '0'.toNat

/-- The number that a run of decimal digits spells. -/
def digitsValue (digits : List Char) : Nat :=
  digits.foldl (fun value digit => 10 * value + digitValue digit) 0

@[simp]
theorem digitsValue_nil : digitsValue [] = 0 := rfl

/-- The decimal digits of a number, without leading zeros. -/
def decimalDigits (number : Nat) : List Char :=
  Nat.toDigits 10 number

/-- The value of a hexadecimal digit character, in either case. -/
def hexValue? (digit : Char) : Option Nat :=
  if '0' ≤ digit ∧ digit ≤ '9' then some (digit.toNat - '0'.toNat)
  else if 'a' ≤ digit ∧ digit ≤ 'f' then some (digit.toNat - 'a'.toNat + 10)
  else if 'A' ≤ digit ∧ digit ≤ 'F' then some (digit.toNat - 'A'.toNat + 10)
  else none

/--
The hexadecimal digits of a number in lower case, padded with zeros to `width`.
-/
def hexDigits (width number : Nat) : List Char :=
  let digits := Nat.toDigits 16 number
  List.replicate (width - digits.length) '0' ++ digits

/--
The first four characters as one hexadecimal number, with the text after them.
-/
def readHexQuad? : List Char → Option (Nat × List Char)
  | first :: second :: third :: fourth :: rest => do
      let first ← hexValue? first
      let second ← hexValue? second
      let third ← hexValue? third
      let fourth ← hexValue? fourth
      return (((first * 16 + second) * 16 + third) * 16 + fourth, rest)
  | _ => none

theorem readHexQuad?_length
    {text rest : List Char} {code : Nat}
    (read : readHexQuad? text = some (code, rest)) :
    rest.length + 4 = text.length := by
  unfold readHexQuad? at read
  split at read
  · simp only [Option.bind_eq_bind, Option.bind_eq_some_iff, Option.pure_def,
      Option.some.injEq, Prod.mk.injEq] at read
    obtain ⟨_, _, _, _, _, _, _, _, _, rfl⟩ := read
    simp
  · simp at read

end Criteria
