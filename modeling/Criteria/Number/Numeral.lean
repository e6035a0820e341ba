import Criteria.Number.Decimal

/-!
# Numerals

The written form of a number, kept apart into its pieces: an optional minus
sign, whole digits without a superfluous leading zero, fraction digits after a
point, and an exponent.  `Numeral.read?` takes the longest numeral at the head
of a text and refuses a text whose numeral breaks off or runs into another
digit; `Numeral.text` puts the pieces together again.
-/

namespace Criteria

/-- The exponent of a numeral: its mark, an optional sign and its digits. -/
structure Exponent where
  mark : Char
  sign : Option Char
  digits : List Char
  deriving DecidableEq

/--
The pieces of a written number; the fraction is empty when there is no point.
-/
structure Numeral where
  isNegative : Bool
  whole : List Char
  fraction : List Char
  exponent : Option Exponent
  deriving DecidableEq

namespace Exponent

/-- The written form of an exponent. -/
def text (exponent : Exponent) : List Char :=
  exponent.mark :: (exponent.sign.toList ++ exponent.digits)

/-- The integer an exponent stands for. -/
def value (exponent : Exponent) : Int :=
  if exponent.sign = some '-' then -(digitsValue exponent.digits : Int)
  else digitsValue exponent.digits

end Exponent

namespace Numeral

/-- The written form of a numeral. -/
def text (numeral : Numeral) : List Char :=
  (if numeral.isNegative then ['-'] else []) ++
    (numeral.whole ++
      ((if numeral.fraction = [] then [] else '.' :: numeral.fraction) ++
        (numeral.exponent.map Exponent.text).getD []))

/-- Reads a minus sign, if there is one. -/
def readSign : List Char → Bool × List Char
  | '-' :: rest => (true, rest)
  | text => (false, text)

/-- Reads whole digits: a lone zero, or a run that starts with another digit. -/
def readWhole? : List Char → Option (List Char × List Char)
  | [] => none
  | '0' :: rest =>
      if rest.head?.any Char.isDigit then none else some (['0'], rest)
  | digit :: rest =>
      if digit.isDigit then
        some (digit :: rest.takeWhile Char.isDigit, rest.dropWhile Char.isDigit)
      else none

/-- Reads a point and the digits after it, of which there must be one. -/
def readFraction? : List Char → Option (List Char × List Char)
  | '.' :: rest =>
      match rest.takeWhile Char.isDigit with
      | [] => none
      | digits => some (digits, rest.dropWhile Char.isDigit)
  | text => some ([], text)

/-- Reads the sign of an exponent, if there is one. -/
def readExponentSign : List Char → Option Char × List Char
  | '+' :: rest => (some '+', rest)
  | '-' :: rest => (some '-', rest)
  | text => (none, text)

/-- Reads the sign and the digits of an exponent, of which there must be one. -/
def readExponentTail? (mark : Char) (text : List Char) :
    Option (Exponent × List Char) :=
  let (sign, text) := readExponentSign text
  match text.takeWhile Char.isDigit with
  | [] => none
  | digits => some (⟨mark, sign, digits⟩, text.dropWhile Char.isDigit)

/-- Reads an exponent, if there is a mark of one. -/
def readExponent? : List Char → Option (Option Exponent × List Char)
  | [] => some (none, [])
  | mark :: rest =>
      if mark = 'e' ∨ mark = 'E' then
        (readExponentTail? mark rest).map fun (exponent, rest) =>
          (some exponent, rest)
      else some (none, mark :: rest)

/-- Reads the numeral at the head of a text. -/
def read? (text : List Char) : Option (Numeral × List Char) := do
  let (isNegative, text) := readSign text
  let (whole, text) ← readWhole? text
  let (fraction, text) ← readFraction? text
  let (exponent, text) ← readExponent? text
  return (⟨isNegative, whole, fraction, exponent⟩, text)

/-- The power of ten that the exponent names, zero when there is none. -/
def exponentValue (numeral : Numeral) : Int :=
  (numeral.exponent.map Exponent.value).getD 0

/-- The absolute value of a numeral, exactly. -/
def decimal (numeral : Numeral) : Decimal :=
  ⟨digitsValue (numeral.whole ++ numeral.fraction),
    numeral.exponentValue - numeral.fraction.length⟩

/-- The double nearest to the number that a numeral writes. -/
def toDouble (numeral : Numeral) : Double :=
  .ofDecimal numeral.isNegative numeral.decimal

theorem text_readSign (text : List Char) :
    (if (readSign text).1 then ['-'] else []) ++ (readSign text).2 = text := by
  unfold readSign
  split <;> simp

theorem text_readWhole?
    {text whole rest : List Char}
    (read : readWhole? text = some (whole, rest)) :
    whole ++ rest = text ∧ whole ≠ [] := by
  unfold readWhole? at read
  split at read
  · simp at read
  · split at read
    · simp at read
    · simp only [Option.some.injEq, Prod.mk.injEq] at read
      obtain ⟨rfl, rfl⟩ := read
      simp
  · split at read
    · simp only [Option.some.injEq, Prod.mk.injEq] at read
      obtain ⟨rfl, rfl⟩ := read
      simp [List.takeWhile_append_dropWhile]
    · simp at read

theorem text_readFraction?
    {text fraction rest : List Char}
    (read : readFraction? text = some (fraction, rest)) :
    (if fraction = [] then [] else '.' :: fraction) ++ rest = text := by
  unfold readFraction? at read
  split at read
  · split at read
    · simp at read
    · rename_i noDigits
      simp only [Option.some.injEq, Prod.mk.injEq] at read
      obtain ⟨rfl, rfl⟩ := read
      rw [if_neg (fun empty => noDigits empty)]
      simp [List.takeWhile_append_dropWhile]
  · simp only [Option.some.injEq, Prod.mk.injEq] at read
    obtain ⟨rfl, rfl⟩ := read
    simp

theorem text_readExponentSign (text : List Char) :
    (readExponentSign text).1.toList ++ (readExponentSign text).2 = text := by
  unfold readExponentSign
  split <;> simp

theorem text_readExponentTail?
    {mark : Char} {text rest : List Char} {exponent : Exponent}
    (read : readExponentTail? mark text = some (exponent, rest)) :
    exponent.text ++ rest = mark :: text := by
  unfold readExponentTail? at read
  simp only at read
  split at read
  · simp at read
  · simp only [Option.some.injEq, Prod.mk.injEq] at read
    obtain ⟨rfl, rfl⟩ := read
    have signed := text_readExponentSign text
    simp only [Exponent.text, List.cons_append, List.append_assoc,
      List.takeWhile_append_dropWhile, signed]

theorem text_readExponent?
    {text rest : List Char} {exponent : Option Exponent}
    (read : readExponent? text = some (exponent, rest)) :
    (exponent.map Exponent.text).getD [] ++ rest = text := by
  unfold readExponent? at read
  split at read
  · simp only [Option.some.injEq, Prod.mk.injEq] at read
    obtain ⟨rfl, rfl⟩ := read
    simp
  · split at read
    · simp only [Option.map_eq_some_iff] at read
      obtain ⟨⟨found, tail⟩, tailRead, equal⟩ := read
      simp only [Prod.mk.injEq] at equal
      obtain ⟨rfl, rfl⟩ := equal
      simpa using text_readExponentTail? tailRead
    · simp only [Option.some.injEq, Prod.mk.injEq] at read
      obtain ⟨rfl, rfl⟩ := read
      simp

/-- A numeral and the text after it make up the text it was read from. -/
theorem text_read?
    {text rest : List Char} {numeral : Numeral}
    (read : read? text = some (numeral, rest)) :
    numeral.text ++ rest = text := by
  simp only [read?, Option.bind_eq_bind, Option.bind_eq_some_iff,
    Option.pure_def, Option.some.injEq, Prod.mk.injEq] at read
  obtain ⟨⟨whole, text₂⟩, wholeRead, ⟨fraction, text₃⟩, fractionRead,
    ⟨exponent, text₄⟩, exponentRead, rfl, rfl⟩ := read
  have signed := text_readSign text
  have whole := (text_readWhole? wholeRead).1
  have fraction := text_readFraction? fractionRead
  have exponent := text_readExponent? exponentRead
  simp only [Numeral.text, List.append_assoc, exponent, fraction, whole, signed]

/-- A numeral takes at least one character. -/
theorem read?_shorter
    {text rest : List Char} {numeral : Numeral}
    (read : read? text = some (numeral, rest)) :
    rest.length < text.length := by
  have whole := text_read? read
  simp only [read?, Option.bind_eq_bind, Option.bind_eq_some_iff,
    Option.pure_def, Option.some.injEq, Prod.mk.injEq] at read
  obtain ⟨⟨wholeDigits, text₂⟩, wholeRead, _, _, _, _, rfl, rfl⟩ := read
  have nonempty := List.length_pos_iff.mpr (text_readWhole? wholeRead).2
  rw [← whole]
  simp only [Numeral.text, List.length_append]
  omega

end Numeral

end Criteria
