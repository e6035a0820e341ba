import Criteria.Number.Numeral

/-!
# Well-formed numerals

The pieces of a numeral make up a number of the JSON grammar exactly when they
are well formed.  Reading takes well-formed numerals only, and it takes every
well-formed numeral whole, provided that the text behind it does not go on
with a digit, a point or the mark of an exponent.
-/

namespace Criteria

/-! ## Runs of a class -/

/-- No text goes on with a character of a class. -/
def StopsAt (inClass : Char → Bool) (rest : List Char) : Prop :=
  ∀ character ∈ rest.head?, inClass character = false

@[simp]
theorem stopsAt_nil (inClass : Char → Bool) : StopsAt inClass [] := by
  intro character member
  cases member

@[simp]
theorem stopsAt_cons {inClass : Char → Bool} {character : Char}
    {rest : List Char} :
    StopsAt inClass (character :: rest) ↔ inClass character = false := by
  simp [StopsAt]

theorem StopsAt.mono
    {narrow wide : Char → Bool} {rest : List Char}
    (within : ∀ character, narrow character = true → wide character = true)
    (stops : StopsAt wide rest) :
    StopsAt narrow rest := by
  intro character member
  have outside := stops character member
  refine Bool.eq_false_iff.mpr fun inside => ?_
  rw [within character inside] at outside
  cases outside

theorem takeWhile_append_of_stopsAt
    {inClass : Char → Bool} {run rest : List Char}
    (inside : ∀ character ∈ run, inClass character = true)
    (stops : StopsAt inClass rest) :
    (run ++ rest).takeWhile inClass = run := by
  rw [List.takeWhile_append_of_pos inside]
  cases rest with
  | nil => simp
  | cons character rest =>
      have outside := stopsAt_cons.mp stops
      simp [outside]

theorem dropWhile_append_of_stopsAt
    {inClass : Char → Bool} {run rest : List Char}
    (inside : ∀ character ∈ run, inClass character = true)
    (stops : StopsAt inClass rest) :
    (run ++ rest).dropWhile inClass = rest := by
  rw [List.dropWhile_append_of_pos inside]
  cases rest with
  | nil => rfl
  | cons character rest =>
      have outside := stopsAt_cons.mp stops
      simp [outside]

theorem stopsAt_dropWhile (inClass : Char → Bool) (text : List Char) :
    StopsAt inClass (text.dropWhile inClass) := by
  intro character member
  have found := List.head?_dropWhile_not inClass text
  rw [Option.mem_def.mp member] at found
  simpa using found

/-! ## Well-formed pieces -/

/--
An exponent has one of the two marks, perhaps a sign, and at least one digit.
-/
structure Exponent.WellFormed (exponent : Exponent) : Prop where
  mark : exponent.mark = 'e' ∨ exponent.mark = 'E'
  sign : exponent.sign = none ∨ exponent.sign = some '+' ∨
    exponent.sign = some '-'
  nonempty : exponent.digits ≠ []
  digits : ∀ digit ∈ exponent.digits, digit.isDigit = true

/--
A numeral has at least one whole digit, a leading zero only if that is its one
whole digit, and a well-formed exponent if any.
-/
structure Numeral.WellFormed (numeral : Numeral) : Prop where
  nonempty : numeral.whole ≠ []
  whole : ∀ digit ∈ numeral.whole, digit.isDigit = true
  leading : numeral.whole.head? = some '0' → numeral.whole = ['0']
  fraction : ∀ digit ∈ numeral.fraction, digit.isDigit = true
  exponent : ∀ exponent ∈ numeral.exponent, exponent.WellFormed

namespace Numeral

/-- Whether a character goes on with a numeral. -/
def goesOn (character : Char) : Bool :=
  character.isDigit || character == '.' || character == 'e' || character == 'E'

theorem goesOn_of_isDigit {character : Char}
    (digit : character.isDigit = true) :
    goesOn character = true := by
  simp [goesOn, digit]

/-! ## Reading takes well-formed numerals whole -/

theorem readSign_append
    (isNegative : Bool)
    {rest : List Char}
    (notSign : rest.head? ≠ some '-') :
    readSign ((if isNegative then ['-'] else []) ++ rest) =
      (isNegative, rest) := by
  cases isNegative with
  | true => rfl
  | false =>
      simp only [Bool.false_eq_true, if_false, List.nil_append]
      unfold readSign
      split
      · simp at notSign
      · rfl

theorem readWhole?_append
    {whole rest : List Char}
    (nonempty : whole ≠ [])
    (digits : ∀ digit ∈ whole, digit.isDigit = true)
    (leading : whole.head? = some '0' → whole = ['0'])
    (stops : StopsAt Char.isDigit rest) :
    readWhole? (whole ++ rest) = some (whole, rest) := by
  cases whole with
  | nil => exact absurd rfl nonempty
  | cons first others =>
      have firstDigit := digits first List.mem_cons_self
      have otherDigits : ∀ digit ∈ others, digit.isDigit = true :=
        fun digit member => digits digit (List.mem_cons_of_mem _ member)
      by_cases zero : first = '0'
      · subst zero
        have alone : others = [] := by simpa using leading rfl
        subst alone
        have notDigit : rest.head?.any Char.isDigit = false := by
          rw [Option.any_eq_false]
          intro character member
          simpa using stops character member
        simp [readWhole?, notDigit]
      · rw [List.cons_append]
        unfold readWhole?
        split
        · rename_i equal
          cases equal
        · rename_i equal
          cases equal
          exact absurd rfl zero
        · rename_i equal
          cases equal
          rw [if_pos firstDigit, takeWhile_append_of_stopsAt otherDigits stops,
            dropWhile_append_of_stopsAt otherDigits stops]

theorem readFraction?_append
    {fraction rest : List Char}
    (digits : ∀ digit ∈ fraction, digit.isDigit = true)
    (stops : StopsAt Char.isDigit rest)
    (noPoint : rest.head? ≠ some '.') :
    readFraction? ((if fraction = [] then [] else '.' :: fraction) ++ rest) =
      some (fraction, rest) := by
  by_cases empty : fraction = []
  · subst empty
    rw [if_pos rfl, List.nil_append]
    unfold readFraction?
    split
    · simp at noPoint
    · rfl
  · rw [if_neg empty, List.cons_append]
    unfold readFraction?
    simp only
    rw [takeWhile_append_of_stopsAt digits stops,
      dropWhile_append_of_stopsAt digits stops]
    split
    · exact absurd rfl empty
    · rfl

theorem readExponentSign_append
    {sign : Option Char} {rest : List Char}
    (known : sign = none ∨ sign = some '+' ∨ sign = some '-')
    (digit : ∃ first others, rest = first :: others ∧ first.isDigit = true) :
    readExponentSign (sign.toList ++ rest) = (sign, rest) := by
  rcases digit with ⟨first, others, rfl, firstDigit⟩
  rcases known with rfl | rfl | rfl
  · rw [Option.toList_none, List.nil_append]
    unfold readExponentSign
    split
    · rename_i equal
      cases equal
      simp at firstDigit
    · rename_i equal
      cases equal
      simp at firstDigit
    · rfl
  · rfl
  · rfl

theorem readExponent?_append
    {exponent : Option Exponent} {rest : List Char}
    (wellFormed : ∀ found ∈ exponent, found.WellFormed)
    (stops : StopsAt goesOn rest) :
    readExponent?
      ((exponent.map Exponent.text).getD [] ++ rest) =
      some (exponent, rest) := by
  cases exponent with
  | none =>
      rw [Option.map_none, Option.getD_none, List.nil_append]
      cases rest with
      | nil => rfl
      | cons character rest =>
          have outside := stopsAt_cons.mp stops
          have noMark : ¬ (character = 'e' ∨ character = 'E') := by
            rintro (rfl | rfl) <;> simp [goesOn] at outside
          rw [readExponent?, if_neg noMark]
  | some exponent =>
      rcases wellFormed exponent rfl with ⟨mark, sign, nonempty, digits⟩
      rcases List.exists_cons_of_ne_nil nonempty with ⟨first, others, split⟩
      have firstDigit : first.isDigit = true :=
        digits first (by rw [split]; simp)
      have stopsDigits : StopsAt Char.isDigit rest :=
        stops.mono fun _ => goesOn_of_isDigit
      have signed :
          readExponentSign (exponent.sign.toList ++ (exponent.digits ++ rest)) =
          (exponent.sign, exponent.digits ++ rest) :=
        readExponentSign_append sign
          ⟨first, others ++ rest, by rw [split]; rfl, firstDigit⟩
      have tail : readExponentTail? exponent.mark
          (exponent.sign.toList ++ (exponent.digits ++ rest)) =
            some (exponent, rest) := by
        unfold readExponentTail?
        rw [signed]
        simp only
        rw [takeWhile_append_of_stopsAt digits stopsDigits,
          dropWhile_append_of_stopsAt digits stopsDigits]
        split
        · exact absurd ‹_› nonempty
        · rfl
      rw [Option.map_some, Option.getD_some, Exponent.text, List.cons_append,
        List.append_assoc, readExponent?, if_pos mark, tail]
      rfl

/-- A well-formed numeral is read whole, and nothing of the text behind it. -/
theorem read?_text_append
    {numeral : Numeral} {rest : List Char}
    (wellFormed : numeral.WellFormed)
    (stops : StopsAt goesOn rest) :
    read? (numeral.text ++ rest) = some (numeral, rest) := by
  rcases wellFormed with ⟨nonempty, whole, leading, fraction, exponent⟩
  rcases List.exists_cons_of_ne_nil nonempty with ⟨first, others, split⟩
  have stopsDigits : StopsAt Char.isDigit rest :=
    stops.mono fun _ => goesOn_of_isDigit
  have exponentRead := readExponent?_append exponent stops
  -- What stands behind the fraction is an exponent or the rest, and neither
  -- goes on with digits.
  have exponentStops :
      StopsAt Char.isDigit
        ((numeral.exponent.map Exponent.text).getD [] ++ rest)
      ∧ ((numeral.exponent.map Exponent.text).getD [] ++ rest).head? ≠
        some '.' := by
    cases found : numeral.exponent with
    | none =>
        refine ⟨stopsDigits, fun point => ?_⟩
        have outside := stops '.' point
        simp [goesOn] at outside
    | some exponent' =>
        have mark := (exponent exponent' found).mark
        simp only [Option.map_some, Option.getD_some, Exponent.text,
          List.cons_append, stopsAt_cons, List.head?_cons, ne_eq,
          Option.some.injEq]
        rcases mark with equal | equal <;> rw [equal] <;> decide
  have fractionRead :=
    readFraction?_append fraction exponentStops.1 exponentStops.2
  have fractionStops : StopsAt Char.isDigit
      ((if numeral.fraction = [] then [] else '.' :: numeral.fraction) ++
        ((numeral.exponent.map Exponent.text).getD [] ++ rest)) := by
    by_cases empty : numeral.fraction = []
    · rw [if_pos empty, List.nil_append]
      exact exponentStops.1
    · rw [if_neg empty, List.cons_append, stopsAt_cons]
      decide
  have wholeRead := readWhole?_append nonempty whole leading fractionStops
  have noSign :
      (numeral.whole ++
        ((if numeral.fraction = [] then [] else '.' :: numeral.fraction) ++
      ((numeral.exponent.map Exponent.text).getD [] ++ rest))).head? ≠
        some '-' := by
    rw [split, List.cons_append, List.head?_cons]
    intro equal
    have firstDigit := whole first (by rw [split]; simp)
    rw [Option.some.inj equal] at firstDigit
    simp at firstDigit
  have signRead := readSign_append numeral.isNegative noSign
  simp only [text, List.append_assoc, read?, signRead, wholeRead, fractionRead,
    exponentRead, Option.bind_eq_bind, Option.bind_some, Option.pure_def]

/-! ## Reading takes only well-formed numerals -/

theorem takeWhile_inside
    {inClass : Char → Bool} {text : List Char} {character : Char}
    (member : character ∈ text.takeWhile inClass) :
    inClass character = true :=
  List.all_eq_true.mp List.all_takeWhile character member

theorem wellFormed_readWhole?
    {text whole rest : List Char}
    (read : readWhole? text = some (whole, rest)) :
    (∀ digit ∈ whole, digit.isDigit = true) ∧
      (whole.head? = some '0' → whole = ['0']) := by
  unfold readWhole? at read
  split at read
  · cases read
  · split at read
    · cases read
    · cases read
      exact ⟨by simp, fun _ => rfl⟩
  · rename_i first others notZero
    split at read
    · rename_i firstDigit
      cases read
      refine ⟨fun digit member => ?_, fun leading => ?_⟩
      · rcases List.mem_cons.mp member with rfl | later
        · exact firstDigit
        · exact takeWhile_inside later
      · exact absurd (Option.some.inj leading) notZero
    · cases read

theorem wellFormed_readFraction?
    {text fraction rest : List Char}
    (read : readFraction? text = some (fraction, rest)) :
    ∀ digit ∈ fraction, digit.isDigit = true := by
  unfold readFraction? at read
  split at read
  · split at read
    · cases read
    · cases read
      exact fun digit member => takeWhile_inside member
  · cases read
    intro digit member
    cases member

theorem known_readExponentSign (text : List Char) :
    (readExponentSign text).1 = none ∨ (readExponentSign text).1 = some '+' ∨
      (readExponentSign text).1 = some '-' := by
  unfold readExponentSign
  split
  · exact Or.inr (Or.inl rfl)
  · exact Or.inr (Or.inr rfl)
  · exact Or.inl rfl

theorem wellFormed_readExponentTail?
    {mark : Char} {text rest : List Char} {exponent : Exponent}
    (marked : mark = 'e' ∨ mark = 'E')
    (read : readExponentTail? mark text = some (exponent, rest)) :
    exponent.WellFormed := by
  unfold readExponentTail? at read
  simp only at read
  split at read
  · cases read
  · rename_i nonempty
    cases read
    exact ⟨marked, known_readExponentSign text, fun empty => nonempty empty,
      fun digit member => takeWhile_inside member⟩

theorem wellFormed_readExponent?
    {text rest : List Char} {exponent : Option Exponent}
    (read : readExponent? text = some (exponent, rest)) :
    ∀ found ∈ exponent, found.WellFormed := by
  unfold readExponent? at read
  split at read
  · cases read
    intro found member
    cases member
  · split at read
    · rename_i marked
      rcases Option.map_eq_some_iff.mp read with
          ⟨⟨tailExponent, tailRest⟩, tail, equal⟩
      cases equal
      intro found member
      cases member
      exact wellFormed_readExponentTail? marked tail
    · cases read
      intro found member
      cases member

/-- What is read as a numeral is well formed. -/
theorem wellFormed_read?
    {text rest : List Char} {numeral : Numeral}
    (read : read? text = some (numeral, rest)) :
    numeral.WellFormed := by
  simp only [read?, Option.bind_eq_bind, Option.bind_eq_some_iff,
    Option.pure_def, Option.some.injEq, Prod.mk.injEq] at read
  obtain ⟨⟨whole, afterWhole⟩, wholeRead, ⟨fraction, afterFraction⟩,
    fractionRead,
    ⟨exponent, afterExponent⟩, exponentRead, rfl, rfl⟩ := read
  have wholeDigits := wellFormed_readWhole? wholeRead
  exact {
    nonempty := (text_readWhole? wholeRead).2
    whole := wholeDigits.1
    leading := wholeDigits.2
    fraction := wellFormed_readFraction? fractionRead
    exponent := wellFormed_readExponent? exponentRead
  }

/-! ## The characters of a numeral -/

theorem bounds_of_isDigit {digit : Char} (isDigit : digit.isDigit = true) :
    0x20 ≤ digit.toNat ∧ digit.toNat < 0x80 := by
  have bounds := Char.isDigit_iff_toNat.mp isDigit
  have zero : 0x20 ≤ '0'.toNat := by decide
  have nine : '9'.toNat < 0x80 := by decide
  omega

/-- A numeral is ASCII text without control characters. -/
theorem WellFormed.bounds_of_mem_text
    {numeral : Numeral} (wellFormed : numeral.WellFormed)
    {character : Char} (member : character ∈ numeral.text) :
    0x20 ≤ character.toNat ∧ character.toNat < 0x80 := by
  unfold Numeral.text at member
  rcases List.mem_append.mp member with sign | member
  · split at sign
    · rw [List.mem_singleton.mp sign]
      decide
    · cases sign
  · rcases List.mem_append.mp member with whole | member
    · exact bounds_of_isDigit (wellFormed.whole character whole)
    · rcases List.mem_append.mp member with fraction | exponent
      · split at fraction
        · cases fraction
        · rcases List.mem_cons.mp fraction with rfl | digit
          · decide
          · exact bounds_of_isDigit (wellFormed.fraction character digit)
      · cases found : numeral.exponent with
        | none =>
            rw [found] at exponent
            cases exponent
        | some part =>
            rw [found] at exponent
            simp only [Option.map_some, Option.getD_some,
              Exponent.text] at exponent
            rcases wellFormed.exponent part found with ⟨mark, sign, _, digits⟩
            rcases List.mem_cons.mp exponent with rfl | exponent
            · rcases mark with equal | equal <;> rw [equal] <;> decide
            · rcases List.mem_append.mp exponent with signed | digit
              · rw [Option.mem_toList] at signed
                rcases sign with equal | equal | equal <;>
                  rw [equal] at signed <;> cases signed <;>
                  decide
              · exact bounds_of_isDigit (digits character digit)

theorem WellFormed.isAscii_of_mem_text
    {numeral : Numeral} (wellFormed : numeral.WellFormed) :
    ∀ character ∈ numeral.text, character.toNat < 0x80 :=
  fun _ member => (wellFormed.bounds_of_mem_text member).2

end Numeral

end Criteria
