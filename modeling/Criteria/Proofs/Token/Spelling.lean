import Criteria.Proofs.Number.Decimal
import Criteria.Proofs.Number.Numeral
import Criteria.Proofs.Text.StringLiteral
import Criteria.Token.Lexer

/-!
# Written forms of tokens

A token is written in one of its forms, and a number or a word must not run on
into the text behind it.  Scanning reads a token exactly where one of its
forms stands, and takes the whole of it: `scanToken_eq_ok_iff`.
-/

namespace Criteria

/-! ## The written forms of tokens -/

/--
The written forms of a literal.  A number is the finite double nearest to what
its numeral says; a string may be written in many ways.
-/
inductive Literal.Spells : Literal → List Char → Prop where
  | number {numeral : Numeral} {double : FiniteDouble}
      (wellFormed : numeral.WellFormed)
      (sign : double.isNegative = numeral.isNegative)
      (rounded : IsNearest patternValue numeral.decimal.value double.pattern) :
      Spells (.number (.finite double)) numeral.text
  | string {value : String} {written : List Char}
      (writes : StringLiteral.Writes written value.toList) :
      Spells (.string value) ('\x22' :: (written ++ ['\x22']))
  | true : Spells (.boolean true) ['t', 'r', 'u', 'e']
  | false : Spells (.boolean false) ['f', 'a', 'l', 's', 'e']
  | null : Spells .null ['n', 'u', 'l', 'l']

namespace Token

/-- The written forms of a token. -/
inductive Spells : Token → List Char → Prop where
  | bracketOpen : Spells .bracketOpen ['[']
  | bracketClose : Spells .bracketClose [']']
  | braceOpen : Spells .braceOpen ['\x7b']
  | braceClose : Spells .braceClose ['\x7d']
  | literal {value : Literal} {written : List Char}
      (spells : value.Spells written) :
      Spells (.literal value) written

/--
Some text writes a token; only numbers that are not finite cannot be written.
-/
def Writable (token : Token) : Prop :=
  ∃ written, token.Spells written

/-- A number or a word ends where no further character sticks to it. -/
def EndsBefore : Token → List Char → Prop
  | .literal (.number _), rest => StopsAt sticksToNumber rest
  | .literal (.boolean _), rest | .literal .null, rest =>
      StopsAt isWordCharacter rest
  | _, _ => True

/-! ## Scanning numbers and words -/

theorem sticksToNumber_of_goesOn
    {character : Char} (goesOn : Numeral.goesOn character = true) :
    sticksToNumber character = true := by
  simp only [Numeral.goesOn, Bool.or_eq_true, beq_iff_eq] at goesOn
  rcases goesOn with ((digit | rfl) | rfl) | rfl
  · simp [sticksToNumber, Char.isAlphanum, digit]
  · rfl
  · rfl
  · rfl

theorem any_head?_eq_false_iff {inClass : Char → Bool} {rest : List Char} :
    rest.head?.any inClass = false ↔ StopsAt inClass rest := by
  rw [Option.any_eq_false]
  rfl

/-- A numeral begins with a minus sign or a digit. -/
theorem exists_cons_text
    {numeral : Numeral} (wellFormed : numeral.WellFormed) :
    ∃ first others, numeral.text = first :: others ∧
      (first = '-' ∨ first.isDigit = true) := by
  rcases List.exists_cons_of_ne_nil wellFormed.nonempty with
      ⟨first, others, split⟩
  have firstDigit :=
    wellFormed.whole first (by rw [split]; exact List.mem_cons_self)
  unfold Numeral.text
  cases numeral.isNegative with
  | true => exact ⟨'-', _, rfl, Or.inl rfl⟩
  | false => exact ⟨first, _, by rw [split]; rfl, Or.inr firstDigit⟩

theorem toDouble_eq_finite_iff {numeral : Numeral} {double : FiniteDouble} :
    numeral.toDouble = .finite double ↔
      double.isNegative = numeral.isNegative ∧
        IsNearest patternValue numeral.decimal.value double.pattern :=
  Double.ofDecimal_eq_finite_iff

/--
Scanning a number takes exactly the written forms of the numbers, with nothing
sticking.
-/
theorem scanNumber_eq_ok_iff {text : List Char} {scanned : Scanned Token} :
    scanNumber text = .ok scanned ↔
      ∃ written double, scanned.value = .literal (.number double) ∧
        (Literal.number double).Spells written ∧
          text = written ++ scanned.rest ∧
          scanned.width = byteLength written ∧
            StopsAt sticksToNumber scanned.rest := by
  constructor
  · intro scan
    unfold scanNumber at scan
    split at scan
    · cases scan
    · rename_i numeral rest read
      split at scan
      · cases scan
      · rename_i stops
        split at scan
        · rename_i double rounded
          have wellFormed := Numeral.wellFormed_read? read
          rcases toDouble_eq_finite_iff.mp rounded with ⟨sign, nearest⟩
          cases scan
          refine ⟨numeral.text, .finite double, rfl,
            .number wellFormed sign nearest,
            (Numeral.text_read? read).symm, ?_, ?_⟩
          · exact (byteLength_of_ascii wellFormed.isAscii_of_mem_text).symm
          · exact any_head?_eq_false_iff.mp (Bool.eq_false_iff.mpr stops)
        · cases scan
  · rintro ⟨written, double, value, spells, rfl, width, stops⟩
    cases spells with
    | number wellFormed sign rounded =>
        rename_i numeral double
        have read := Numeral.read?_text_append wellFormed
          (stops.mono fun _ => sticksToNumber_of_goesOn)
        have nearest := toDouble_eq_finite_iff.mpr ⟨sign, rounded⟩
        have length := byteLength_of_ascii wellFormed.isAscii_of_mem_text
        rw [length] at width
        rcases scanned with ⟨token, bytes, rest⟩
        simp only at value width
        subst value width
        unfold scanNumber
        rw [read]
        simp only
        rw [any_head?_eq_false_iff.mpr stops, nearest]
        rfl

theorem wordLiteral?_eq_some_iff {word : List Char} {literal : Literal} :
    wordLiteral? word = some literal ↔
      literal.Spells word ∧
        ((∃ value, literal = .boolean value) ∨ literal = .null) := by
  constructor
  · intro found
    unfold wordLiteral? at found
    split at found
    · cases found
      rename_i equal
      subst equal
      exact ⟨.true, Or.inl ⟨true, rfl⟩⟩
    · split at found
      · cases found
        rename_i equal
        subst equal
        exact ⟨.false, Or.inl ⟨false, rfl⟩⟩
      · split at found
        · cases found
          rename_i equal
          subst equal
          exact ⟨.null, Or.inr rfl⟩
        · cases found
  · rintro ⟨spells, known⟩
    cases spells with
    | number => simp at known
    | string => simp at known
    | true => rfl
    | false => rfl
    | null => rfl

theorem isWordCharacter_of_spells
    {word : List Char} {literal : Literal} (spells : literal.Spells word)
    (known : (∃ value, literal = .boolean value) ∨ literal = .null)
    {character : Char} (member : character ∈ word) :
    isWordCharacter character = true := by
  have letters :
      ∀ word ∈ [['t', 'r', 'u', 'e'], ['f', 'a', 'l', 's', 'e'],
        ['n', 'u', 'l', 'l']],
      ∀ character ∈ word, isWordCharacter character = true := by
    simp [isWordCharacter]
  cases spells with
  | number => simp at known
  | string => simp at known
  | true => exact letters _ (by simp) character member
  | false => exact letters _ (by simp) character member
  | null => exact letters _ (by simp) character member

/--
Scanning a word takes exactly the three words that are literals, as far as they
go.
-/
theorem scanWord_eq_ok_iff {text : List Char} {scanned : Scanned Token} :
    scanWord text = .ok scanned ↔
      ∃ written literal, scanned.value = .literal literal ∧
        ((∃ value, literal = .boolean value) ∨ literal = .null) ∧
          literal.Spells written ∧ text = written ++ scanned.rest ∧
            scanned.width = byteLength written ∧
              StopsAt isWordCharacter scanned.rest := by
  have ascii {word : List Char} {literal : Literal}
      (spells : literal.Spells word)
      (known : (∃ value, literal = .boolean value) ∨ literal = .null) :
      byteLength word = word.length := by
    cases spells with
    | number => simp at known
    | string => simp at known
    | true => rfl
    | false => rfl
    | null => rfl
  constructor
  · intro scan
    unfold scanWord at scan
    simp only at scan
    split at scan
    · rename_i literal found
      rcases wordLiteral?_eq_some_iff.mp found with ⟨spells, known⟩
      cases scan
      exact ⟨_, literal, rfl, known, spells,
        List.takeWhile_append_dropWhile.symm, (ascii spells known).symm,
        stopsAt_dropWhile _ _⟩
    · cases scan
  · rintro ⟨written, literal, value, known, spells, rfl, width, stops⟩
    have inside : ∀ character ∈ written, isWordCharacter character = true :=
      fun _ => isWordCharacter_of_spells spells known
    have found := wordLiteral?_eq_some_iff.mpr ⟨spells, known⟩
    rw [ascii spells known] at width
    rcases scanned with ⟨token, bytes, rest⟩
    simp only at value width stops
    subst value width
    unfold scanWord
    simp only
    rw [takeWhile_append_of_stopsAt inside stops,
      dropWhile_append_of_stopsAt inside stops, found]

/-! ## Scanning tokens -/

/-- The scan of a string takes exactly its written forms. -/
theorem scanString_eq_ok_iff {text : List Char} {scanned : Scanned Token} :
    scanString text = .ok scanned ↔
      ∃ value written, scanned.value = .literal (.string value) ∧
        StringLiteral.Writes written value.toList ∧
          text = written ++ '\x22' :: scanned.rest ∧
            scanned.width = byteLength written + 2 := by
  constructor
  · intro scan
    unfold scanString at scan
    split at scan
    · rename_i found read
      cases scan
      rcases StringLiteral.scan_eq_ok_iff.mp read with
          ⟨written, writes, split, width⟩
      exact ⟨found.value, written, rfl, writes, split, width⟩
    · cases scan
  · rintro ⟨value, written, token, writes, split, width⟩
    have read :
        StringLiteral.scan text = .ok ⟨value, scanned.width, scanned.rest⟩ :=
      StringLiteral.scan_eq_ok_iff.mpr ⟨written, writes, split, width⟩
    unfold scanString
    rw [read]
    simp only
    rw [← token]

/--
What a token that is neither a delimiter nor a string is, its first character
tells.
-/
theorem scanToken_cons
    {first : Char} (plain : first ∉ ['[', ']', '\x7b', '\x7d', '\x22'])
    (others : List Char) :
    scanToken (first :: others) =
      if first = '-' ∨ first.isDigit then scanNumber (first :: others)
      else if first.isAlpha then scanWord (first :: others)
      else .error (0, .invalidCharacter first) := by
  simp only [List.mem_cons, List.not_mem_nil, or_false, not_or] at plain
  rcases plain with ⟨bracketOpen, bracketClose, braceOpen, braceClose, quote⟩
  unfold scanToken
  split
  · rename_i empty
    cases empty
  · rename_i equal
    exact absurd (List.cons.inj equal).1 bracketOpen
  · rename_i equal
    exact absurd (List.cons.inj equal).1 bracketClose
  · rename_i equal
    exact absurd (List.cons.inj equal).1 braceOpen
  · rename_i equal
    exact absurd (List.cons.inj equal).1 braceClose
  · rename_i equal
    exact absurd (List.cons.inj equal).1 quote
  · rename_i equal
    rw [(List.cons.inj equal).1, (List.cons.inj equal).2]

theorem scanToken_of_numeral
    {first : Char} (starts : first = '-' ∨ first.isDigit = true)
    (others : List Char) :
    scanToken (first :: others) = scanNumber (first :: others) := by
  rw [scanToken_cons, if_pos starts]
  rcases starts with rfl | digit
  · decide
  · intro delimiter
    have noDigits : ∀ character ∈ ['[', ']', '\x7b', '\x7d', '\x22'],
        character.isDigit = false := by simp
    rw [noDigits first delimiter] at digit
    cases digit

theorem scanToken_of_word
    {word : List Char} {literal : Literal} (spells : literal.Spells word)
    (known : (∃ value, literal = .boolean value) ∨ literal = .null)
    (rest : List Char) :
    scanToken (word ++ rest) = scanWord (word ++ rest) := by
  cases spells with
  | number => simp at known
  | string => simp at known
  | true => rfl
  | false => rfl
  | null => rfl

/-- What is scanned as a token is one of its written forms. -/
theorem spells_of_scanToken
    {text : List Char} {scanned : Scanned Token}
    (scan : scanToken text = .ok scanned) :
    ∃ written, scanned.value.Spells written ∧
      scanned.value.EndsBefore scanned.rest ∧
      text = written ++ scanned.rest ∧ scanned.width = byteLength written := by
  unfold scanToken at scan
  split at scan
  · cases scan
  · cases scan
    exact ⟨_, .bracketOpen, trivial, rfl, rfl⟩
  · cases scan
    exact ⟨_, .bracketClose, trivial, rfl, rfl⟩
  · cases scan
    exact ⟨_, .braceOpen, trivial, rfl, rfl⟩
  · cases scan
    exact ⟨_, .braceClose, trivial, rfl, rfl⟩
  · rcases scanString_eq_ok_iff.mp scan with
        ⟨value, written, token, writes, rfl, width⟩
    refine ⟨'\x22' :: (written ++ ['\x22']), ?_, ?_, by simp, ?_⟩
    · rw [token]
      exact .literal (.string writes)
    · rw [token]
      trivial
    · rw [width, byteLength_cons, byteLength_append]
      have quote : byteLength ['\x22'] = 1 := by decide
      have single : ('\x22' : Char).utf8Size = 1 := by decide
      omega
  · split at scan
    · rcases scanNumber_eq_ok_iff.mp scan with
          ⟨written, double, token, spells, split, width, stops⟩
      refine ⟨written, ?_, ?_, split, width⟩
      · rw [token]
        exact .literal spells
      · rw [token]
        exact stops
    · split at scan
      · rcases scanWord_eq_ok_iff.mp scan with
            ⟨written, literal, token, known, spells, split, width, stops⟩
        refine ⟨written, ?_, ?_, split, width⟩
        · rw [token]
          exact .literal spells
        · rw [token]
          rcases known with ⟨value, rfl⟩ | rfl
          · exact stops
          · exact stops
      · cases scan

/--
A written form of a token is scanned as that token, if it ends where the rest
begins.
-/
theorem scanToken_append
    {token : Token} {written rest : List Char}
    (spells : token.Spells written) (ends : token.EndsBefore rest) :
    scanToken (written ++ rest) = .ok ⟨token, byteLength written, rest⟩ := by
  cases spells with
  | bracketOpen => rfl
  | bracketClose => rfl
  | braceOpen => rfl
  | braceClose => rfl
  | literal spells =>
      cases spells with
      | number wellFormed sign rounded =>
          rename_i numeral double
          rcases exists_cons_text wellFormed with ⟨first, others, split, starts⟩
          rw [split, List.cons_append, scanToken_of_numeral starts,
            ← List.cons_append, ← split]
          exact scanNumber_eq_ok_iff.mpr
            ⟨_, _, rfl, .number wellFormed sign rounded, rfl, rfl, ends⟩
      | string writes =>
          rename_i value characters
          refine scanString_eq_ok_iff.mpr ⟨value, characters, rfl,
            writes, by simp, ?_⟩
          have single : ('\x22' : Char).utf8Size = 1 := by decide
          simp only [byteLength_cons, byteLength_append, byteLength_nil]
          omega
      | true =>
          rw [scanToken_of_word .true (Or.inl ⟨_, rfl⟩)]
          exact scanWord_eq_ok_iff.mpr ⟨_, _, rfl, Or.inl ⟨_, rfl⟩, .true,
            rfl, rfl, ends⟩
      | false =>
          rw [scanToken_of_word .false (Or.inl ⟨_, rfl⟩)]
          exact scanWord_eq_ok_iff.mpr ⟨_, _, rfl, Or.inl ⟨_, rfl⟩, .false,
            rfl, rfl, ends⟩
      | null =>
          rw [scanToken_of_word .null (Or.inr rfl)]
          exact scanWord_eq_ok_iff.mpr ⟨_, _, rfl, Or.inr rfl, .null,
            rfl, rfl, ends⟩

/-- A token is scanned in exactly its written forms, as far as they go. -/
theorem scanToken_eq_ok_iff {text : List Char} {scanned : Scanned Token} :
    scanToken text = .ok scanned ↔
      ∃ written, scanned.value.Spells written ∧
        scanned.value.EndsBefore scanned.rest ∧
        text = written ++ scanned.rest ∧
          scanned.width = byteLength written := by
  constructor
  · exact spells_of_scanToken
  · rintro ⟨written, spells, ends, rfl, width⟩
    rw [scanToken_append spells ends, ← width]

end Token

end Criteria
