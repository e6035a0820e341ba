import Criteria.Proofs.Text.Length
import Criteria.Text.StringLiteral

/-!
# Written forms of strings

Every character of a string may be written in several ways: as itself unless it
is a control character, a quote or a backslash, as one of eight short escapes,
or as an escape of its code in hexadecimal, for which a character beyond the
basic plane needs a pair of surrogates.  A scan takes a text apart in the one
way in which the written characters up to a closing quote can be read.
-/

namespace Criteria

namespace StringLiteral

/-! ## The written forms -/

/--
The short escapes: the letter after the backslash, and what it stands for.
-/
def shortEscapes : List (Char × Char) :=
  [('\x22', '\x22'), ('\\', '\\'), ('/', '/'), ('b', '\x08'), ('f', '\x0c'),
    ('n', '\n'),
    ('r', '\r'), ('t', '\t')]

/-- Four hexadecimal digits that spell a code, the most significant first. -/
inductive IsQuad : List Char → Nat → Prop where
  | digits {a b c d : Char} {first second third fourth : Nat}
      (first_eq : hexValue? a = some first)
      (second_eq : hexValue? b = some second)
      (third_eq : hexValue? c = some third)
      (fourth_eq : hexValue? d = some fourth) :
      IsQuad [a, b, c, d] (((first * 16 + second) * 16 + third) * 16 + fourth)

/-- A character and what may be written for it after a backslash. -/
inductive Escapes : List Char → Char → Prop where
  | short {letter character : Char}
      (known : (letter, character) ∈ shortEscapes) :
      Escapes [letter] character
  | code {quad : List Char} {code : Nat}
      (spelled : IsQuad quad code)
      (noSurrogate : code < 0xD800 ∨ 0xE000 ≤ code) :
      Escapes ('u' :: quad) (Char.ofNat code)
  | pair {highQuad lowQuad : List Char} {high low : Nat}
      (highSpelled : IsQuad highQuad high)
      (highRange : 0xD800 ≤ high ∧ high < 0xDC00)
      (lowSpelled : IsQuad lowQuad low)
      (lowRange : 0xDC00 ≤ low ∧ low < 0xE000) :
      Escapes ('u' :: (highQuad ++ '\\' :: 'u' :: lowQuad))
        (Char.ofNat (0x10000 + (high - 0xD800) * 0x400 + (low - 0xDC00)))

/-- The characters between two quotes and the string that they write. -/
inductive Writes : List Char → List Char → Prop where
  | done : Writes [] []
  | raw {character : Char} {written characters : List Char}
      (printable : 0x20 ≤ character.toNat)
      (noQuote : character ≠ '\x22') (noBackslash : character ≠ '\\')
      (later : Writes written characters) :
      Writes (character :: written) (character :: characters)
  | escape {piece written characters : List Char} {character : Char}
      (escapes : Escapes piece character) (later : Writes written characters) :
      Writes ('\\' :: (piece ++ written)) (character :: characters)

/-! ## Scanning escapes -/

theorem shortEscape?_eq_some_iff {letter character : Char} :
    shortEscape? letter = some character ↔
      (letter, character) ∈ shortEscapes := by
  constructor
  · intro found
    unfold shortEscape? at found
    split at found <;> cases found <;> simp [shortEscapes]
  · intro known
    simp only [shortEscapes, List.mem_cons, Prod.mk.injEq, List.not_mem_nil,
      or_false] at known
    rcases known with ⟨rfl, rfl⟩ | ⟨rfl, rfl⟩ | ⟨rfl, rfl⟩ | ⟨rfl, rfl⟩ |
      ⟨rfl, rfl⟩ |
      ⟨rfl, rfl⟩ | ⟨rfl, rfl⟩ | ⟨rfl, rfl⟩ <;> rfl

theorem readHexQuad?_eq_some_iff {text rest : List Char} {code : Nat} :
    readHexQuad? text = some (code, rest) ↔
      ∃ quad, IsQuad quad code ∧ text = quad ++ rest := by
  constructor
  · intro read
    unfold readHexQuad? at read
    split at read
    · rename_i a b c d others
      simp only [Option.bind_eq_bind, Option.bind_eq_some_iff, Option.pure_def,
        Option.some.injEq, Prod.mk.injEq] at read
      rcases read with ⟨first, firstEq, second, secondEq, third, thirdEq,
        fourth, fourthEq, rfl, rfl⟩
      exact ⟨[a, b, c, d], .digits firstEq secondEq thirdEq fourthEq, rfl⟩
    · cases read
  · rintro ⟨quad, spelled, rfl⟩
    cases spelled with
    | digits firstEq secondEq thirdEq fourthEq =>
        simp [readHexQuad?, firstEq, secondEq, thirdEq, fourthEq]

theorem bounds_of_hexValue? {digit : Char} {value : Nat}
    (found : hexValue? digit = some value) :
    0x20 ≤ digit.toNat ∧ digit.toNat < 128 := by
  unfold hexValue? at found
  have bounded {lower upper : Char} (within : lower ≤ digit ∧ digit ≤ upper)
      (printable : 0x20 ≤ lower.toNat) (ascii : upper.toNat < 128) :
      0x20 ≤ digit.toNat ∧ digit.toNat < 128 :=
    ⟨Nat.le_trans printable (UInt32.le_iff_toNat_le.mp within.1),
      Nat.lt_of_le_of_lt (UInt32.le_iff_toNat_le.mp within.2) ascii⟩
  split at found
  · rename_i decimal
    exact bounded decimal (by decide) (by decide)
  · split at found
    · rename_i small
      exact bounded small (by decide) (by decide)
    · split at found
      · rename_i large
        exact bounded large (by decide) (by decide)
      · cases found

theorem IsQuad.byteLength_eq {quad : List Char} {code : Nat}
    (spelled : IsQuad quad code) :
    byteLength quad = 4 := by
  cases spelled with
  | digits firstEq secondEq thirdEq fourthEq =>
      simp [utf8Size_of_lt (bounds_of_hexValue? firstEq).2,
        utf8Size_of_lt (bounds_of_hexValue? secondEq).2,
        utf8Size_of_lt (bounds_of_hexValue? thirdEq).2,
        utf8Size_of_lt (bounds_of_hexValue? fourthEq).2]

theorem IsQuad.readHexQuad?_append
    {quad : List Char} {code : Nat} (spelled : IsQuad quad code)
    (rest : List Char) :
    readHexQuad? (quad ++ rest) = some (code, rest) :=
  readHexQuad?_eq_some_iff.mpr ⟨quad, spelled, rfl⟩

theorem isHighSurrogate_iff {code : Nat} :
    isHighSurrogate code = true ↔ 0xD800 ≤ code ∧ code < 0xDC00 := by
  rw [isHighSurrogate, Bool.and_eq_true, decide_eq_true_eq, decide_eq_true_eq]

theorem isLowSurrogate_iff {code : Nat} :
    isLowSurrogate code = true ↔ 0xDC00 ≤ code ∧ code < 0xE000 := by
  rw [isLowSurrogate, Bool.and_eq_true, decide_eq_true_eq, decide_eq_true_eq]

theorem scanLowSurrogate_append
    {lowQuad : List Char} {low : Nat} (spelled : IsQuad lowQuad low)
    (lowRange : 0xDC00 ≤ low ∧ low < 0xE000) (high : Nat) (rest : List Char) :
    scanLowSurrogate high ('\\' :: 'u' :: (lowQuad ++ rest)) =
      .ok ⟨pairCharacter high low, 12, rest⟩ := by
  simp only [scanLowSurrogate, spelled.readHexQuad?_append,
    isLowSurrogate_iff.mpr lowRange, if_true]

theorem exists_isQuad_of_scanLowSurrogate
    {high : Nat} {text : List Char} {scanned : Scanned Char}
    (scan : scanLowSurrogate high text = .ok scanned) :
    ∃ lowQuad low, IsQuad lowQuad low ∧ (0xDC00 ≤ low ∧ low < 0xE000) ∧
      text = '\\' :: 'u' :: (lowQuad ++ scanned.rest) ∧
        scanned.value = pairCharacter high low := by
  unfold scanLowSurrogate at scan
  split at scan
  · split at scan
    · cases scan
    · rename_i low rest read
      rcases readHexQuad?_eq_some_iff.mp read with ⟨lowQuad, spelled, rfl⟩
      split at scan
      · rename_i isLow
        simp only [Except.ok.injEq] at scan
        subst scan
        refine ⟨lowQuad, low, spelled, isLowSurrogate_iff.mp isLow, rfl, ?_⟩
        simp only
      · cases scan
  · cases scan

theorem scanEscape_letter
    {letter character : Char} (known : (letter, character) ∈ shortEscapes)
    (rest : List Char) :
    scanEscape (letter :: rest) =
      .ok ⟨character, 1 + letter.utf8Size, rest⟩ := by
  have found := shortEscape?_eq_some_iff.mpr known
  have notCode : letter ≠ 'u' := by
    rintro rfl
    simp [shortEscapes] at known
  rw [scanEscape.eq_3 _ _ notCode, found]

/-- An escape is scanned as the character that it is written for. -/
theorem scanEscape_append
    {piece : List Char} {character : Char} (escapes : Escapes piece character)
    (rest : List Char) :
    scanEscape (piece ++ rest) =
      .ok ⟨character, 1 + byteLength piece, rest⟩ := by
  cases escapes with
  | short known =>
      rw [List.singleton_append, scanEscape_letter known, byteLength_cons,
        byteLength_nil, Nat.add_zero]
  | code spelled noSurrogate =>
      rename_i quad code
      have notHigh : ¬isHighSurrogate code = true := by
        rw [isHighSurrogate_iff]
        omega
      have notLow : ¬isLowSurrogate code = true := by
        rw [isLowSurrogate_iff]
        omega
      rw [List.cons_append, scanEscape, scanCodePoint,
        spelled.readHexQuad?_append]
      simp [notHigh, notLow, spelled.byteLength_eq, utf8Size_of_lt]
  | pair highSpelled highRange lowSpelled lowRange =>
      rename_i highQuad lowQuad high low
      have isHigh := isHighSurrogate_iff.mpr highRange
      have grouped : 'u' :: (highQuad ++ '\\' :: 'u' :: lowQuad) ++ rest =
          'u' :: (highQuad ++ '\\' :: 'u' :: (lowQuad ++ rest)) := by simp
      rw [grouped, scanEscape, scanCodePoint, highSpelled.readHexQuad?_append]
      simp [isHigh, scanLowSurrogate_append lowSpelled lowRange, pairCharacter,
        highSpelled.byteLength_eq, lowSpelled.byteLength_eq, utf8Size_of_lt]

theorem escapes_of_scanCodePoint
    {text : List Char} {scanned : Scanned Char}
    (scan : scanCodePoint text = .ok scanned) :
    ∃ piece, Escapes ('u' :: piece) scanned.value ∧
      text = piece ++ scanned.rest := by
  unfold scanCodePoint at scan
  split at scan
  · cases scan
  · rename_i code rest read
    rcases readHexQuad?_eq_some_iff.mp read with ⟨quad, spelled, rfl⟩
    split at scan
    · rename_i isHigh
      rcases exists_isQuad_of_scanLowSurrogate scan with
        ⟨lowQuad, low, lowSpelled, lowRange, rfl, value⟩
      refine ⟨quad ++ '\\' :: 'u' :: lowQuad, ?_, by simp⟩
      rw [value]
      exact .pair spelled (isHighSurrogate_iff.mp isHigh) lowSpelled lowRange
    · split at scan
      · cases scan
      · rename_i notHigh notLow
        cases scan
        rw [isHighSurrogate_iff] at notHigh
        rw [isLowSurrogate_iff] at notLow
        exact ⟨quad, .code spelled (by omega), rfl⟩

/--
What is scanned as an escape is written for the character it is scanned as.
-/
theorem escapes_of_scanEscape
    {text : List Char} {scanned : Scanned Char}
    (scan : scanEscape text = .ok scanned) :
    ∃ piece, Escapes piece scanned.value ∧ text = piece ++ scanned.rest := by
  unfold scanEscape at scan
  split at scan
  · cases scan
  · rcases escapes_of_scanCodePoint scan with ⟨piece, escapes, rfl⟩
    exact ⟨_, escapes, rfl⟩
  · split at scan
    · rename_i found
      cases scan
      exact ⟨_, .short (shortEscape?_eq_some_iff.mp found), rfl⟩
    · cases scan

/-! ## Scanning characters -/

/--
The characters up to a closing quote are scanned as the string that they write.
-/
theorem scanCharacters_append
    {written characters : List Char} (writes : Writes written characters)
    (width : Nat) (read rest : List Char) :
    scanCharacters width read (written ++ '\x22' :: rest) =
      .ok ⟨read.reverse ++ characters, width + byteLength written + 1,
        rest⟩ := by
  induction writes generalizing width read with
  | done => simp [scanCharacters]
  | raw printable noQuote noBackslash later ih =>
      rename_i character written characters
      rw [List.cons_append, scanCharacters.eq_4 _ _ _ _ noQuote noBackslash,
        if_neg (Nat.not_lt.mpr printable), ih]
      simp [Nat.add_assoc]
  | escape escapes later ih =>
      rename_i piece written characters character
      have scan := scanEscape_append escapes (written ++ '\x22' :: rest)
      rw [List.cons_append, List.append_assoc, scanCharacters]
      split
      · rename_i found
        rw [scan] at found
        simp only [Except.ok.injEq] at found
        subst found
        rw [ih]
        simp [Nat.add_assoc, utf8Size_of_lt]
      · rename_i found
        rw [scan] at found
        cases found

/--
What is scanned up to a closing quote writes the string that it is scanned as.
-/
theorem writes_of_scanCharacters
    {width : Nat} {read text : List Char} {scanned : Scanned (List Char)}
    (scan : scanCharacters width read text = .ok scanned) :
    ∃ written characters, Writes written characters ∧
      text = written ++ '\x22' :: scanned.rest ∧
        scanned.value = read.reverse ++ characters := by
  fun_induction scanCharacters width read text with
  | case1 => cases scan
  | case2 =>
      simp only [Except.ok.injEq] at scan
      subst scan
      exact ⟨[], [], .done, rfl, by simp⟩
  | case3 width read rest escape found ih =>
      rcases escapes_of_scanEscape found with ⟨piece, escapes, rfl⟩
      rcases ih scan with ⟨written, characters, writes, equal, value⟩
      refine ⟨_, _, .escape escapes writes, ?_, ?_⟩
      · rw [equal]
        simp
      · rw [value]
        simp
  | case4 => cases scan
  | case5 => cases scan
  | case6 width read character rest noQuote noBackslash printable ih =>
      rcases ih scan with ⟨written, characters, writes, equal, value⟩
      refine ⟨_, _, .raw (Nat.not_lt.mp printable) ?_ ?_ writes, ?_, ?_⟩
      · rintro rfl
        exact noQuote rfl
      · rintro rfl
        exact noBackslash rfl
      · rw [equal]
        simp
      · rw [value]
        simp

/-- A scan takes exactly the written forms of a string. -/
theorem scan_eq_ok_iff {text : List Char} {scanned : Scanned String} :
    scan text = .ok scanned ↔
      ∃ written, Writes written scanned.value.toList ∧
        text = written ++ '\x22' :: scanned.rest ∧
          scanned.width = byteLength written + 2 := by
  constructor
  · intro found
    unfold scan at found
    cases characters : scanCharacters 1 [] text with
    | error fault => rw [characters] at found; cases found
    | ok result =>
        rw [characters] at found
        simp only [Except.map, Except.ok.injEq] at found
        subst found
        rcases writes_of_scanCharacters characters with
            ⟨written, spelled, writes, equal, value⟩
        rw [List.reverse_nil, List.nil_append] at value
        subst value
        have whole := scanCharacters_append writes 1 [] result.rest
        rw [← equal, characters] at whole
        simp only [Except.ok.injEq] at whole
        refine ⟨written, by simpa using writes, equal, ?_⟩
        have width := congrArg Scanned.width whole
        simp only at width ⊢
        omega
  · rintro ⟨written, writes, rfl, width⟩
    rw [scan, scanCharacters_append writes]
    cases scanned with
    | mk value width' rest =>
        simp only at width
        subst width
        simp [Except.map]
        omega

/-! ## Control characters -/

theorem IsQuad.printable {quad : List Char} {code : Nat}
    (spelled : IsQuad quad code) :
    ∀ character ∈ quad, 0x20 ≤ character.toNat := by
  cases spelled with
  | digits firstEq secondEq thirdEq fourthEq =>
      simp [(bounds_of_hexValue? firstEq).1, (bounds_of_hexValue? secondEq).1,
        (bounds_of_hexValue? thirdEq).1, (bounds_of_hexValue? fourthEq).1]

theorem Escapes.printable {piece : List Char} {character : Char}
    (escapes : Escapes piece character) :
    ∀ written ∈ piece, 0x20 ≤ written.toNat := by
  cases escapes with
  | short known =>
      rename_i letter
      have letters : ∀ escape ∈ shortEscapes, 0x20 ≤ escape.1.toNat := by decide
      exact List.forall_mem_singleton.mpr (letters _ known)
  | code spelled noSurrogate =>
      exact List.forall_mem_cons.mpr ⟨by decide, spelled.printable⟩
  | pair highSpelled highRange lowSpelled lowRange =>
      refine List.forall_mem_cons.mpr ⟨by decide, List.forall_mem_append.mpr
        ⟨highSpelled.printable, List.forall_mem_cons.mpr ⟨by decide,
          List.forall_mem_cons.mpr ⟨by decide, lowSpelled.printable⟩⟩⟩⟩

/-- The written form of a string is free of control characters. -/
theorem Writes.printable {written characters : List Char}
    (writes : Writes written characters) :
    ∀ character ∈ written, 0x20 ≤ character.toNat := by
  induction writes with
  | done => exact fun _ member => by cases member
  | raw printable _ _ _ ih => exact List.forall_mem_cons.mpr ⟨printable, ih⟩
  | escape escapes _ ih =>
      exact List.forall_mem_cons.mpr ⟨by decide,
        List.forall_mem_append.mpr ⟨escapes.printable, ih⟩⟩

end StringLiteral

end Criteria
