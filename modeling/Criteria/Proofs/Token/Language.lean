import Criteria.Proofs.Token.Spelling

/-!
# The language of tokens

A text of tokens alternates between gaps and written tokens; a gap is white
space with at most one separator in it.  `Lexed` states this for a text that
starts at a byte offset, together with the lexemes of the text, their offsets
and the separators before them.

`lexFrom_eq_ok_iff` proves that lexing succeeds on exactly these texts and
finds exactly these lexemes.
-/

namespace Criteria

namespace Token

/-! ## Gaps between tokens -/

/-- White space between tokens. -/
def IsBlanks (text : List Char) : Prop :=
  ∀ character ∈ text, isBlank character = true

/--
The text between two tokens: blanks, and among them at most one separator.
-/
inductive IsGap : List Char → Option Separator → Prop where
  | blank {blanks : List Char} (isBlanks : IsBlanks blanks) : IsGap blanks none
  | separated {before after : List Char} {separator : Separator}
      (before_blank : IsBlanks before) (after_blank : IsBlanks after) :
      IsGap (before ++ separator.character :: after) (some separator)

/--
The separator of a gap that starts at an offset, with its own offset: behind the
blanks.
-/
def located (offset : Nat) (gap : List Char) (separator : Option Separator) :
    Option (Separator × Nat) :=
  separator.map fun found =>
    (found, offset + byteLength (gap.takeWhile isBlank))

@[simp]
theorem map_fst_located (offset : Nat) (gap : List Char)
    (separator : Option Separator) :
    (located offset gap separator).map Prod.fst = separator := by
  cases separator <;> rfl

/--
A text that starts at an offset, taken apart into gaps and written tokens, and
the stream of its lexemes.
-/
inductive Lexed : Nat → List Char → TokenStream → Prop where
  | finished {offset : Nat} {gap : List Char} {separator : Option Separator}
      (isGap : IsGap gap separator) :
      Lexed offset gap
        ⟨[], offset + byteLength gap, located offset gap separator⟩
  | token {offset : Nat} {gap written rest : List Char}
      {separator : Option Separator}
      {token : Token} {stream : TokenStream}
      (isGap : IsGap gap separator)
      (spells : token.Spells written)
      (ends : token.EndsBefore rest)
      (later :
        Lexed (offset + byteLength gap + byteLength written) rest stream) :
      Lexed offset (gap ++ (written ++ rest))
        { stream with
          lexemes :=
            ⟨token, offset + byteLength gap, separator⟩ :: stream.lexemes }

/-! ## Facts about gaps -/

theorem isBlanks_nil : IsBlanks [] := by
  intro character member
  cases member

theorem isBlanks_append {front back : List Char} :
    IsBlanks (front ++ back) ↔ IsBlanks front ∧ IsBlanks back :=
  List.forall_mem_append

theorem IsBlanks.byteLength_eq {blanks : List Char}
    (isBlanks : IsBlanks blanks) :
    byteLength blanks = blanks.length := by
  apply byteLength_of_ascii
  intro character member
  have found := isBlanks character member
  simp only [isBlank, Bool.or_eq_true, beq_iff_eq] at found
  rcases found with ((rfl | rfl) | rfl) | rfl <;> decide

theorem isBlank_character (separator : Separator) :
    isBlank separator.character = false := by
  cases separator <;> rfl

theorem utf8Size_character (separator : Separator) :
    separator.character.utf8Size = 1 := by
  cases separator <;> rfl

theorem character_of_ofChar?
    {character : Char} {separator : Separator}
    (found : Separator.ofChar? character = some separator) :
    separator.character = character := by
  unfold Separator.ofChar? at found
  split at found <;> cases found <;> rfl

theorem takeWhile_isBlank
    {before after : List Char} (isBlanks : IsBlanks before)
    (separator : Separator) :
    (before ++ separator.character :: after).takeWhile isBlank = before :=
  takeWhile_append_of_stopsAt isBlanks
    (stopsAt_cons.mpr (isBlank_character separator))

theorem IsGap.append_blanks
    {gap blanks : List Char} {separator : Option Separator}
    (isGap : IsGap gap separator) (isBlanks : IsBlanks blanks) :
    IsGap (gap ++ blanks) separator := by
  cases isGap with
  | blank gapBlank => exact .blank (isBlanks_append.mpr ⟨gapBlank, isBlanks⟩)
  | separated beforeBlank afterBlank =>
      rw [List.append_assoc, List.cons_append]
      exact .separated beforeBlank (isBlanks_append.mpr ⟨afterBlank, isBlanks⟩)

theorem IsGap.blanks_append
    {gap blanks : List Char} {separator : Option Separator}
    (isGap : IsGap gap separator) (isBlanks : IsBlanks blanks) :
    IsGap (blanks ++ gap) separator := by
  cases isGap with
  | blank gapBlank => exact .blank (isBlanks_append.mpr ⟨isBlanks, gapBlank⟩)
  | separated beforeBlank afterBlank =>
      rw [← List.append_assoc]
      exact .separated (isBlanks_append.mpr ⟨isBlanks, beforeBlank⟩) afterBlank

theorem located_append
    {gap : List Char} {separator : Option Separator}
    (isGap : IsGap gap separator)
    (offset : Nat) (more : List Char) :
    located offset (gap ++ more) separator = located offset gap separator := by
  cases isGap with
  | blank => rfl
  | separated beforeBlank afterBlank =>
      rw [List.append_assoc, List.cons_append, located, located,
        takeWhile_isBlank beforeBlank, takeWhile_isBlank beforeBlank]

/-- A written token begins with neither a blank nor a separator. -/
theorem Spells.exists_cons {token : Token} {written : List Char}
    (spells : token.Spells written) :
    ∃ first others, written = first :: others ∧ isBlank first = false ∧
      Separator.ofChar? first = none := by
  cases spells with
  | bracketOpen => exact ⟨_, _, rfl, rfl, rfl⟩
  | bracketClose => exact ⟨_, _, rfl, rfl, rfl⟩
  | braceOpen => exact ⟨_, _, rfl, rfl, rfl⟩
  | braceClose => exact ⟨_, _, rfl, rfl, rfl⟩
  | literal spells =>
      cases spells with
      | string => exact ⟨_, _, rfl, rfl, rfl⟩
      | true => exact ⟨_, _, rfl, rfl, rfl⟩
      | false => exact ⟨_, _, rfl, rfl, rfl⟩
      | null => exact ⟨_, _, rfl, rfl, rfl⟩
      | number wellFormed =>
          rcases exists_cons_text wellFormed with ⟨first, others, split, starts⟩
          refine ⟨first, others, split, ?_⟩
          rcases starts with rfl | digit
          · exact ⟨rfl, rfl⟩
          · have noDigits : ∀ character ∈ [' ', '\t', '\n', '\r', ',', ':'],
                character.isDigit = false := by simp
            have other :
                ∀ character ∈ [' ', '\t', '\n', '\r', ',', ':'],
                  first ≠ character := by
              rintro character member rfl
              rw [noDigits first member] at digit
              cases digit
            constructor
            · simp [isBlank, other]
            · unfold Separator.ofChar?
              split
              · exact absurd rfl (other ',' (by simp))
              · exact absurd rfl (other ':' (by simp))
              · rfl

/-! ## Lexing -/

theorem lexFrom_blank
    {character : Char} (blank : isBlank character = true)
    (offset : Nat) (pending : Option (Separator × Nat)) (text : List Char) :
    lexFrom offset pending (character :: text) =
      lexFrom (offset + 1) pending text := by
  rw [lexFrom.eq_def]
  simp only [blank, if_true]

theorem lexFrom_separator (offset : Nat) (separator : Separator)
    (text : List Char) :
    lexFrom offset none (separator.character :: text) =
      lexFrom (offset + 1) (some (separator, offset)) text := by
  rw [lexFrom.eq_def]
  simp only [isBlank_character, Separator.ofChar?_character, Bool.false_eq_true,
    if_false]

theorem lexFrom_blanks
    {blanks : List Char} (isBlanks : IsBlanks blanks)
    (offset : Nat) (pending : Option (Separator × Nat)) (text : List Char) :
    lexFrom offset pending (blanks ++ text) =
      lexFrom (offset + byteLength blanks) pending text := by
  rw [isBlanks.byteLength_eq]
  induction blanks generalizing offset with
  | nil => rfl
  | cons character blanks ih =>
      have later :=
        ih (fun other member => isBlanks other (List.mem_cons_of_mem _ member))
        (offset + 1)
      rw [List.cons_append,
        lexFrom_blank (isBlanks character List.mem_cons_self), later,
        List.length_cons, Nat.add_assoc, Nat.add_comm 1]

/-- Lexing passes over a gap and remembers its separator. -/
theorem lexFrom_gap
    {gap : List Char} {separator : Option Separator}
    (isGap : IsGap gap separator)
    (offset : Nat) (text : List Char) :
    lexFrom offset none (gap ++ text) =
      lexFrom (offset + byteLength gap) (located offset gap separator)
        text := by
  cases isGap with
  | blank isBlanks => exact lexFrom_blanks isBlanks offset none text
  | separated beforeBlank afterBlank =>
      rename_i before after separator
      rw [List.append_assoc, lexFrom_blanks beforeBlank, List.cons_append,
        lexFrom_separator, lexFrom_blanks afterBlank, byteLength_append,
        byteLength_cons, utf8Size_character, located,
        takeWhile_isBlank beforeBlank]
      congr 1
      omega

theorem lexFrom_secondSeparator (offset place : Nat)
    (separator previous : Separator) (text : List Char) :
    lexFrom offset (some (previous, place)) (separator.character :: text) =
      .error (.lex offset (.doubleSeparator separator previous)) := by
  rw [lexFrom.eq_def]
  simp only [isBlank_character, Separator.ofChar?_character, Bool.false_eq_true,
    if_false]

section

variable {first : Char} {others : List Char}

/-- Lexing goes on behind the token that is scanned. -/
theorem lexFrom_scanned
    (notBlank : isBlank first = false)
    (notSeparator : Separator.ofChar? first = none)
    (offset : Nat) (pending : Option (Separator × Nat))
    {scanned : Scanned Token}
    (scan : scanToken (first :: others) = .ok scanned) :
    lexFrom offset pending (first :: others) =
      (lexFrom (offset + scanned.width) none scanned.rest).map fun later =>
        { later with
          lexemes :=
            ⟨scanned.value, offset, pending.map Prod.fst⟩ ::
              later.lexemes } := by
  rw [lexFrom.eq_def]
  simp only [notBlank, notSeparator, Bool.false_eq_true, if_false]
  split
  · rename_i failed
    rw [scan] at failed
    cases failed
  · rename_i found succeeded
    rw [scan] at succeeded
    cases succeeded
    cases lexFrom (offset + scanned.width) none scanned.rest <;> rfl

/-- Lexing fails where no token can be scanned. -/
theorem lexFrom_fault
    (notBlank : isBlank first = false)
    (notSeparator : Separator.ofChar? first = none)
    (offset : Nat) (pending : Option (Separator × Nat))
    {relative : Nat} {fault : LexFault}
    (scan : scanToken (first :: others) = .error (relative, fault)) :
    lexFrom offset pending (first :: others) =
      .error (.lex (offset + relative) fault) := by
  rw [lexFrom.eq_def]
  simp only [notBlank, notSeparator, Bool.false_eq_true, if_false]
  split
  · rename_i failed
    rw [scan] at failed
    cases failed
    rfl
  · rename_i succeeded
    rw [scan] at succeeded
    cases succeeded

end

/-- Lexing takes a written token that is at the head of a text. -/
theorem lexFrom_written
    {token : Token} {written rest : List Char}
    (spells : token.Spells written) (ends : token.EndsBefore rest)
    (offset : Nat) (pending : Option (Separator × Nat)) :
    lexFrom offset pending (written ++ rest) =
      (lexFrom (offset + byteLength written) none rest).map fun later =>
        { later with
          lexemes :=
            ⟨token, offset, pending.map Prod.fst⟩ :: later.lexemes } := by
  have scan :
      scanToken (written ++ rest) = .ok ⟨token, byteLength written, rest⟩ :=
    scanToken_eq_ok_iff.mpr ⟨written, spells, ends, rfl, rfl⟩
  rcases spells.exists_cons with ⟨first, others, rfl, notBlank, notSeparator⟩
  exact lexFrom_scanned notBlank notSeparator offset pending scan

/--
Lexing on after part of a gap finds what the whole of the text is taken apart
into.
-/
theorem lexed_of_lexFrom
    {start offset : Nat} {before text : List Char}
    {pending : Option (Separator × Nat)}
    {separator : Option Separator} {stream : TokenStream}
    (isGap : IsGap before separator)
    (remembered : pending = located start before separator)
    (reached : offset = start + byteLength before)
    (lexes : lexFrom offset pending text = .ok stream) :
    Lexed start (before ++ text) stream := by
  fun_induction lexFrom offset pending text generalizing start before separator
    stream with
  | case1 offset pending =>
      cases lexes
      rw [List.append_nil, reached, remembered]
      exact .finished isGap
  | case2 offset pending character text blank ih =>
      have isBlanks : IsBlanks [character] := by simpa [IsBlanks] using blank
      have size : byteLength [character] = 1 := isBlanks.byteLength_eq
      have later := ih (isGap.append_blanks isBlanks)
        (by rw [located_append isGap, remembered])
        (by rw [byteLength_append, size, reached, Nat.add_assoc]) lexes
      rwa [List.append_assoc] at later
  | case3 => cases lexes
  | case4 offset character text notBlank found isSeparator ih =>
      cases separator with
      | some separator => cases remembered
      | none =>
          cases isGap with
          | blank isBlanks =>
              have same : found.character = character :=
                character_of_ofChar? isSeparator
              have extended :
                  IsGap (before ++ [found.character]) (some found) :=
                .separated isBlanks isBlanks_nil
              have size : byteLength [found.character] = 1 := by
                rw [byteLength_cons, utf8Size_character, byteLength_nil]
              have later := ih extended
                (by rw [located, takeWhile_isBlank isBlanks, reached]; rfl)
                (by rw [byteLength_append, size, reached, Nat.add_assoc]) lexes
              rwa [List.append_assoc, same] at later
  | case5 => cases lexes
  | case6 offset pending character text notBlank notSeparator scanned scan ih =>
      cases found : lexFrom (offset + scanned.width) none scanned.rest with
      | error error =>
          rw [found] at lexes
          cases lexes
      | ok later =>
          rw [found] at lexes
          cases lexes
          rcases scanToken_eq_ok_iff.mp scan with
              ⟨written, spells, ends, split, width⟩
          have lexed := ih (.blank isBlanks_nil) rfl rfl found
          rw [List.nil_append, width, reached] at lexed
          rw [split, reached, remembered, map_fst_located]
          exact .token isGap spells ends lexed

/-- Lexing succeeds on exactly the texts of tokens, and finds their lexemes. -/
theorem lexFrom_eq_ok_iff {offset : Nat} {text : List Char}
    {stream : TokenStream} :
    lexFrom offset none text = .ok stream ↔ Lexed offset text stream := by
  constructor
  · intro lexes
    exact lexed_of_lexFrom (.blank isBlanks_nil) rfl rfl lexes
  · intro lexed
    induction lexed with
    | @finished offset gap separator isGap =>
        have passed := lexFrom_gap isGap offset []
        rw [List.append_nil] at passed
        rw [passed, lexFrom]
    | token isGap spells ends _ ih =>
        rw [lexFrom_gap isGap, lexFrom_written spells ends, ih, map_fst_located]
        rfl

end Token

end Criteria
