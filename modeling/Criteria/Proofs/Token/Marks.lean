import Criteria.Proofs.Token.Language

/-!
# Texts as marks

What a grammar sees of a text are its marks: the tokens, each with the
separator before it, without their offsets.  `Marked` takes a text apart into
marks.  It holds of exactly the texts that can be lexed, texts can be put
together along it, and every sequence of tokens that can be written at all is
the sequence of marks of some text.
-/

namespace Criteria

/--
A token and the separator before it: what is left of a lexeme without its
offset.
-/
structure Mark where
  separator : Option Separator
  token : Token
  deriving DecidableEq

/-- The mark of a lexeme. -/
def Lexeme.mark (lexeme : Lexeme) : Mark :=
  ⟨lexeme.separator, lexeme.token⟩

namespace Token

/-- A text taken apart into marks, and the separator behind the last token. -/
inductive Marked : List Char → List Mark → Option Separator → Prop where
  | finished {gap : List Char} {separator : Option Separator}
      (isGap : IsGap gap separator) :
      Marked gap [] separator
  | token {gap written rest : List Char} {separator trailing : Option Separator}
      {token : Token} {marks : List Mark}
      (isGap : IsGap gap separator)
      (spells : token.Spells written)
      (ends : token.EndsBefore rest)
      (later : Marked rest marks trailing) :
      Marked (gap ++ (written ++ rest)) (⟨separator, token⟩ :: marks) trailing

/-- A text is taken apart into the marks of its lexemes. -/
theorem Lexed.marked
    {offset : Nat} {text : List Char} {stream : TokenStream}
    (lexed : Lexed offset text stream) :
    Marked text (stream.lexemes.map Lexeme.mark)
      (stream.trailing.map Prod.fst) := by
  induction lexed with
  | finished isGap =>
      rw [map_fst_located]
      exact .finished isGap
  | token isGap spells ends _ ih => exact .token isGap spells ends ih

/-- The marks of a text are those of its lexemes, wherever the text starts. -/
theorem Marked.exists_lexed
    {text : List Char} {marks : List Mark} {trailing : Option Separator}
    (marked : Marked text marks trailing) (offset : Nat) :
    ∃ stream, Lexed offset text stream ∧
      stream.lexemes.map Lexeme.mark = marks ∧
      stream.trailing.map Prod.fst = trailing := by
  induction marked generalizing offset with
  | @finished gap separator isGap =>
      exact ⟨_, .finished isGap, rfl, map_fst_located offset gap separator⟩
  | @token gap written _ _ _ _ _ isGap spells ends _ ih =>
      rcases ih (offset + byteLength gap + byteLength written) with
          ⟨stream, lexed, rfl, rfl⟩
      exact ⟨_, .token isGap spells ends lexed, rfl, rfl⟩

/--
A text is taken apart into marks exactly when it can be lexed into lexemes with
them.
-/
theorem marked_iff
    {text : String} {marks : List Mark} {trailing : Option Separator} :
    Marked text.toList marks trailing ↔
      ∃ stream, lex text = .ok stream ∧ stream.lexemes.map Lexeme.mark = marks ∧
        stream.trailing.map Prod.fst = trailing := by
  constructor
  · intro marked
    rcases marked.exists_lexed 0 with ⟨stream, lexed, same, behind⟩
    exact ⟨stream, lexFrom_eq_ok_iff.mpr lexed, same, behind⟩
  · rintro ⟨stream, lexes, rfl, rfl⟩
    exact (lexFrom_eq_ok_iff.mp lexes).marked

/-- A text is taken apart into marks in one way at most. -/
theorem Marked.unique
    {text : List Char} {left right : List Mark}
    {leftTrailing rightTrailing : Option Separator}
    (leftMarked : Marked text left leftTrailing)
    (rightMarked : Marked text right rightTrailing) :
    left = right ∧ leftTrailing = rightTrailing := by
  rcases leftMarked.exists_lexed 0 with ⟨leftStream, leftLexed, rfl, rfl⟩
  rcases rightMarked.exists_lexed 0 with ⟨rightStream, rightLexed, rfl, rfl⟩
  have leftFound := lexFrom_eq_ok_iff.mpr leftLexed
  have rightFound := lexFrom_eq_ok_iff.mpr rightLexed
  rw [leftFound] at rightFound
  cases rightFound
  exact ⟨rfl, rfl⟩

/-! ## Putting texts together -/

/-- No token runs on into a text. -/
def Delimits (rest : List Char) : Prop :=
  ∀ token : Token, token.EndsBefore rest

theorem delimits_nil : Delimits [] := by
  intro token
  cases token with
  | literal value => cases value <;> simp [EndsBefore]
  | bracketOpen => trivial
  | bracketClose => trivial
  | braceOpen => trivial
  | braceClose => trivial

theorem delimits_cons
    {character : Char} (noNumber : sticksToNumber character = false)
    (noWord : isWordCharacter character = false) (rest : List Char) :
    Delimits (character :: rest) := by
  intro token
  cases token with
  | literal value => cases value <;> simp [EndsBefore, noNumber, noWord]
  | bracketOpen => trivial
  | bracketClose => trivial
  | braceOpen => trivial
  | braceClose => trivial

theorem delimits_blank
    {character : Char} (blank : isBlank character = true)
    (rest : List Char) :
    Delimits (character :: rest) := by
  simp only [isBlank, Bool.or_eq_true, beq_iff_eq] at blank
  rcases blank with ((rfl | rfl) | rfl) | rfl <;>
    exact delimits_cons rfl rfl _

theorem delimits_append_blanks
    {blanks rest : List Char} (isBlanks : IsBlanks blanks)
    (delimits : Delimits rest) :
    Delimits (blanks ++ rest) := by
  cases blanks with
  | nil => exact delimits
  | cons character blanks =>
      exact delimits_blank (isBlanks character List.mem_cons_self) _

theorem isGap_separator (separator : Separator) :
    IsGap [separator.character] (some separator) :=
  .separated isBlanks_nil isBlanks_nil

/-- A token without anything before it goes in front of a text. -/
theorem Marked.written_append
    {rest : List Char} {marks : List Mark} {trailing : Option Separator}
    (marked : Marked rest marks trailing)
    {token : Token} {written : List Char}
    (spells : token.Spells written)
    (ends : token.EndsBefore rest) :
    Marked (written ++ rest) (⟨none, token⟩ :: marks) trailing :=
  .token (.blank isBlanks_nil) spells ends marked

/-- Blanks before a text change nothing about its marks. -/
theorem Marked.blanks_append
    {text : List Char} {marks : List Mark} {trailing : Option Separator}
    (marked : Marked text marks trailing)
    {blanks : List Char} (isBlanks : IsBlanks blanks) :
    Marked (blanks ++ text) marks trailing := by
  cases marked with
  | finished isGap => exact .finished (isGap.blanks_append isBlanks)
  | token isGap spells ends later =>
      rw [← List.append_assoc]
      exact .token (isGap.blanks_append isBlanks) spells ends later

/-! ## Taking texts apart -/

theorem Marked.cons_split
    {text : List Char} {separator trailing : Option Separator} {token : Token}
    {marks : List Mark}
    (marked : Marked text (⟨separator, token⟩ :: marks) trailing) :
    ∃ gap written rest, text = gap ++ (written ++ rest) ∧ IsGap gap separator ∧
      token.Spells written ∧ token.EndsBefore rest ∧
        Marked rest marks trailing := by
  cases marked with
  | token isGap spells ends later =>
      exact ⟨_, _, _, rfl, isGap, spells, ends, later⟩

/--
A text whose first token stands behind no separator begins with blanks and that
token.
-/
theorem Marked.first_split
    {text : List Char} {trailing : Option Separator} {token : Token}
    {marks : List Mark}
    (marked : Marked text (⟨none, token⟩ :: marks) trailing) :
    ∃ blanks written rest, text = blanks ++ (written ++ rest) ∧
      IsBlanks blanks ∧
      token.Spells written ∧ Marked rest marks trailing := by
  rcases marked.cons_split with
      ⟨gap, written, rest, split, isGap, spells, _, later⟩
  cases isGap with
  | blank isBlanks => exact ⟨gap, written, rest, split, isBlanks, spells, later⟩

/-- The separator before the first token can be split off a text. -/
theorem Marked.separator_split
    {text : List Char} {separator : Separator} {trailing : Option Separator}
    {token : Token}
    {marks : List Mark}
    (marked : Marked text (⟨some separator, token⟩ :: marks) trailing) :
    ∃ before rest, text = before ++ separator.character :: rest ∧
      IsBlanks before ∧
      Marked rest (⟨none, token⟩ :: marks) trailing := by
  rcases marked.cons_split with
      ⟨gap, written, rest, rfl, isGap, spells, ends, later⟩
  cases isGap with
  | separated beforeBlank afterBlank =>
      rw [List.append_assoc, List.cons_append]
      exact ⟨_, _, rfl, beforeBlank,
        .token (.blank afterBlank) spells ends later⟩

end Token

end Criteria
