import Criteria.Proofs.Token.Marks

/-!
# Longer texts

A text can be continued behind a blank with any other text, and any tokens that
can be written can be written behind each other.  Without the blank a number at
the end of a text may grow into another number, but that is all that can happen
to the tokens of a text that goes on and can still be lexed: their shapes stay.
-/

namespace Criteria

namespace Token

/-! ## Writing marks -/

theorem endsBefore_cons_append
    {token : Token} {character : Char} {rest : List Char}
    (ends : token.EndsBefore (character :: rest)) (behind : List Char) :
    token.EndsBefore ((character :: rest) ++ behind) := by
  cases token with
  | literal value => cases value <;> exact ends
  | bracketOpen => trivial
  | bracketClose => trivial
  | braceOpen => trivial
  | braceClose => trivial

theorem endsBefore_append
    {token : Token} {rest : List Char} (ends : token.EndsBefore rest)
    {behind : List Char} (delimits : Delimits behind) :
    token.EndsBefore (rest ++ behind) := by
  cases rest with
  | nil => exact delimits token
  | cons character rest => exact endsBefore_cons_append ends behind

theorem delimits_space (rest : List Char) : Delimits (' ' :: rest) :=
  delimits_cons rfl rfl rest

theorem isBlanks_space : IsBlanks [' '] := by
  intro character member
  rw [List.mem_singleton.mp member]
  rfl

/-- Two texts with a blank between them are taken apart one after the other. -/
theorem Marked.append
    {front back : List Char} {earlier later : List Mark}
    {trailing : Option Separator}
    (frontMarked : Marked front earlier none)
    (backMarked : Marked back later trailing) :
    Marked (front ++ ' ' :: back) (earlier ++ later) trailing := by
  generalize nothing : none = behind at frontMarked
  induction frontMarked with
  | finished isGap =>
      subst nothing
      cases isGap with
      | blank isBlanks =>
          have both :=
            backMarked.blanks_append
              (isBlanks_append.mpr ⟨isBlanks, isBlanks_space⟩)
          rwa [List.append_assoc] at both
  | token isGap spells ends _ ih =>
      rw [List.append_assoc, List.append_assoc]
      exact .token isGap spells (endsBefore_append ends (delimits_space back))
        (ih nothing)

/-- Tokens that can be written can be written behind each other. -/
theorem exists_marked
    {marks : List Mark} (writable : ∀ mark ∈ marks, mark.token.Writable) :
    ∃ text, Marked text marks none := by
  induction marks with
  | nil => exact ⟨[], .finished (.blank isBlanks_nil)⟩
  | cons mark marks ih =>
      rcases List.forall_mem_cons.mp writable with ⟨⟨written, spells⟩, others⟩
      rcases ih others with ⟨rest, marked⟩
      have blank := marked.blanks_append isBlanks_space
      rcases mark with ⟨separator, token⟩
      cases separator with
      | none =>
          exact ⟨_, .token (.blank isBlanks_nil) spells (delimits_space rest _)
            blank⟩
      | some separator =>
          exact ⟨_, .token (isGap_separator separator) spells
            (delimits_space rest _) blank⟩

/-- The tokens of a text can be written, as they are written there. -/
theorem Marked.writable
    {text : List Char} {marks : List Mark} {trailing : Option Separator}
    (marked : Marked text marks trailing) :
    ∀ mark ∈ marks, mark.token.Writable := by
  induction marked with
  | finished =>
      intro mark member
      cases member
  | token isGap spells ends _ ih =>
      exact List.forall_mem_cons.mpr ⟨⟨_, spells⟩, ih⟩

/-! ## Shapes -/

/-- A token up to the value of a number and the characters of a string. -/
def shape : Token → Token
  | .literal (.number _) => .literal (.number (.finite (.zero false)))
  | .literal (.string _) => .literal (.string "")
  | token => token

theorem eq_of_shape_eq
    {token delimiter : Token} (same : token.shape = delimiter)
    (noLiteral : ∀ value, delimiter ≠ .literal value) :
    token = delimiter := by
  cases token with
  | literal value => cases value <;> exact absurd same.symm (noLiteral _)
  | bracketOpen => exact same
  | bracketClose => exact same
  | braceOpen => exact same
  | braceClose => exact same

theorem exists_literal_of_shape_eq
    {token : Token} {value : Literal}
    (same : token.shape = (Token.literal value).shape) :
    ∃ other, token = .literal other := by
  cases token with
  | literal other => exact ⟨other, rfl⟩
  | bracketOpen => cases value <;> cases same
  | bracketClose => cases value <;> cases same
  | braceOpen => cases value <;> cases same
  | braceClose => cases value <;> cases same

theorem exists_string_of_shape_eq
    {token : Token} {text : String}
    (same : token.shape = (Token.literal (.string text)).shape) :
    ∃ other, token = .literal (.string other) := by
  rcases exists_literal_of_shape_eq same with ⟨value, rfl⟩
  cases value with
  | string other => exact ⟨other, rfl⟩
  | number => cases same
  | boolean => cases same
  | null => cases same

/-- The shape of the tokens that begin with a character. -/
def shapeAt : Char → Token
  | '[' => .bracketOpen
  | ']' => .bracketClose
  | '\x7b' => .braceOpen
  | '\x7d' => .braceClose
  | '\x22' => .literal (.string "")
  | 't' => .literal (.boolean true)
  | 'f' => .literal (.boolean false)
  | 'n' => .literal .null
  | _ => .literal (.number (.finite (.zero false)))

/-- The first character of a token tells its shape. -/
theorem Spells.shape_eq
    {token : Token} {first : Char} {others : List Char}
    (spells : token.Spells (first :: others)) :
    token.shape = shapeAt first := by
  generalize whole : first :: others = written at spells
  cases spells with
  | bracketOpen => cases whole; rfl
  | bracketClose => cases whole; rfl
  | braceOpen => cases whole; rfl
  | braceClose => cases whole; rfl
  | literal spells =>
      cases spells with
      | string => cases whole; rfl
      | true => cases whole; rfl
      | false => cases whole; rfl
      | null => cases whole; rfl
      | number wellFormed =>
          rcases exists_cons_text wellFormed with ⟨start, rest, split, starts⟩
          rw [split, List.cons.injEq] at whole
          rcases whole with ⟨rfl, _⟩
          rcases starts with rfl | digit
          · rfl
          · have noDigits : ∀ character ∈
                ['[', ']', '\x7b', '\x7d', '\x22', 't', 'f', 'n'],
                character.isDigit = false := by simp
            unfold shapeAt
            split
            all_goals first
              | rfl
              | exact absurd digit (Bool.eq_false_iff.mp (noDigits _ (by simp)))

end Token

/-- A mark up to the shape of its token. -/
def Mark.shape (mark : Mark) : Mark :=
  ⟨mark.separator, mark.token.shape⟩

namespace Token

/--
The first token of a text that can be lexed, if the text begins with neither
blank nor comma.
-/
theorem exists_scan_of_lexFrom
    {offset : Nat} {pending : Option (Separator × Nat)} {first : Char}
    {others : List Char}
    {stream : TokenStream}
    (notBlank : isBlank first = false)
    (notSeparator : Separator.ofChar? first = none)
    (lexes : lexFrom offset pending (first :: others) = .ok stream) :
    ∃ token later,
      stream.lexemes = ⟨token, offset, pending.map Prod.fst⟩ :: later ∧
      token.shape = shapeAt first := by
  cases scan : scanToken (first :: others) with
  | error failed =>
      rw [lexFrom_fault notBlank notSeparator offset pending scan] at lexes
      cases lexes
  | ok scanned =>
      rw [lexFrom_scanned notBlank notSeparator offset pending scan] at lexes
      rcases scanToken_eq_ok_iff.mp scan with ⟨written, spells, _, split, _⟩
      rcases spells.exists_cons with ⟨start, rest, rfl, _, _⟩
      rw [List.cons_append, List.cons.injEq] at split
      rcases split with ⟨rfl, _⟩
      cases found : lexFrom (offset + scanned.width) none scanned.rest with
      | error error =>
          rw [found] at lexes
          cases lexes
      | ok later =>
          rw [found] at lexes
          cases lexes
          exact ⟨_, _, rfl, spells.shape_eq⟩

/-- When a text goes on, the shapes of its tokens stay. -/
theorem Lexed.shapes_isPrefix
    {offset : Nat} {text suffix : List Char} {stream longer : TokenStream}
    (lexed : Lexed offset text stream)
    (lexes : lexFrom offset none (text ++ suffix) = .ok longer) :
    stream.lexemes.map (Mark.shape ∘ Lexeme.mark) <+:
      longer.lexemes.map (Mark.shape ∘ Lexeme.mark) := by
  induction lexed generalizing longer with
  | finished => exact List.nil_prefix
  | @token offset gap written rest separator token stream isGap spells ends
    later ih =>
      rw [List.append_assoc, List.append_assoc, lexFrom_gap isGap] at lexes
      cases rest with
      | nil =>
          have nothing := lexFrom_eq_ok_iff.mpr later
          rw [lexFrom, Except.ok.injEq] at nothing
          rcases spells.exists_cons with
              ⟨first, others, rfl, notBlank, notSeparator⟩
          rcases exists_scan_of_lexFrom notBlank notSeparator lexes with
              ⟨found, more, split, sameShape⟩
          rw [split, ← nothing]
          simp [Mark.shape, Lexeme.mark, sameShape, spells.shape_eq]
      | cons character rest =>
          rw [lexFrom_written spells (endsBefore_cons_append ends suffix)]
            at lexes
          cases found : lexFrom (offset + byteLength gap + byteLength written)
              none ((character :: rest) ++ suffix) with
          | error error =>
              rw [found] at lexes
              cases lexes
          | ok others =>
              rw [found] at lexes
              cases lexes
              have shapes := ih found
              simp only [List.map_cons, List.cons_prefix_cons]
              exact ⟨by simp [Lexeme.mark], shapes⟩

end Token

end Criteria
