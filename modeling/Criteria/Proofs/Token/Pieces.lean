import Criteria.Proofs.Token.Language

/-!
# Texts as pieces

A text of tokens can be laid out as a row of pieces: single blanks, separators,
and tokens as they are written.  Such a row is a split of the text if every
piece is what it is called, a number or a word ends where no further character
sticks to it, and some token stands between any two separators.

Lexing succeeds on exactly the texts that can be split, and the lexemes can be
read off the split: `lex_accepts_exactly`.
-/

namespace Criteria

namespace Token

/-- A piece of a text. -/
inductive Piece where
  | blank (character : Char)
  | separator (separator : Separator)
  | token (token : Token) (written : List Char)

namespace Piece

/-- The text of a piece. -/
def text : Piece → List Char
  | .blank character => [character]
  | .separator found => [found.character]
  | .token _ written => written

/-- The text of pieces in a row. -/
def textOf (pieces : List Piece) : List Char :=
  pieces.flatMap text

/-- Whether a piece is white space. -/
def isSpace : Piece → Bool
  | .blank _ => true
  | .separator _ | .token _ _ => false

/-- Whether a piece is a separator. -/
def isSeparator : Piece → Bool
  | .separator _ => true
  | .blank _ | .token _ _ => false

/-- A piece in front of a text is what it is called. -/
def Stands : Piece → List Char → Prop
  | .blank character, _ => isBlank character = true
  | .separator _, _ => True
  | .token found written, rest => found.Spells written ∧ found.EndsBefore rest

/-- Every piece in a row is what it is called. -/
def AllStand : List Piece → Prop
  | [] => True
  | piece :: pieces => piece.Stands (textOf pieces) ∧ AllStand pieces

/-- But for white space, no separator follows another. -/
def Apart (pieces : List Piece) : Prop :=
  (pieces.filter fun piece => !piece.isSpace).IsChain fun first second =>
    ¬(first.isSeparator = true ∧ second.isSeparator = true)

/-- A row of pieces is a split of a text. -/
structure Splits (pieces : List Piece) (text : List Char) : Prop where
  whole : textOf pieces = text
  stand : AllStand pieces
  apart : Apart pieces

/--
The lexemes of pieces that start at an offset, behind a separator that may wait
for its token.  Every token is a lexeme and takes the separator that waits for
it; a separator for which no token comes is trailing.
-/
def streamOf (offset : Nat) (waiting : Option (Separator × Nat)) :
    List Piece → TokenStream
  | [] => ⟨[], offset, waiting⟩
  | .blank character :: pieces =>
      streamOf (offset + character.utf8Size) waiting pieces
  | .separator found :: pieces =>
      streamOf (offset + 1) (some (found, offset)) pieces
  | .token found written :: pieces =>
      let later := streamOf (offset + byteLength written) none pieces
      { later with
        lexemes := ⟨found, offset, waiting.map Prod.fst⟩ :: later.lexemes }

/-- The separator that waits, as a piece. -/
def queued (waiting : Option (Separator × Nat)) : List Piece :=
  (waiting.map fun found => .separator found.1).toList

/-! ## Separators apart -/

theorem apart_blank_iff
    {waiting : Option (Separator × Nat)} {character : Char}
    {pieces : List Piece} :
    Apart (queued waiting ++ .blank character :: pieces) ↔
      Apart (queued waiting ++ pieces) := by
  simp [Apart, List.filter_append, isSpace]

theorem apart_token_iff
    {waiting : Option (Separator × Nat)} {token : Token} {written : List Char}
    {pieces : List Piece} :
    Apart (queued waiting ++ .token token written :: pieces) ↔
      Apart pieces := by
  have alone : Apart (.token token written :: pieces) ↔ Apart pieces := by
    simp [Apart, isSpace, List.isChain_cons, isSeparator]
  cases waiting with
  | none => exact alone
  | some found =>
      rw [← alone]
      simp [queued, Apart, isSpace, List.isChain_cons, isSeparator]

theorem not_apart_separators
    {first second : Separator} {pieces : List Piece} :
    ¬ Apart (.separator first :: .separator second :: pieces) := by
  simp [Apart, isSpace, List.isChain_cons, isSeparator]

theorem apart_queued (waiting : Option (Separator × Nat)) :
    Apart (queued waiting) := by
  cases waiting <;> simp [Apart, queued, isSpace]

/-! ## Lexing pieces -/

/-- Lexing the text of a split reads the lexemes off it. -/
theorem lexFrom_textOf
    {pieces : List Piece} (stand : AllStand pieces)
    {waiting : Option (Separator × Nat)}
    (apart : Apart (queued waiting ++ pieces)) (offset : Nat) :
    lexFrom offset waiting (textOf pieces) =
      .ok (streamOf offset waiting pieces) := by
  induction pieces generalizing offset waiting with
  | nil => simp [textOf, lexFrom, streamOf]
  | cons piece pieces ih =>
      rcases stand with ⟨stands, stand⟩
      cases piece with
      | blank character =>
          have blanks : IsBlanks [character] := by
            intro other member
            rw [List.mem_singleton.mp member]
            exact stands
          have passed := lexFrom_blanks blanks offset waiting (textOf pieces)
          rw [byteLength_cons, byteLength_nil, Nat.add_zero] at passed
          exact passed.trans (ih stand (apart_blank_iff.mp apart) _)
      | separator separator =>
          cases waiting with
          | some found => exact absurd apart not_apart_separators
          | none =>
              have taken := lexFrom_separator offset separator (textOf pieces)
              exact taken.trans (ih stand apart _)
      | token token written =>
          have taken := lexFrom_written stands.1 stands.2 offset waiting
          rw [ih stand (apart_token_iff.mp apart)] at taken
          exact taken

/-- A text that can be lexed can be split, with the lexemes it is lexed into. -/
theorem exists_pieces
    {offset : Nat} {waiting : Option (Separator × Nat)} {text : List Char}
    {stream : TokenStream}
    (lexes : lexFrom offset waiting text = .ok stream) :
    ∃ pieces, textOf pieces = text ∧ AllStand pieces ∧
      Apart (queued waiting ++ pieces) ∧
        stream = streamOf offset waiting pieces := by
  fun_induction lexFrom offset waiting text generalizing stream with
  | case1 offset waiting =>
      cases lexes
      exact ⟨[], rfl, trivial, by simpa using apart_queued waiting, rfl⟩
  | case2 offset waiting character text blank ih =>
      rcases ih lexes with ⟨pieces, rfl, stand, apart, rfl⟩
      have size : character.utf8Size = 1 := by
        have blanks : IsBlanks [character] := by simpa [IsBlanks] using blank
        simpa using blanks.byteLength_eq
      refine ⟨.blank character :: pieces, rfl, ⟨blank, stand⟩,
        apart_blank_iff.mpr apart, ?_⟩
      rw [streamOf, size]
  | case3 => cases lexes
  | case4 offset character text notBlank separator isSeparator ih =>
      rcases ih lexes with ⟨pieces, rfl, stand, apart, rfl⟩
      refine ⟨.separator separator :: pieces, ?_, ⟨trivial, stand⟩, apart, rfl⟩
      rw [← character_of_ofChar? isSeparator]
      rfl
  | case5 => cases lexes
  | case6 offset waiting character text notBlank notSeparator scanned scan ih =>
      cases found : lexFrom (offset + scanned.width) none scanned.rest with
      | error error =>
          rw [found] at lexes
          cases lexes
      | ok later =>
          rw [found] at lexes
          cases lexes
          rcases scanToken_eq_ok_iff.mp scan with
              ⟨written, spells, ends, split, width⟩
          rcases ih found with ⟨pieces, isRest, stand, apart, rfl⟩
          refine ⟨.token scanned.value written :: pieces, ?_,
            ⟨⟨spells, ?_⟩, stand⟩, apart_token_iff.mpr apart, ?_⟩
          · rw [split, ← isRest]
            rfl
          · rwa [isRest]
          · rw [streamOf, ← width]

end Piece

end Token

open Token.Piece (Splits streamOf)

/--
Lexing succeeds on exactly the texts that can be split into blanks, separators
that tokens keep apart, and written tokens; and it finds exactly the tokens of
the split, in order and with their values, each with its offset and with the
separator that stands between it and the token before.
-/
theorem lex_accepts_exactly (text : String) (stream : TokenStream) :
    lex text = .ok stream ↔
      ∃ pieces, Splits pieces text.toList ∧
        stream = streamOf 0 none pieces := by
  constructor
  · intro lexes
    rcases Token.Piece.exists_pieces lexes with
        ⟨pieces, whole, stand, apart, equal⟩
    exact ⟨pieces, ⟨whole, stand, apart⟩, equal⟩
  · rintro ⟨pieces, ⟨whole, stand, apart⟩, rfl⟩
    have nothingWaits :
        Token.Piece.Apart (Token.Piece.queued none ++ pieces) := apart
    rw [lex, ← whole]
    exact Token.Piece.lexFrom_textOf stand nothingWaits 0

end Criteria
