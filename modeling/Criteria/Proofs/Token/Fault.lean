import Criteria.Proofs.Token.Language

/-!
# Where lexing fails

A fault is told with the offset of a character of the text: the first character
of a number or a word that is none, the quote of a string that is not closed,
the character within a string that may not stand there, or the second of two
separators.  So the offset of a fault always lies in front of the end of the
text, on a boundary between characters.
-/

namespace Criteria

/-- A character of a text starts at an offset. -/
def StartsCharacter (text : List Char) (offset : Nat) : Prop :=
  ∃ front character back, text = front ++ character :: back ∧
    offset = byteLength front

theorem startsCharacter_zero (character : Char) (text : List Char) :
    StartsCharacter (character :: text) 0 :=
  ⟨[], character, text, rfl, rfl⟩

/-- The characters of a text are characters of a longer one. -/
theorem StartsCharacter.append_left
    {text : List Char} {offset : Nat} (starts : StartsCharacter text offset)
    (before : List Char) :
    StartsCharacter (before ++ text) (byteLength before + offset) := by
  rcases starts with ⟨front, character, back, rfl, rfl⟩
  exact ⟨before ++ front, character, back, (List.append_assoc ..).symm,
    (byteLength_append before front).symm⟩

theorem StartsCharacter.cons
    {text : List Char} {offset : Nat} (starts : StartsCharacter text offset)
    (first : Char) :
    StartsCharacter (first :: text) (first.utf8Size + offset) :=
  starts.append_left [first]

namespace StringLiteral

theorem scanEscape_nil {fault : StringFault}
    (fails : scanEscape [] = .error fault) : fault = .unterminated := by
  cases fails
  rfl

/-- The width of an escape counts its backslash and the text scanned. -/
theorem append_of_scanEscape
    {text : List Char} {escape : Scanned Char}
    (scan : scanEscape text = .ok escape) :
    ∃ piece, text = piece ++ escape.rest ∧
      escape.width = 1 + byteLength piece := by
  rcases escapes_of_scanEscape scan with ⟨piece, escapes, split⟩
  rw [split, scanEscape_append escapes] at scan
  refine ⟨piece, split, ?_⟩
  cases escape
  cases scan
  rfl

/--
A fault of a string is placed at its quote, or at a character behind those that
were read.
-/
theorem startsCharacter_of_scanCharacters
    {width : Nat} {read text : List Char} {offset : Nat} {fault : StringFault}
    (fails : scanCharacters width read text = .error (offset, fault)) :
    offset = 0 ∨
      ∃ behind, offset = width + behind ∧ StartsCharacter text behind := by
  fun_induction scanCharacters width read text with
  | case1 =>
      cases fails
      exact Or.inl rfl
  | case2 => cases fails
  | case3 width read rest escape found ih =>
      refine (ih fails).imp_right ?_
      rintro ⟨behind, rfl, starts⟩
      rcases append_of_scanEscape found with ⟨piece, rfl, size⟩
      have longer := starts.append_left ('\\' :: piece)
      refine ⟨_, ?_, longer⟩
      rw [size, byteLength_cons, Nat.add_assoc]
      rfl
  | case4 width read rest cause found =>
      cases fails
      cases rest with
      | nil =>
          cases scanEscape_nil found
          exact Or.inl rfl
      | cons letter rest =>
          have letterStarts := (startsCharacter_zero letter rest).cons '\\'
          cases fault with
          | unterminated => exact Or.inl rfl
          | invalidEscape => exact Or.inr ⟨1, rfl, letterStarts⟩
          | controlCharacter => exact Or.inr ⟨1, rfl, letterStarts⟩
          | invalidCodePoint => exact Or.inr ⟨1, rfl, letterStarts⟩
          | unpairedSurrogate => exact Or.inr ⟨1, rfl, letterStarts⟩
  | case5 width read character rest _ _ _ =>
      cases fails
      exact Or.inr ⟨0, rfl, startsCharacter_zero character rest⟩
  | case6 width read character rest _ _ _ ih =>
      refine (ih fails).imp_right ?_
      rintro ⟨behind, rfl, starts⟩
      exact ⟨_, Nat.add_assoc .., starts.cons character⟩

end StringLiteral

namespace Token

theorem scanNumber_error_offset
    {text : List Char} {offset : Nat} {fault : LexFault}
    (fails : scanNumber text = .error (offset, fault)) : offset = 0 := by
  unfold scanNumber at fails
  split at fails
  · cases fails
    rfl
  · split at fails
    · cases fails
      rfl
    · split at fails
      · cases fails
      · cases fails
        rfl

theorem scanWord_error_offset
    {text : List Char} {offset : Nat} {fault : LexFault}
    (fails : scanWord text = .error (offset, fault)) : offset = 0 := by
  unfold scanWord at fails
  simp only at fails
  split at fails
  · cases fails
  · cases fails
    rfl

/-- A fault of a string lies at its opening quote or at a character behind. -/
theorem startsCharacter_of_scanString
    {text : List Char} {offset : Nat} {fault : LexFault}
    (fails : scanString text = .error (offset, fault)) :
    StartsCharacter ('\x22' :: text) offset := by
  unfold scanString StringLiteral.scan at fails
  cases scanned : StringLiteral.scanCharacters 1 [] text with
  | ok found =>
      rw [scanned] at fails
      cases fails
  | error failed =>
      rw [scanned] at fails
      cases fails
      rcases StringLiteral.startsCharacter_of_scanCharacters scanned with
        atQuote | ⟨behind, placed, starts⟩
      · rw [atQuote]
        exact startsCharacter_zero _ text
      · rw [placed]
        exact starts.cons '\x22'

/-- A token that cannot be scanned has its fault at one of its characters. -/
theorem startsCharacter_of_scanToken
    {first : Char} {others : List Char} {offset : Nat} {fault : LexFault}
    (fails : scanToken (first :: others) = .error (offset, fault)) :
    StartsCharacter (first :: others) offset := by
  by_cases plain : first ∉ ['[', ']', '\x7b', '\x7d', '\x22']
  · rw [scanToken_cons plain] at fails
    have atStart : offset = 0 := by
      split at fails
      · exact scanNumber_error_offset fails
      · split at fails
        · exact scanWord_error_offset fails
        · cases fails
          rfl
    rw [atStart]
    exact startsCharacter_zero first others
  · simp only [List.mem_cons, List.not_mem_nil, or_false, not_not] at plain
    rcases plain with rfl | rfl | rfl | rfl | rfl
    · cases fails
    · cases fails
    · cases fails
    · cases fails
    · exact startsCharacter_of_scanString fails

/-- Lexing fails at a character of the text. -/
theorem startsCharacter_of_lexFrom
    {offset : Nat} {waiting : Option (Separator × Nat)} {text : List Char}
    {error : ConditionError}
    (fails : lexFrom offset waiting text = .error error) :
    ∃ behind fault, error = .lex (offset + behind) fault ∧
      StartsCharacter text behind := by
  fun_induction lexFrom offset waiting text with
  | case1 => cases fails
  | case2 offset waiting character text blank ih =>
      rcases ih fails with ⟨behind, fault, rfl, starts⟩
      have isBlanks : IsBlanks [character] := by simpa [IsBlanks] using blank
      refine ⟨_, fault, ?_, starts.append_left [character]⟩
      rw [isBlanks.byteLength_eq, Nat.add_assoc]
      rfl
  | case3 offset character text _ found previous place _ =>
      cases fails
      exact ⟨0, _, rfl, startsCharacter_zero character text⟩
  | case4 offset character text _ found isSeparator ih =>
      rcases ih fails with ⟨behind, fault, rfl, starts⟩
      refine ⟨_, fault, ?_, starts.cons character⟩
      rw [← character_of_ofChar? isSeparator, utf8Size_character,
        Nat.add_assoc]
  | case5 offset character text _ waiting _ relative fault scan =>
      cases fails
      exact ⟨relative, fault, rfl, startsCharacter_of_scanToken scan⟩
  | case6 offset character text _ waiting _ scanned scan ih =>
      cases found : lexFrom (offset + scanned.width) none scanned.rest with
      | ok later =>
          rw [found] at fails
          cases fails
      | error error =>
          rw [found] at fails
          cases fails
          rcases ih found with ⟨behind, fault, rfl, starts⟩
          rcases scanToken_eq_ok_iff.mp scan with
            ⟨written, _, _, split, width⟩
          refine ⟨_, fault, ?_, split ▸ starts.append_left written⟩
          rw [width, Nat.add_assoc]

end Token

end Criteria
