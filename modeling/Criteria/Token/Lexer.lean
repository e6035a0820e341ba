import Criteria.Error
import Criteria.Number.Numeral
import Criteria.Text.Blank

/-!
# From text to tokens

The lexer skips blanks, takes separators aside and reads one token after the
other.  A token is read without regard to where it stands: `scanToken` sees
only the text from the token on, counts bytes from there, and places its
faults relative to there; `lexFrom` adds the offset of the token.
-/

namespace Criteria

namespace Token

/-- Whether a character may not follow a number directly. -/
def sticksToNumber (character : Char) : Bool :=
  character.isAlphanum || character == '.' || character == '-' ||
    character == '+'

/--
Scans a number; it must be finite once rounded, and end where a token may end.
-/
def scanNumber (text : List Char) : Except (Nat × LexFault) (Scanned Token) :=
  match Numeral.read? text with
  | none => .error (0, .invalidNumber)
  | some (numeral, rest) =>
      if rest.head?.any sticksToNumber then .error (0, .invalidNumber)
      else
        match numeral.toDouble with
        | .finite value =>
            .ok ⟨.literal (.number (.finite value)), numeral.text.length, rest⟩
        | _ => .error (0, .numberOutOfRange)

/-- Whether a character belongs to a word. -/
def isWordCharacter (character : Char) : Bool :=
  character.isAlphanum || character == '_'

/-- The literal that a word stands for. -/
def wordLiteral? (word : List Char) : Option Literal :=
  if word = "true".toList then some (.boolean true)
  else if word = "false".toList then some (.boolean false)
  else if word = "null".toList then some .null
  else none

/--
Scans a word as far as it goes; it must be one of the three that are literals.
-/
def scanWord (text : List Char) : Except (Nat × LexFault) (Scanned Token) :=
  let word := text.takeWhile isWordCharacter
  match wordLiteral? word with
  | some denoted =>
      .ok ⟨.literal denoted, word.length, text.dropWhile isWordCharacter⟩
  | none => .error (0, .invalidWord (String.ofList word))

/-- Scans a string, given the text after its opening quote. -/
def scanString (text : List Char) : Except (Nat × LexFault) (Scanned Token) :=
  match StringLiteral.scan text with
  | .ok scanned =>
      .ok ⟨.literal (.string scanned.value), scanned.width, scanned.rest⟩
  | .error (offset, fault) => .error (offset, .inString fault)

/--
Scans the token at the head of a text that starts with neither a blank nor a
separator.
-/
def scanToken : List Char → Except (Nat × LexFault) (Scanned Token)
  | [] => .error (0, .invalidNumber)
  | '[' :: rest => .ok ⟨.bracketOpen, 1, rest⟩
  | ']' :: rest => .ok ⟨.bracketClose, 1, rest⟩
  | '\x7b' :: rest => .ok ⟨.braceOpen, 1, rest⟩
  | '\x7d' :: rest => .ok ⟨.braceClose, 1, rest⟩
  | '\x22' :: rest => scanString rest
  | first :: rest =>
      if first = '-' ∨ first.isDigit then scanNumber (first :: rest)
      else if first.isAlpha then scanWord (first :: rest)
      else .error (0, .invalidCharacter first)

theorem scanNumber_shorter
    {text : List Char} {scanned : Scanned Token}
    (scan : scanNumber text = .ok scanned) :
    scanned.rest.length < text.length := by
  unfold scanNumber at scan
  split at scan
  · simp at scan
  · rename_i read
    split at scan
    · simp at scan
    · split at scan
      · simp only [Except.ok.injEq] at scan
        subst scan
        exact Numeral.read?_shorter read
      · simp at scan

theorem scanWord_shorter
    {text : List Char} {scanned : Scanned Token}
    (scan : scanWord text = .ok scanned) :
    scanned.rest.length < text.length := by
  unfold scanWord at scan
  simp only at scan
  split at scan
  · rename_i denoted found
    simp only [Except.ok.injEq] at scan
    subst scan
    have parts := congrArg List.length
      (List.takeWhile_append_dropWhile (p := isWordCharacter) (l := text))
    rw [List.length_append] at parts
    have nonempty : text.takeWhile isWordCharacter ≠ [] := by
      intro empty
      rw [empty] at found
      simp [wordLiteral?] at found
    have positive := List.length_pos_iff.mpr nonempty
    simp only
    omega
  · simp at scan

theorem scanString_shorter
    {text : List Char} {scanned : Scanned Token}
    (scan : scanString text = .ok scanned) :
    scanned.rest.length < text.length := by
  unfold scanString at scan
  split at scan
  · rename_i found
    simp only [Except.ok.injEq] at scan
    subst scan
    exact StringLiteral.scan_shorter found
  · simp at scan

/-- A token takes at least one character. -/
theorem scanToken_shorter
    {text : List Char} {scanned : Scanned Token}
    (scan : scanToken text = .ok scanned) :
    scanned.rest.length < text.length := by
  unfold scanToken at scan
  split at scan
  · simp at scan
  iterate 4
    · simp only [Except.ok.injEq] at scan
      subst scan
      simp
  · have shorter := scanString_shorter scan
    simp only [List.length_cons]
    omega
  · split at scan
    · exact scanNumber_shorter scan
    · split at scan
      · exact scanWord_shorter scan
      · simp at scan

/--
The lexemes of a text that starts at a byte offset, after a separator that
waits for its token.
-/
def lexFrom (offset : Nat) (pending : Option (Separator × Nat)) :
    List Char → Except ConditionError TokenStream
  | [] => .ok ⟨[], offset, pending⟩
  | character :: text =>
      if isBlank character then lexFrom (offset + 1) pending text
      else
        match Separator.ofChar? character, pending with
        | some found, some (previous, _) =>
            .error (.lex offset (.doubleSeparator found previous))
        | some found, none => lexFrom (offset + 1) (some (found, offset)) text
        | none, pending =>
            match _scan : scanToken (character :: text) with
            | .error (relative, fault) =>
                .error (.lex (offset + relative) fault)
            | .ok scanned => do
                let later ← lexFrom (offset + scanned.width) none scanned.rest
                .ok { later with
                  lexemes :=
                    ⟨scanned.value, offset, pending.map Prod.fst⟩ ::
                      later.lexemes }
termination_by text => text.length
decreasing_by
  · simp
  · simp
  · exact scanToken_shorter _scan

end Token

/-- The lexemes of a text. -/
def lex (text : String) : Except ConditionError TokenStream :=
  Token.lexFrom 0 none text.toList

/-- The tokens of a text. -/
def tokenize (text : String) : Except ConditionError (List Token) :=
  (lex text).map fun stream => stream.lexemes.map Lexeme.token

end Criteria
