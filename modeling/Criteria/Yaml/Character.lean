/-!
# The characters of YAML

Which characters a document may hold, where its lines end, and which
characters mean something.  Line feed, carriage return and next line all end a
line in the same way and are read as a line feed; the line and paragraph
separators end a line too, but stay themselves.
-/

namespace Criteria.Yaml

/-- Whether a document may hold a character at all. -/
def isAllowed (character : Char) : Bool :=
  let code := character.toNat
  code == 0x09 || code == 0x0A || code == 0x0D ||
    (0x20 ≤ code && code ≤ 0x7E) || code == 0x85 ||
    (0xA0 ≤ code && code ≤ 0xFFFD) || 0x10000 ≤ code

/-- Whether a character may stand in a written scalar as itself. -/
def isPrintable (character : Char) : Bool :=
  let code := character.toNat
  code == 0x0A || (0x20 ≤ code && code ≤ 0x7E) ||
    (0xA0 ≤ code && code ≤ 0xFFFD && code != 0xFEFF) || 0x10000 ≤ code

/-- Whether a line ends at a character. -/
def isBreak (character : Char) : Bool :=
  character == '\n' || character == '\r' || character == '\x85' ||
    character == '\u2028' || character == '\u2029'

/-- Whether a character is a space or a tab. -/
def isGap (character : Char) : Bool :=
  character == ' ' || character == '\t'

/-- Whether a character is white space of any kind. -/
def isSpacing (character : Char) : Bool :=
  isGap character || isBreak character

/-- Whether a text starts with white space or is at its end. -/
def startsBlank (text : List Char) : Bool :=
  text.head?.all isSpacing

/-- The characters that mark collections in brackets and braces. -/
def isFlowMark (character : Char) : Bool :=
  ",[]\x7b\x7d".toList.contains character

/-- The characters that no plain scalar starts with. -/
def isReserved (character : Char) : Bool :=
  ",[]\x7b\x7d#&*!|>'\x22%@\x60".toList.contains character

/-- The characters of the names of anchors, tag handles and directives. -/
def isNameCharacter (character : Char) : Bool :=
  character.isAlphanum || character == '_' || character == '-'

/-- A text in which line feeds stand for all line ends that are read as one. -/
def unifyBreaks : List Char → List Char
  | [] => []
  | '\r' :: '\n' :: rest => '\n' :: unifyBreaks rest
  | character :: rest =>
      (if character = '\r' ∨ character = '\x85' then '\n' else character) ::
        unifyBreaks rest

end Criteria.Yaml
