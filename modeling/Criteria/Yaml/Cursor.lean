import Criteria.Yaml.Character

/-!
# Places in a document

A cursor is what is left of a document together with the place where that
starts.  All reading goes through cursors, because indentation is a matter of
columns, and how far a key may reach one of lines and bytes.
-/

namespace Criteria.Yaml

/--
A place: how many lines are above it, and how many characters and bytes are left
of it.
-/
structure Mark where
  line : Nat
  column : Nat
  offset : Nat
  deriving DecidableEq

/-- The place after a character. -/
def Mark.after (mark : Mark) (character : Char) : Mark :=
  if isBreak character then ⟨mark.line + 1, 0, 0⟩
  else ⟨mark.line, mark.column + 1, mark.offset + character.utf8Size⟩

/-- What is left of a document, and where that starts. -/
structure Cursor where
  rest : List Char
  mark : Mark

namespace Cursor

/-- The start of a text. -/
def ofText (text : List Char) : Cursor :=
  ⟨text, ⟨0, 0, 0⟩⟩

/-- The cursor some characters further on. -/
def skip (count : Nat) (cursor : Cursor) : Cursor :=
  ⟨cursor.rest.drop count,
    (cursor.rest.take count).foldl Mark.after cursor.mark⟩

/-- The characters of a class at the cursor, and the cursor behind them. -/
def span (inClass : Char → Bool) (cursor : Cursor) : List Char × Cursor :=
  let taken := cursor.rest.takeWhile inClass
  (taken, cursor.skip taken.length)

/-- The cursor behind the characters of a class. -/
def skipWhile (inClass : Char → Bool) (cursor : Cursor) : Cursor :=
  (cursor.span inClass).2

/-- The character at the cursor. -/
def head? (cursor : Cursor) : Option Char :=
  cursor.rest.head?

/--
Whether three hyphens or three periods stand at the start of a line of their
own.
-/
def atDocumentMark (cursor : Cursor) : Bool :=
  let opening := cursor.rest.take 3
  cursor.mark.column == 0 && startsBlank (cursor.rest.drop 3) &&
    (opening == ['-', '-', '-'] || opening == ['.', '.', '.'])

/--
The cursor behind gaps and a comment, if nothing else stands on the rest of the
line.
-/
def skipLineEnd? (cursor : Cursor) : Option Cursor :=
  let cursor := cursor.skipWhile isGap
  let cursor :=
    if cursor.head? = some '#' then
      cursor.skipWhile fun character => !isBreak character
    else cursor
  match cursor.rest with
  | [] => some cursor
  | character :: _ => if isBreak character then some (cursor.skip 1) else none

end Cursor

end Criteria.Yaml
