import Criteria.Text.Blank

/-!
# Text as bytes

Messages and files arrive as bytes.  A sequence of bytes is a text only if it
is UTF-8; the marks of JSON are single bytes, which are compared as the
characters of the first plane with the same code.
-/

namespace Criteria

/-- The text that bytes spell, if they are UTF-8. -/
def textOfBytes? (bytes : List UInt8) : Option String :=
  String.fromUTF8? ⟨bytes.toArray⟩

/-- The bytes of a text. -/
def bytesOfText (text : String) : List UInt8 :=
  text.toUTF8.data.toList

/-- The character whose code is a byte. -/
def byteMark (byte : UInt8) : Char :=
  Char.ofUInt8 byte

/-- The bytes after leading blanks. -/
def skipBlankBytes (bytes : List UInt8) : List UInt8 :=
  bytes.dropWhile fun byte => isBlank (byteMark byte)

/-- The bytes after blanks and a mark. -/
def skipMark? (mark : Char) (bytes : List UInt8) : Option (List UInt8) :=
  match skipBlankBytes bytes with
  | byte :: rest => if byteMark byte = mark then some rest else none
  | [] => none

end Criteria
