import Criteria.Number.Digits
import Criteria.Text.Unprintable

/-!
# Quoted text

How messages show a character or a string taken from the input: between
quotes, with a backslash before what would be misread, short escapes for the
usual controls, and the code point in braces for every other character that
does not print.  Only the quote that encloses the text is escaped inside it.
-/

namespace Criteria

/-- A code point in braces, in lower case hexadecimal without padding. -/
def escapedCodePoint (character : Char) : List Char :=
  ['\\', 'u', '\x7b'] ++ hexDigits 1 character.toNat ++ ['\x7d']

/-- One character inside quotes of a given kind. -/
def quotedCharacter (quote character : Char) : List Char :=
  if character = '\x00' then ['\\', '0']
  else if character = '\t' then ['\\', 't']
  else if character = '\n' then ['\\', 'n']
  else if character = '\r' then ['\\', 'r']
  else if character = '\\' ∨ character = quote then ['\\', character]
  else if isUnprintable character then escapedCodePoint character
  else [character]

/-- A character between single quotes. -/
def quoteChar (character : Char) : String :=
  String.ofList ('\x27' :: (quotedCharacter '\x27' character ++ ['\x27']))

/-- A string between double quotes. -/
def quoteString (text : String) : String :=
  String.ofList
    ('\x22' :: (text.toList.flatMap (quotedCharacter '\x22') ++ ['\x22']))

end Criteria
