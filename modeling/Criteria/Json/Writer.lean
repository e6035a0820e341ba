import Criteria.Json.Basic
import Criteria.Number.Digits
import Criteria.Number.Style

/-!
# Writing JSON

A value is written without blanks.  Two styles are in use: compact text, which
reads back with the same representation of every number, and canonical text,
which writes every number by its value and hides characters that have a
meaning in HTML.  They differ in their numbers and in their escapes only.
-/

namespace Criteria

/-- The decimal text of an integer. -/
def integerText (value : Int) : List Char :=
  (if value < 0 then ['-'] else []) ++ decimalDigits value.natAbs

namespace Json

/-- How numbers and the characters of strings are written. -/
structure Style where
  number : Number → List Char
  character : Char → List Char

/-- A code point as an escape of four hexadecimal digits. -/
def codePointEscape (character : Char) : List Char :=
  ['\\', 'u'] ++ hexDigits 4 character.toNat

namespace Style

/--
Compact text: every control character is escaped, by its short form if it has
one.
-/
def compact : Style where
  number
    | .integer value _ => integerText value
    | .float value => NumberStyle.json.writeFinite value
  character
    | '\x22' => ['\\', '\x22']
    | '\\' => ['\\', '\\']
    | '\x08' => ['\\', 'b']
    | '\x0c' => ['\\', 'f']
    | '\n' => ['\\', 'n']
    | '\r' => ['\\', 'r']
    | '\t' => ['\\', 't']
    | other => if other.toNat < 0x20 then codePointEscape other else [other]

/--
Canonical text: angle brackets, ampersands and the two line separators are
escaped too.
-/
def canonical : Style where
  number
    | .integer value _ => integerText value
    | .float value => NumberStyle.canonical.writeFinite value
  character
    | '\x22' => ['\\', '\x22']
    | '\\' => ['\\', '\\']
    | '\n' => ['\\', 'n']
    | '\r' => ['\\', 'r']
    | '\t' => ['\\', 't']
    | other =>
        if other.toNat < 0x20 ∨ other ∈ ['<', '>', '&', '\u2028', '\u2029'] then
          codePointEscape other
        else [other]

end Style

/-- A string between quotes. -/
def writeString (style : Style) (text : String) : List Char :=
  '\x22' :: (text.toList.flatMap style.character ++ ['\x22'])

mutual

/-- The text of a value. -/
def write (style : Style) : Json → List Char
  | .null => "null".toList
  | .bool true => "true".toList
  | .bool false => "false".toList
  | .number value => style.number value
  | .string value => writeString style value
  | .array [] => ['[', ']']
  | .array (item :: items) =>
      '[' :: (write style item ++ writeItems style items)
  | .object [] => ['\x7b', '\x7d']
  | .object ((key, value) :: members) =>
      '\x7b' ::
        (writeString style key ++
          ':' :: (write style value ++ writeMembers style members))

/-- The items after the first, each behind a comma, and the closing bracket. -/
def writeItems (style : Style) : List Json → List Char
  | [] => [']']
  | item :: items => ',' :: (write style item ++ writeItems style items)

/-- The members after the first, each behind a comma, and the closing brace. -/
def writeMembers (style : Style) : List (String × Json) → List Char
  | [] => ['\x7d']
  | (key, value) :: members =>
      ',' ::
        (writeString style key ++
          ':' :: (write style value ++ writeMembers style members))

end

/-- The compact text of a value. -/
def compactText (value : Json) : String :=
  String.ofList (value.write .compact)

/-- The canonical text of a value. -/
def canonicalText (value : Json) : String :=
  String.ofList (value.write .canonical)

end Json

end Criteria
