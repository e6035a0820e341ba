import Criteria.Yaml.Gap
import Criteria.Yaml.Scalar

/-!
# Scalars in quotes

In single quotes only the quote itself needs care: it is written twice.  In
double quotes a backslash starts an escape, and at the end of a line it joins
that line to the next one.  White space over several lines is folded in both.
-/

namespace Criteria.Yaml

/-- The character that an escape of one letter stands for. -/
def escapeMeaning? : Char → Option Char
  | '0' => some '\x00'
  | 'a' => some '\x07'
  | 'b' => some '\x08'
  | 't' => some '\t'
  | '\t' => some '\t'
  | 'n' => some '\n'
  | 'v' => some '\x0b'
  | 'f' => some '\x0c'
  | 'r' => some '\r'
  | 'e' => some '\x1b'
  | ' ' => some ' '
  | '\x22' => some '\x22'
  | '/' => some '/'
  | '\\' => some '\\'
  | 'N' => some '\x85'
  | '_' => some '\xa0'
  | 'L' => some '\u2028'
  | 'P' => some '\u2029'
  | _ => none

/-- How many hexadecimal digits follow the letter of an escape by code. -/
def codeLength? : Char → Option Nat
  | 'x' => some 2
  | 'u' => some 4
  | 'U' => some 8
  | _ => none

/--
The character with the code that hexadecimal digits spell; surrogates have none.
-/
def characterOfCode? (digits : List Char) : Option Char := do
  let code ← readBase? 16 digits
  if code < 0xD800 ∨ (0xDFFF < code ∧ code < 0x110000) then
    some (Char.ofNat code)
  else none

/--
The character of the escape behind a backslash, and how many characters write
it.
-/
def readEscape? : List Char → Option (Char × Nat)
  | [] => none
  | letter :: rest =>
      match codeLength? letter with
      | some length =>
          if rest.length < length then none
          else
            (characterOfCode? (rest.take length)).map fun character =>
              (character, length + 1)
      | none => (escapeMeaning? letter).map fun character => (character, 1)

/-- The text from within double quotes on, up to the closing one. -/
def readDoubleQuoted? : (bound : Nat) → Cursor → Option (List Char × Cursor)
  | 0, _ => none
  | bound + 1, cursor =>
      if cursor.atDocumentMark then none
      else
        match cursor.rest with
        | [] => none
        | '\x22' :: _ => some ([], cursor.skip 1)
        | '\\' :: next :: rest =>
            if isBreak next then do
              let (gap, after) := (cursor.skip 2).gap
              let (text, after) ← readDoubleQuoted? bound after
              return (gap.filter isBreak ++ text, after)
            else do
              let (character, width) ← readEscape? (next :: rest)
              let (text, after) ←
                readDoubleQuoted? bound (cursor.skip (width + 1))
              return (character :: text, after)
        | character :: _ =>
            if isSpacing character then do
              let (gap, after) := cursor.gap
              let (text, after) ← readDoubleQuoted? bound after
              return (foldGap gap ++ text, after)
            else do
              let (text, after) ← readDoubleQuoted? bound (cursor.skip 1)
              return (character :: text, after)

/-- The text from within single quotes on, up to the closing one. -/
def readSingleQuoted? : (bound : Nat) → Cursor → Option (List Char × Cursor)
  | 0, _ => none
  | bound + 1, cursor =>
      if cursor.atDocumentMark then none
      else
        match cursor.rest with
        | [] => none
        | '\x27' :: '\x27' :: _ => do
            let (text, after) ← readSingleQuoted? bound (cursor.skip 2)
            return ('\x27' :: text, after)
        | '\x27' :: _ => some ([], cursor.skip 1)
        | character :: _ =>
            if isSpacing character then do
              let (gap, after) := cursor.gap
              let (text, after) ← readSingleQuoted? bound after
              return (foldGap gap ++ text, after)
            else do
              let (text, after) ← readSingleQuoted? bound (cursor.skip 1)
              return (character :: text, after)

end Criteria.Yaml
