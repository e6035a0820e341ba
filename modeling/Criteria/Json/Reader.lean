import Criteria.Entries
import Criteria.Json.Numeral
import Criteria.Text.Blank
import Criteria.Text.StringLiteral

/-!
# Reading JSON

A strict reader: only the four blanks separate tokens, nothing may follow the
value, and arrays and objects nest at most 127 deep.  Of a key that occurs
more than once in an object the last value stays.  The nesting budget is what
the reader of values recurses on; the items of one array and the members of
one object are read in a loop that the length of the text bounds.

A value may also be embedded: an object whose first key is `embeddedKey` stands
for the value that the string under that key writes.  That string is a JSON
text of its own with a nesting budget of its own, and it is shorter than the
text around it, which bounds how far embedding goes.
-/

namespace Criteria.Json

/-- How deep arrays and objects may nest. -/
def deepestNesting : Nat := 127

/-- The text after leading blanks. -/
def skipBlanks (text : List Char) : List Char :=
  text.dropWhile isBlank

/-- The text after a word, if it starts with that word. -/
def readWord? (word : List Char) (text : List Char) : Option (List Char) :=
  if word.isPrefixOf text then some (text.drop word.length) else none

/-- A string after its opening quote. -/
def readString? (text : List Char) : Option (String × List Char) :=
  match StringLiteral.scan text with
  | .ok scanned => some (scanned.value, scanned.rest)
  | .error _ => none

/--
Reads one or more parts separated by commas up to a closing character, each
part by the reader given; `bound` limits the number of parts.
-/
def readParts?
    {α : Type} (readPart : List Char → Option (α × List Char)) (close : Char) :
    (bound : Nat) → List Char → Option (List α × List Char)
  | 0, _ => none
  | bound + 1, text => do
      let (part, rest) ← readPart text
      match skipBlanks rest with
      | [] => none
      | mark :: rest =>
          if mark = close then some ([part], rest)
          else if mark = ',' then do
            let (parts, rest) ← readParts? readPart close bound rest
            some (part :: parts, rest)
          else none

/-- Reads a key, a colon and a value by the reader given. -/
def readMember?
    (readPart : List Char → Option (Json × List Char)) (text : List Char) :
    Option ((String × Json) × List Char) :=
  match skipBlanks text with
  | '\x22' :: text => do
      let (key, rest) ← readString? text
      match skipBlanks rest with
      | ':' :: rest => do
          let (value, rest) ← readPart rest
          some ((key, value), rest)
      | _ => none
  | _ => none

/-- Reads a value that is neither an array nor an object. -/
def readScalar? : List Char → Option (Json × List Char)
  | '\x22' :: text =>
      (readString? text).map fun (value, rest) => (.string value, rest)
  | 't' :: text =>
      (readWord? "rue".toList text).map fun rest => (.bool true, rest)
  | 'f' :: text =>
      (readWord? "alse".toList text).map fun rest => (.bool false, rest)
  | 'n' :: text => (readWord? "ull".toList text).map fun rest => (.null, rest)
  | text => do
      let (numeral, rest) ← Numeral.read? text
      let number ← numeral.toNumber?
      return (.number number, rest)

/-- The key under which an object embeds a JSON text. -/
def embeddedKey : String := "$serde_json::private::RawValue"

/--
Whether the first key of an object, given the text behind its brace, embeds a
JSON text.
-/
def startsEmbedded : List Char → Bool
  | '\x22' :: text => (readString? text).any fun (key, _) => key == embeddedKey
  | _ => false

/--
Reads an embedded value up to the brace that closes its object, by a reader of
whole texts.  The text must be a string, and nothing may stand beside it.
-/
def readEmbedded? (readText : String → Option Json) (text : List Char) :
    Option (Json × List Char) := do
  let ((_, value), rest) ←
    readMember? (fun text => readScalar? (skipBlanks text)) text
  match value, skipBlanks rest with
  | .string embedded, '\x7d' :: rest =>
      (readText embedded).map fun value => (value, rest)
  | _, _ => none

/--
Reads a value whose arrays and objects nest at most as deep as the budget, with
a reader for the texts that are embedded in it.
-/
def readValue? (readText : String → Option Json) :
    (budget : Nat) → List Char → Option (Json × List Char)
  | budget, text =>
      match skipBlanks text with
      | '[' :: text =>
          match budget with
          | 0 => none
          | inner + 1 =>
              match skipBlanks text with
              | ']' :: rest => some (.array [], rest)
              | text =>
                  (readParts? (readValue? readText inner) ']' text.length
                    text).map fun (items, rest) => (.array items, rest)
      | '\x7b' :: text =>
          match budget with
          | 0 => none
          | inner + 1 =>
              match skipBlanks text with
              | '\x7d' :: rest => some (.object [], rest)
              | text =>
                  if startsEmbedded text then readEmbedded? readText text
                  else
                    (readParts? (readMember? (readValue? readText inner))
                      '\x7d' text.length text).map fun (members, rest) =>
                        (.object (Entries.ofList members), rest)
      | text => readScalar? text

/--
The value that a JSON text writes, texts being embedded in each other fewer
times than `bound`.
-/
def decodeWithin? : (bound : Nat) → String → Option Json
  | 0, _ => none
  | bound + 1, text =>
      match readValue? (decodeWithin? bound) deepestNesting text.toList with
      | some (value, rest) =>
          if (skipBlanks rest).isEmpty then some value else none
      | none => none

/-- The value that a JSON text writes. -/
def decode? (text : String) : Option Json :=
  decodeWithin? (text.length + 1) text

end Criteria.Json
