import Criteria.Text.Bytes
import Criteria.Yaml.Cursor
import Criteria.Yaml.Scalar
import Criteria.Yaml.Token

/-!
# Names, tags and directives

The tokens that begin with a mark of their own: the name of an anchor, a tag
in one of its three forms, and the directives in front of a document.
-/

namespace Criteria.Yaml

/-- The characters that may follow a name without white space. -/
def mayFollowName (character : Char) : Bool :=
  "?:,]\x7d%@\x60".toList.contains character

/-- The name of an anchor, given the cursor behind its mark. -/
def readName? (cursor : Cursor) : Option (String × Cursor) :=
  let (name, after) := cursor.span isNameCharacter
  if !name.isEmpty &&
      (startsBlank after.rest || after.head?.any mayFollowName) then
    some (String.ofList name, after)
  else none

/--
Whether a character may stand in a tag; within angle brackets three more may.
-/
def isTagCharacter (verbatim : Bool) (character : Char) : Bool :=
  isNameCharacter character || ";/?:@&=+$.!~*'()%".toList.contains character ||
    (verbatim && ",[]".toList.contains character)

/-- How many bytes a character of several bytes has, by the first of them. -/
def byteCount? (byte : Nat) : Option Nat :=
  if byte < 0x80 then some 1
  else if 0xC0 ≤ byte ∧ byte < 0xE0 then some 2
  else if 0xE0 ≤ byte ∧ byte < 0xF0 then some 3
  else if 0xF0 ≤ byte ∧ byte < 0xF8 then some 4
  else none

/-- The byte that a percent sign and two hexadecimal digits write. -/
def readByte? : List Char → Option Nat
  | '%' :: first :: second :: _ => readBase? 16 [first, second]
  | _ => none

/-- The bytes of one character, each written behind a percent sign. -/
def readBytes? : (count : Nat) → List Char → Option (List UInt8)
  | 0, _ => some []
  | count + 1, text => do
      let byte ← readByte? text
      return UInt8.ofNat byte :: (← readBytes? count (text.drop 3))

/--
The text that part of a tag stands for, its bytes behind percent signs put
together.
-/
def decodeTag? : (bound : Nat) → List Char → Option (List Char)
  | 0, _ => none
  | _, [] => some []
  | bound + 1, '%' :: rest => do
      let count ← byteCount? (← readByte? ('%' :: rest))
      let text ← textOfBytes? (← readBytes? count ('%' :: rest))
      return text.toList ++
        (← decodeTag? bound (('%' :: rest).drop (3 * count)))
  | bound + 1, character :: rest => (decodeTag? bound rest).map (character :: ·)

/--
The characters of a tag at the cursor, decoded, and whether there are any.
-/
def readTagText? (verbatim : Bool) (cursor : Cursor) :
    Option (List Char × Bool × Cursor) := do
  let (written, after) := cursor.span (isTagCharacter verbatim)
  return (← decodeTag? (written.length + 1) written, !written.isEmpty, after)

/--
A tag handle at the cursor: an exclamation mark, a name, and perhaps another
such mark.
-/
def readHandle? (cursor : Cursor) : Option (List Char × Cursor) :=
  if cursor.head? = some '!' then
    let (name, after) := (cursor.skip 1).span isNameCharacter
    if after.head? = some '!' then some ('!' :: name ++ ['!'], after.skip 1)
    else some ('!' :: name, after)
  else none

/--
The tag at the cursor as a handle and a suffix; the lone mark has an empty
handle.
-/
def readTagParts? (cursor : Cursor) : Option (String × String × Cursor) :=
  if (cursor.rest.drop 1).head? = some '<' then do
    let (suffix, present, after) ← readTagText? true (cursor.skip 2)
    if present && after.head? = some '>' then
      some ("", String.ofList suffix, after.skip 1)
    else none
  else do
    let (handle, after) ← readHandle? cursor
    let (suffix, present, after) ← readTagText? false after
    if 1 < handle.length ∧ handle.getLast? = some '!' then
      if present then some (String.ofList handle, String.ofList suffix, after)
      else none
    else
      match handle.drop 1 ++ suffix with
      | [] => some ("", "!", after)
      | suffix => some ("!", String.ofList suffix, after)

/--
The tag at the cursor; white space follows it, or a comma within brackets and
braces.
-/
def readTag? (inFlow : Bool) (cursor : Cursor) : Option (Token × Cursor) := do
  let (handle, suffix, after) ← readTagParts? cursor
  if startsBlank after.rest || (inFlow && after.head? = some ',') then
    some (.tag handle suffix, after)
  else none

/-- The number at the cursor, of at most nine digits. -/
def readVersionNumber? (cursor : Cursor) : Option (Nat × Cursor) :=
  let (digits, after) := cursor.span Char.isDigit
  if digits.isEmpty || 9 < digits.length then none
  else some (digitsValue digits, after)

/-- The two numbers of a version. -/
def readVersion? (cursor : Cursor) : Option (Token × Cursor) := do
  let (major, after) ← readVersionNumber? (cursor.skipWhile isGap)
  if after.head? ≠ some '.' then none
  else
    let (minor, after) ← readVersionNumber? (after.skip 1)
    return (.version major minor, after)

/-- A tag handle and the text that it is short for. -/
def readHandleMeaning? (cursor : Cursor) : Option (Token × Cursor) := do
  let (handle, after) ← readHandle? (cursor.skipWhile isGap)
  if handle.getLast? ≠ some '!' ∨ !after.head?.any isGap then none
  else
    let (expansion, present, after) ← readTagText? true (after.skipWhile isGap)
    if present && startsBlank after.rest then
      some (.handle (String.ofList handle) (String.ofList expansion), after)
    else none

/-- The directive at the cursor, which takes the rest of its line. -/
def readDirective? (cursor : Cursor) : Option (Token × Cursor) := do
  let (name, after) := (cursor.skip 1).span isNameCharacter
  if !startsBlank after.rest then none
  else
    let (directive, after) ←
      if name = "YAML".toList then readVersion? after
      else if name = "TAG".toList then readHandleMeaning? after
      else none
    return (directive, ← after.skipLineEnd?)

end Criteria.Yaml
