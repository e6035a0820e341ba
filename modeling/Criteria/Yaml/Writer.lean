import Criteria.Number.Digits
import Criteria.Yaml.Basic
import Criteria.Yaml.Character
import Criteria.Yaml.Scalar

/-!
# Writing YAML scalars

A string is written plain where that reads back as the same string, in single
quotes where it would read as something else, as a literal block when it has
several lines, and in double quotes with escapes where nothing else will do.
-/

namespace Criteria.Yaml

/--
Whether a plain scalar breaks off within a text: at a colon before a blank, at a
hash after one.
-/
def breaksOff (afterBlank : Bool) : List Char → Bool
  | [] => false
  | ':' :: rest => startsBlank rest || breaksOff false rest
  | '#' :: rest => afterBlank || breaksOff false rest
  | character :: rest => breaksOff (isSpacing character) rest

/-- Whether the start of a text means something in YAML. -/
def startsSpecial : List Char → Bool
  | [] => false
  | '-' :: '-' :: '-' :: _ => true
  | '.' :: '.' :: '.' :: _ => true
  | first :: rest =>
      isReserved first ||
        ((first == '-' || first == '?' || first == ':') && startsBlank rest)

/--
Whether a space before a line end, or a character that is not printable, forces
escapes.
-/
def needsEscapes : List Char → Bool
  | [] => false
  | ' ' :: next :: rest => isBreak next || needsEscapes (next :: rest)
  | character :: rest => !isPrintable character || needsEscapes rest

/-- Whether a space stands behind a line end. -/
def hasIndentedLine : List Char → Bool
  | [] => false
  | character :: rest =>
      (isBreak character && rest.head? == some ' ') || hasIndentedLine rest

/-- Whether a character is lost at the start or the end of a plain scalar. -/
def isLostAtEnds (character : Char) : Bool :=
  character == ' ' || isBreak character

/-- How a string is written. -/
def scalarStyle (text : List Char) : ScalarStyle :=
  if needsEscapes text then .doubleQuoted
  else if text.contains '\n' then
    if text.getLast? == some ' ' then .doubleQuoted else .literal
  else if text.any isBreak then
    if hasIndentedLine text then .doubleQuoted else .singleQuoted
  else if !isString text || hasLeadingZero (dropSign text) then .singleQuoted
  else if text.head?.any isLostAtEnds || text.getLast?.any isLostAtEnds ||
      startsSpecial text || breaksOff true text then
    .singleQuoted
  else .plain

/-- A character inside double quotes. -/
def escaped (character : Char) : List Char :=
  let code := character.toNat
  match character with
  | '\x00' => ['\\', '0']
  | '\x07' => ['\\', 'a']
  | '\x08' => ['\\', 'b']
  | '\t' => ['\\', 't']
  | '\n' => ['\\', 'n']
  | '\x0b' => ['\\', 'v']
  | '\x0c' => ['\\', 'f']
  | '\r' => ['\\', 'r']
  | '\x1b' => ['\\', 'e']
  | '\x22' => ['\\', '\x22']
  | '\\' => ['\\', '\\']
  | '\x85' => ['\\', 'N']
  | '\u2028' => ['\\', 'L']
  | '\u2029' => ['\\', 'P']
  | _ =>
      if isPrintable character then [character]
      else if code ≤ 0xFF then ['\\', 'x'] ++ upper (hexDigits 2 code)
      else ['\\', 'u'] ++ upper (hexDigits 4 code)
where
  upper (digits : List Char) : List Char := digits.map Char.toUpper

/--
The header of a literal block: how its first line and its last line ends are to
be read.
-/
def literalHeader (text : List Char) : List Char :=
  let hint := if startsBlank (text.take 1) then ['2'] else []
  let ending :=
    match text.reverse with
    | [] => ['-']
    | last :: earlier =>
        if !isBreak last then ['-']
        else if earlier.head?.all isBreak then ['+']
        else []
  '|' :: (hint ++ ending)

/--
Lines behind a margin, `atStart` telling whether the text is at the start of a
line.
-/
def indentLines (margin : List Char) (atStart : Bool) : List Char → List Char
  | [] => []
  | character :: rest =>
      if isBreak character then character :: indentLines margin true rest
      else
        (if atStart then margin else []) ++
          character :: indentLines margin false rest

/-- The characters between single quotes, where a quote is written twice. -/
def doubleQuotes (text : List Char) : List Char :=
  text.flatMap fun character =>
    if character = '\x27' then ['\x27', '\x27'] else [character]

/-- The text between single quotes; behind a line end stands a margin. -/
def singleQuotedText (margin text : List Char) : List Char :=
  indentLines margin false (doubleQuotes text) ++
    if text.getLast?.any isBreak then margin else []

/--
A string as a scalar; further lines stand two places deeper than the indent.
-/
def writeScalar (indent : Nat) (text : String) : List Char :=
  let characters := text.toList
  let margin := List.replicate (indent + 2) ' '
  match scalarStyle characters with
  | .singleQuoted => '\x27' :: (singleQuotedText margin characters ++ ['\x27'])
  | .doubleQuoted => '\x22' :: (characters.flatMap escaped ++ ['\x22'])
  | .literal =>
      literalHeader characters ++ '\n' :: indentLines margin true characters
  | .plain | .folded => characters

/--
The line feed behind a scalar; a literal block that ends in a line end needs no
other one.
-/
def lineEnd (text : String) : List Char :=
  let characters := text.toList
  if scalarStyle characters = .literal ∧ characters.getLast?.any isBreak then []
  else ['\n']

/-- The most bytes that a key may have on the line of its value. -/
def longestKey : Nat := 128

/--
Whether a key needs a line of its own: it is long, or has several lines itself.
-/
def needsOwnLine (key : String) : Bool :=
  longestKey < key.utf8ByteSize || key.toList.any isBreak

/-- The lines of an entry of a block mapping, each with its line end. -/
def writeEntry (indent : Nat) (key value : String) : List Char :=
  let margin := List.replicate indent ' '
  let opening :=
    if needsOwnLine key then
      margin ++ ['?', ' '] ++ writeScalar indent key ++ lineEnd key ++ margin ++
        [':', ' ']
    else margin ++ writeScalar indent key ++ [':', ' ']
  opening ++ writeScalar indent value ++ lineEnd value

/-- The lines of an item of a block sequence, each with its line end. -/
def writeItem (indent : Nat) (item : String) : List Char :=
  List.replicate indent ' ' ++ ['-', ' '] ++ writeScalar indent item ++
    lineEnd item

end Criteria.Yaml
