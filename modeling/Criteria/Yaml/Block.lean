import Criteria.Yaml.Cursor
import Criteria.Number.Digits

/-!
# Block scalars

A block scalar takes its lines as they stand behind their common indentation:
literally, or folded into paragraphs.  Its header says what becomes of the
line ends at the end and may fix the indentation, which otherwise is that of
the first line that is not empty.
-/

namespace Criteria.Yaml

/-- What becomes of the line ends at the end of a block scalar. -/
inductive Chomping where
  | strip
  | clip
  | keep

/-- The chomping that a sign in a header asks for. -/
def Chomping.ofSign? : Char → Option Chomping
  | '-' => some .strip
  | '+' => some .keep
  | _ => none

/--
The header of a block scalar: its chomping, and its indentation if that is
fixed.
-/
structure BlockHeader where
  chomping : Chomping
  increment : Option Nat

/-- The indentation that a digit in a header fixes; zero is refused. -/
def readIncrement? (text : List Char) : Option (Option Nat × List Char) :=
  match text with
  | [] => some (none, [])
  | digit :: rest =>
      if digit == '0' then none
      else if digit.isDigit then some (some (digitValue digit), rest)
      else some (none, text)

/-- The chomping that a sign in a header asks for, if there is one. -/
def readChomping (text : List Char) : Option Chomping × List Char :=
  match text with
  | [] => (none, [])
  | sign :: rest =>
      match Chomping.ofSign? sign with
      | some chomping => (some chomping, rest)
      | none => (none, text)

/--
The header at the start of a text: a sign and a digit, in either order and both
optional.
-/
def readHeader? (text : List Char) : Option (BlockHeader × List Char) := do
  let (first, rest) := readChomping text
  let (increment, rest) ← readIncrement? rest
  let (second, rest) :=
    if first.isSome || increment.isNone then (first, rest)
    else readChomping rest
  return (⟨second.getD .clip, increment⟩, rest)

/--
The empty lines at a cursor, the column that spaces reach, and where the next
line starts.
-/
structure EmptyLines where
  breaks : List Char
  reached : Nat
  after : Cursor

/--
Goes over empty lines.  Where the indentation is known, only the spaces up to it
are skipped, and no tab may stand among them.
-/
def readEmptyLines? (indent : Option Nat) :
    (bound : Nat) → (reached : Nat) → Cursor → Option EmptyLines
  | 0, _, _ => none
  | bound + 1, reached, cursor =>
      let spaces := cursor.rest.takeWhile (· == ' ')
      let cursor :=
        cursor.skip (indent.elim spaces.length fun indent =>
          min spaces.length (indent - cursor.mark.column))
      let reached := max reached cursor.mark.column
      match cursor.rest with
      | [] => some ⟨[], reached, cursor⟩
      | character :: _ =>
          if character == '\t' && indent.all (cursor.mark.column < ·) then none
          else if isBreak character then do
            let further ← readEmptyLines? indent bound reached (cursor.skip 1)
            return { further with breaks := character :: further.breaks }
          else some ⟨[], reached, cursor⟩

/--
The line ends in front of a line of a block scalar, the first one set apart.
-/
structure LineEnds where
  first : List Char
  later : List Char

/--
What line ends stand for: between lines that are folded, one of them becomes a
space.
-/
def LineEnds.text (ends : LineEnds) (folded : Bool) : List Char :=
  if folded && ends.first == ['\n'] then
    if ends.later.isEmpty then [' '] else ends.later
  else ends.first ++ ends.later

/-- What is left of the line ends at the end. -/
def LineEnds.chomp (ends : LineEnds) : Chomping → List Char
  | .strip => []
  | .clip => ends.first
  | .keep => ends.first ++ ends.later

/-- The lines of a block scalar, and the line ends behind the last of them. -/
def readLines? (folded : Bool) (indent : Nat) :
    (bound : Nat) → (afterGap : Bool) → LineEnds → Cursor →
      Option (List Char × LineEnds × Cursor)
  | 0, _, _, _ => none
  | bound + 1, afterGap, ends, cursor =>
      if cursor.rest.isEmpty || cursor.mark.column != indent then
        some ([], ends, cursor)
      else do
        let startsGap := cursor.head?.any isGap
        let (line, cursor) := cursor.span fun character => !isBreak character
        let first := cursor.rest.take 1
        let empty ← readEmptyLines? (some indent) bound 0 (cursor.skip 1)
        let (text, last, after) ←
          readLines? folded indent bound startsGap ⟨first, empty.breaks⟩
            empty.after
        return (ends.text (folded && !afterGap && !startsGap) ++ line ++ text,
          last, after)

/--
The block scalar whose header starts at the cursor, within a collection whose
content starts right of the column `depth - 1`; fewer characters than `bound`
are left.
-/
def readBlock? (folded : Bool) (depth bound : Nat) (cursor : Cursor) :
    Option (List Char × Cursor) := do
  let (header, rest) ← readHeader? cursor.rest
  let cursor ← (cursor.skip (cursor.rest.length - rest.length)).skipLineEnd?
  let fixed := header.increment.map (depth - 1 + ·)
  let empty ← readEmptyLines? fixed bound 0 cursor
  let indent := fixed.getD (max (max empty.reached depth) 1)
  let (text, last, after) ←
    readLines? folded indent bound false ⟨[], empty.breaks⟩ empty.after
  return (text ++ last.chomp header.chomping, after)

end Criteria.Yaml
