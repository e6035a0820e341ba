import Criteria.Yaml.Gap

/-!
# Plain scalars

A plain scalar is a text without quotes.  It goes on word by word, also over
further lines as long as those are indented, and ends before anything that
means something in its place: a colon before white space, a comment, a mark of
the brackets or braces around it, or the mark of a document.
-/

namespace Criteria.Yaml

/--
A plain scalar, whether the white space behind it held a line end, and what
follows.
-/
structure PlainText where
  text : List Char
  endsLine : Bool
  after : Cursor

/--
The word at the start of a text, which may be empty.  Within brackets and
braces no colon may stand directly before one of their marks.
-/
def plainWord? (inFlow : Bool) : List Char → Option (List Char)
  | [] => some []
  | character :: rest =>
      if isSpacing character || (inFlow && isFlowMark character) then some []
      else if character == ':' && startsBlank rest then some []
      else if inFlow && character == ':' &&
          rest.head?.any (fun next => next == '?' || isFlowMark next) then
        none
      else (plainWord? inFlow rest).map (character :: ·)

/--
The words of a plain scalar from the cursor on, `before` being what stands for
the white space in front of them.  Outside brackets and braces the scalar ends
left of the column `depth`.
-/
def readWords? (inFlow : Bool) (depth : Nat) :
    (bound : Nat) → (before : List Char) → (endsLine : Bool) → Cursor →
      Option PlainText
  | 0, _, _, _ => none
  | bound + 1, before, endsLine, cursor =>
      if cursor.atDocumentMark || cursor.head? == some '#' then
        some ⟨[], endsLine, cursor⟩
      else do
        let word ← plainWord? inFlow cursor.rest
        if word.isEmpty then return ⟨[], endsLine, cursor⟩
        let cursor := cursor.skip word.length
        let (gap, after) := cursor.gap
        let breaks := gap.any isBreak
        if hasShallowTab depth false cursor.mark gap then none
        else if gap.isEmpty || (!inFlow && after.mark.column < depth) then
          return ⟨before ++ word, breaks, after⟩
        else
          let further ← readWords? inFlow depth bound (foldGap gap) breaks after
          return { further with text := before ++ word ++ further.text }

/--
The plain scalar at the cursor, behind which fewer characters than `bound` are
left.
-/
def readPlain? (inFlow : Bool) (depth bound : Nat) (cursor : Cursor) :
    Option PlainText :=
  readWords? inFlow depth bound [] false cursor

end Criteria.Yaml
