import Criteria.Yaml.Cursor

/-!
# White space within scalars

A scalar may go on over several lines.  What stands between two of its words
is folded: without a line end it is kept, one line end becomes a space, and of
several line ends the first is dropped.  A separator of lines or paragraphs is
never dropped.
-/

namespace Criteria.Yaml

/-- The white space at the cursor, and the cursor behind it. -/
def Cursor.gap (cursor : Cursor) : List Char × Cursor :=
  cursor.span isSpacing

/-- What the line ends between two words stand for. -/
def foldBreaks : List Char → List Char
  | ['\n'] => [' ']
  | '\n' :: later => later
  | breaks => breaks

/-- What the white space between two words stands for. -/
def foldGap (gap : List Char) : List Char :=
  if gap.any isBreak then foldBreaks (gap.filter isBreak) else gap

/--
Whether a tab stands left of a column on a line of its own, `afterBreak` telling
whether the white space has already reached such a line.
-/
def hasShallowTab (column : Nat) (afterBreak : Bool) (mark : Mark) :
    List Char → Bool
  | [] => false
  | character :: rest =>
      (afterBreak && character == '\t' && mark.column < column) ||
        hasShallowTab column (afterBreak || isBreak character)
          (mark.after character) rest

end Criteria.Yaml
