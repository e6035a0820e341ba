/-!
# Blank text

Two notions of white space are in use.  Within JSON and conditions only the
four blanks separate tokens.  A text counts as blank as a whole when it holds
nothing but characters with the Unicode property `White_Space`.
-/

namespace Criteria

/--
The four blanks that may stand between tokens: space, tab, line feed, carriage
return.
-/
def isBlank (character : Char) : Bool :=
  character == ' ' || character == '\t' || character == '\n' ||
    character == '\r'

/-- The Unicode property `White_Space`. -/
def isWhiteSpace (character : Char) : Bool :=
  let code := character.toNat
  (9 ≤ code && code ≤ 13) || code == 0x20 || code == 0x85 || code == 0xA0 ||
    code == 0x1680 || (0x2000 ≤ code && code ≤ 0x200A) || code == 0x2028 ||
    code == 0x2029 || code == 0x202F || code == 0x205F || code == 0x3000

/-- Whether a text holds nothing but white space. -/
def isBlankText (text : List Char) : Bool :=
  text.all isWhiteSpace

end Criteria
