import Criteria.Json.Basic
import Criteria.Number.Style

/-!
# Tokens

A condition is written with four delimiters and four kinds of literals.  The
two separators are no tokens: a lexeme records the one that stands before it,
so that the parser can tell whether it belongs there.
-/

namespace Criteria

/-- A literal of a condition. -/
inductive Literal where
  | number (value : Double)
  | string (value : String)
  | boolean (value : Bool)
  | null
  deriving DecidableEq

namespace Literal

/-- The kinds of literals. -/
inductive Kind where
  | number
  | string
  | boolean
  | null
  deriving DecidableEq

/-- The name of a kind. -/
def Kind.name : Kind → String
  | .number => "number"
  | .string => "string"
  | .boolean => "bool"
  | .null => "null"

/-- The kind of a literal. -/
def kind : Literal → Kind
  | .number _ => .number
  | .string _ => .string
  | .boolean _ => .boolean
  | .null => .null

/-- The value that a literal denotes. -/
def toJson : Literal → Json
  | .number value => value.toJson
  | .string value => .string value
  | .boolean value => .bool value
  | .null => .null

/-- The text of a literal inside its label; null has none. -/
def labelText : Literal → Option (List Char)
  | .number value => some (NumberStyle.label.write value)
  | .string value => some value.toList
  | .boolean true => some "true".toList
  | .boolean false => some "false".toList
  | .null => none

/-- The label of a literal: its kind and its text in angle brackets. -/
def label (literal : Literal) : String :=
  let text :=
    match literal.labelText with
    | some text => "::" ++ String.ofList text
    | none => ""
  "LITERAL<" ++ literal.kind.name ++ text ++ ">"

/-- Equality of literals, in which numbers count by their value. -/
def same : Literal → Literal → Bool
  | .number left, .number right => left.sameValue right
  | .string left, .string right => left == right
  | .boolean left, .boolean right => left == right
  | .null, .null => true
  | _, _ => false

end Literal

/-- A token of a condition. -/
inductive Token where
  | bracketOpen
  | bracketClose
  | braceOpen
  | braceClose
  | literal (value : Literal)
  deriving DecidableEq

/-- The label of a token. -/
def Token.label : Token → String
  | .bracketOpen => "BRACKET_OPEN"
  | .bracketClose => "BRACKET_CLOSE"
  | .braceOpen => "BRACE_OPEN"
  | .braceClose => "BRACE_CLOSE"
  | .literal value => value.label

/-- A mark between tokens. -/
inductive Separator where
  | comma
  | colon
  deriving DecidableEq

namespace Separator

/-- The character of a separator. -/
def character : Separator → Char
  | .comma => ','
  | .colon => ':'

/-- The separator that a character is. -/
def ofChar? : Char → Option Separator
  | ',' => some .comma
  | ':' => some .colon
  | _ => none

/-- How a separator is shown: its character in single quotes. -/
def label (separator : Separator) : String :=
  String.ofList ['\x27', separator.character, '\x27']

@[simp]
theorem ofChar?_character (separator : Separator) :
    ofChar? separator.character = some separator := by
  cases separator <;> rfl

end Separator

/-- A token, the byte offset at which it starts, and the separator before it. -/
structure Lexeme where
  token : Token
  offset : Nat
  separator : Option Separator
  deriving DecidableEq

/--
The lexemes of a text, its length in bytes, and a separator that no token
follows, with its offset.
-/
structure TokenStream where
  lexemes : List Lexeme
  byteLength : Nat
  trailing : Option (Separator × Nat)
  deriving DecidableEq

end Criteria
