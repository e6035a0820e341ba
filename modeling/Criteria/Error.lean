import Criteria.Json.Writer
import Criteria.Node.Basic
import Criteria.Text.Quoted
import Criteria.Text.StringLiteral

/-!
# Errors of conditions

What can go wrong while a condition is read or evaluated, by cause.  The
wording of every cause is in the `message` functions.  An error inside a
function carries the name of that function around it, so that a chain of names
leads to the root cause.

Of a context that cannot be decoded no more is kept than that.  The words of the
JSON decoder about it, which follow `invalid context` and a colon where the
error is printed, are left out: nothing but the printed text depends on them.
-/

namespace Criteria

/-- Why a text is no sequence of tokens. -/
inductive LexFault where
  | doubleSeparator (found previous : Separator)
  | invalidCharacter (character : Char)
  | inString (fault : StringFault)
  | invalidNumber
  | numberOutOfRange
  | invalidWord (word : String)
  | described (text : String)

/-- What the grammar wants at some place. -/
inductive Wanted where
  | expression
  | literal
  | arrayValue
  | arrayValueOrEnd
  | functionName
  | functionNameLiteral
  | functionArgument
  | endOfInput
  | openContainer
  | token (token : Token)
  | separator (separator : Separator)
  | described (text : String)

/-- What stands where the grammar wants something else. -/
inductive Found where
  | token (token : Token)
  | separator (separator : Separator)
  | closing (character : Char)
  | described (text : String)

/-- The limits that a condition may exceed. -/
inductive Limit where
  | nestingDepth
  | nodeCount
  | evaluationDepth
  deriving DecidableEq

/-- How many arguments a function takes. -/
inductive ArgumentCount where
  | exactly (count : Nat)
  | oneOf (fewer more : Nat)
  | described (text : String)

/-- How a value or an argument fails to have the type that a function needs. -/
inductive TypeFault where
  | notAnArray (found : Node.Kind)
  | notANumber (found : Json.Kind)
  | keyOutsideObject (target : Json.Kind) (key : String)
  | positionOutsideArray (target : Json.Kind) (position : Number)
  | notASegment (found : Json.Kind)
  | notAModulus (found : Double)
  | described (text : String)

/-- An error of reading or evaluating a condition. -/
inductive ConditionError where
  | lex (offset : Nat) (fault : LexFault)
  | unexpected (offset : Nat) (wanted : Wanted) (found : Found)
  | unexpectedEnd (wanted : Wanted)
  | limitExceeded (limit : Limit) (maximum : Nat)
  | unknownFunction (name : String)
  | arity (expected : ArgumentCount) (actual : Nat)
  | typeMismatch (fault : TypeFault)
  | invalidContext
  | inFunction (name : String) (source : ConditionError)

/-- The wording of a fault in a string literal. -/
def StringFault.message : StringFault → String
  | .unterminated => "unterminated string"
  | .invalidEscape character =>
      "invalid escape character " ++ quoteChar character
  | .controlCharacter => "control character in string literal"
  | .invalidCodePoint => "invalid unicode escape"
  | .unpairedSurrogate => "unpaired surrogate in escape"

/-- The wording of a lexical fault. -/
def LexFault.message : LexFault → String
  | .doubleSeparator found previous =>
      "unexpected " ++ found.label ++ " after " ++ previous.label
  | .invalidCharacter character => "invalid character " ++ quoteChar character
  | .inString fault => fault.message
  | .invalidNumber => "invalid number literal"
  | .numberOutOfRange => "number literal out of range"
  | .invalidWord word => "invalid literal " ++ quoteString word
  | .described text => text

/-- The wording of what the grammar wants. -/
def Wanted.message : Wanted → String
  | .expression => "expression"
  | .literal => "literal"
  | .arrayValue => "array value"
  | .arrayValueOrEnd => "array value or ']'"
  | .functionName => "function name"
  | .functionNameLiteral => "function name (string literal)"
  | .functionArgument => "function argument"
  | .endOfInput => "end of input"
  | .openContainer => "matching open container"
  | .token wanted => wanted.label
  | .separator wanted => wanted.label
  | .described text => text

/-- The wording of what was found. -/
def Found.message : Found → String
  | .token found => found.label
  | .separator found => found.label
  | .closing character => String.ofList ['\x27', character, '\x27']
  | .described text => text

/-- The name of a limit. -/
def Limit.name : Limit → String
  | .nestingDepth => "nesting depth"
  | .nodeCount => "node count"
  | .evaluationDepth => "evaluation depth"

/-- The wording of an argument count. -/
def ArgumentCount.message : ArgumentCount → String
  | .exactly count => toString count
  | .oneOf fewer more => toString fewer ++ " or " ++ toString more
  | .described text => text

/-- The wording of a type fault. -/
def TypeFault.message : TypeFault → String
  | .notAnArray found => "expected array input, got " ++ found.name
  | .notANumber found => "expected number as an argument, got " ++ found.name
  | .keyOutsideObject target key =>
      "cannot index " ++ target.name ++ " with key " ++ quoteString key
  | .positionOutsideArray target position =>
      "cannot index " ++ target.name ++ " with position " ++
        String.ofList (Json.Style.compact.number position)
  | .notASegment found =>
      "only strings and numbers supported as path segments, got " ++ found.name
  | .notAModulus found =>
      "modulus must be a positive integer, got " ++
        String.ofList (NumberStyle.plain.write found)
  | .described text => text

namespace ConditionError

/--
The wording of an error; the names of the functions around it come first.  That
of an undecodable context ends where the decoder's own words, which are left
out, would begin.
-/
def message : ConditionError → String
  | .lex offset fault =>
      "lex error at offset " ++ toString offset ++ ": " ++ fault.message
  | .unexpected offset wanted found =>
      "syntax error at offset " ++ toString offset ++ ": expected " ++
        wanted.message ++ ", got " ++ found.message
  | .unexpectedEnd wanted =>
      "syntax error: unexpected end of input, expected " ++ wanted.message
  | .limitExceeded limit maximum =>
      "expression exceeds " ++ limit.name ++ " limit of " ++ toString maximum
  | .unknownFunction name =>
      "no expression handler bound to " ++ quoteString name
  | .arity expected actual =>
      "expected " ++ expected.message ++ " argument(s), got " ++ toString actual
  | .typeMismatch fault => fault.message
  | .invalidContext => "invalid context"
  | .inFunction name source => name ++ " expression: " ++ source.message

/-- The innermost error, inside all function names. -/
def rootCause : ConditionError → ConditionError
  | .inFunction _ source => source.rootCause
  | error => error

/-- The names of the functions around the root cause, the outermost first. -/
def functionChain : ConditionError → List String
  | .inFunction name source => name :: source.functionChain
  | _ => []

@[simp]
theorem rootCause_inFunction (name : String) (source : ConditionError) :
    (inFunction name source).rootCause = source.rootCause := rfl

@[simp]
theorem functionChain_inFunction (name : String) (source : ConditionError) :
    (inFunction name source).functionChain = name :: source.functionChain := rfl

@[simp]
theorem message_inFunction (name : String) (source : ConditionError) :
    (inFunction name source).message =
      name ++ " expression: " ++ source.message := rfl

end ConditionError

end Criteria
