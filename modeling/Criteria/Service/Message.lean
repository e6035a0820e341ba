import Criteria.Evaluation.Context
import Criteria.Json.Skim

/-!
# Messages

A message asks for the evaluation of a condition against a context.  It is a
JSON object with the members `condition` and `context`, or an array of the two;
the context may be missing or null.  Both are kept as the text that stands in
the message, so that the reader of conditions and the reader of contexts judge
them.  Bytes that are no message either break the grammar of JSON, or are JSON
of another shape; whichever shows first, from left to right, is the fault.
-/

namespace Criteria

/-- A condition and the context to evaluate it against, both as text. -/
structure Message where
  condition : String
  context : Option String
  deriving DecidableEq

/-- Why bytes do not start with a message. -/
inductive MessageFault where
  | notJson
  | wrongShape
  deriving DecidableEq

namespace Message

/-- What has been read of the members of a message. -/
structure Draft where
  condition : Option String
  /-- The context, if its member occurred; a null there is no context. -/
  context : Option (Option String)

/-- The members that a message gives a meaning to, and all others. -/
inductive Member where
  | condition
  | context
  | other

/-- The member with a key. -/
def Member.ofKey (key : String) : Member :=
  if key = "condition" then .condition
  else if key = "context" then .context
  else .other

/-- The text of a context value: null stands for no context. -/
def presentContext (text : String) : Option String :=
  if text = "null" then none else some text

/-- Whether a member has occurred already. -/
def Draft.has (draft : Draft) : Member → Bool
  | .condition => draft.condition.isSome
  | .context => draft.context.isSome
  | .other => false

/-- The message that a draft amounts to; the condition must be there. -/
def Draft.complete (draft : Draft) : Except MessageFault Message :=
  match draft.condition with
  | some condition => .ok ⟨condition, draft.context.join⟩
  | none => .error .wrongShape

/-- The outcome of a step that fails only on what is not JSON. -/
def orNotJson {α : Type} : Option α → Except MessageFault α
  | some value => .ok value
  | none => .error .notJson

/-- The text of a value and the bytes behind it. -/
def readRaw? (bytes : List UInt8) : Option (String × List UInt8) := do
  let (raw, rest) ← Json.skim? bytes
  return (← textOfBytes? raw, rest)

/-- A key and the bytes behind it. -/
def readKey? (bytes : List UInt8) : Option (String × List UInt8) := do
  let (raw, rest) ← readRaw? bytes
  match ← Json.decode? raw with
  | .string key => return (key, rest)
  | _ => none

/-- Adds the value at the head of bytes to a draft. -/
def readMember? (draft : Draft) (member : Member) (bytes : List UInt8) :
    Option (Draft × List UInt8) :=
  match member with
  | .condition => (readRaw? bytes).map fun (text, rest) =>
      ({ draft with condition := some text }, rest)
  | .context => (readRaw? bytes).map fun (text, rest) =>
      ({ draft with context := some (presentContext text) }, rest)
  | .other => (Json.skim? bytes).map fun (_, rest) => (draft, rest)

/--
Reads one or more members and the closing brace; `bound` limits their number.
-/
def readMembers (draft : Draft) :
    (bound : Nat) → List UInt8 → Except MessageFault (Message × List UInt8)
  | 0, _ => .error .notJson
  | bound + 1, bytes => do
      let (key, rest) ← orNotJson (readKey? bytes)
      let member := Member.ofKey key
      if draft.has member then throw .wrongShape
      let rest ← orNotJson (skipMark? ':' rest)
      let (draft, rest) ← orNotJson (readMember? draft member rest)
      match skipMark? ',' rest with
      | some rest => readMembers draft bound rest
      | none =>
          let rest ← orNotJson (skipMark? '\x7d' rest)
          return (← draft.complete, rest)

/-- Reads a message after its opening brace. -/
def readObject (bytes : List UInt8) :
    Except MessageFault (Message × List UInt8) :=
  match skipMark? '\x7d' bytes with
  | some _ => .error .wrongShape
  | none => readMembers ⟨none, none⟩ bytes.length bytes

/-- Reads a message after its opening bracket. -/
def readArray (bytes : List UInt8) :
    Except MessageFault (Message × List UInt8) :=
  match skipMark? ']' bytes with
  | some _ => .error .wrongShape
  | none => do
      let (condition, rest) ← orNotJson (readRaw? bytes)
      match skipMark? ',' rest with
      | none =>
          let rest ← orNotJson (skipMark? ']' rest)
          return (⟨condition, none⟩, rest)
      | some rest =>
          let (context, rest) ← orNotJson (readRaw? rest)
          let rest ← orNotJson (skipMark? ']' rest)
          return (⟨condition, presentContext context⟩, rest)

/-- The fault of bytes that start with neither a brace nor a bracket. -/
def scalarFault (bytes : List UInt8) : MessageFault :=
  match (readRaw? bytes).bind fun (text, _) => Json.decode? text with
  | some _ => .wrongShape
  | none => .notJson

/-- Reads the message at the head of bytes, after blanks. -/
def read (bytes : List UInt8) : Except MessageFault (Message × List UInt8) :=
  match skipMark? '\x7b' bytes with
  | some rest => readObject rest
  | none =>
      match skipMark? '[' bytes with
      | some rest => readArray rest
      | none => .error (scalarFault bytes)

/-- Reads bytes that are one message and blanks. -/
def ofBytes (bytes : List UInt8) : Except MessageFault Message := do
  let (message, rest) ← read bytes
  if (skipBlankBytes rest).isEmpty then return message else throw .notJson

end Message

end Criteria
