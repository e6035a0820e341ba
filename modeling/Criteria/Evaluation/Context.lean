import Criteria.Evaluation.Lookup
import Criteria.Json.Reader

/-!
# The context of an evaluation

The external data that a condition refers to.  A context given as text is
decoded when it is first needed and never again once that has succeeded; a
text that does not decode is tried again every time.  A text of nothing but
white space stands for null and is never decoded.
-/

namespace Criteria

/-- Where the data of a context comes from. -/
inductive ContextSource where
  | empty
  | raw (text : String)
  | value (value : Json)

/-- A source together with what has been decoded of it so far. -/
structure Context where
  source : ContextSource
  decoded : Option Json

namespace Context

/-- A context without data; it resolves to null. -/
def empty : Context :=
  ⟨.empty, none⟩

/-- A context given as text that is not decoded yet. -/
def raw (text : String) : Context :=
  ⟨.raw text, none⟩

/-- A context given as a value. -/
def ofValue (value : Json) : Context :=
  ⟨.value value, none⟩

/-- Whether nothing is left to decode. -/
def isDecoded (context : Context) : Bool :=
  match context.source with
  | .raw _ => context.decoded.isSome
  | _ => true

/-- The value of a context, and the context as it is afterwards. -/
def resolve (context : Context) : Except ConditionError Json × Context :=
  match context.source, context.decoded with
  | .empty, _ => (.ok .null, context)
  | .value value, _ => (.ok value, context)
  | .raw text, decoded =>
      if isBlankText text.toList then (.ok .null, context)
      else
        match decoded with
        | some value => (.ok value, context)
        | none =>
            match Json.decode? text with
            | some value => (.ok value, { context with decoded := some value })
            | none => (.error .invalidContext, context)

/--
The value at the end of a path into a context, and the context afterwards.
-/
def lookup (context : Context) (path : List Json) :
    Except ConditionError (Option Json) × Context :=
  match context.resolve with
  | (.ok root, after) => (root.walk path, after)
  | (.error error, after) => (.error error, after)

end Context

end Criteria
