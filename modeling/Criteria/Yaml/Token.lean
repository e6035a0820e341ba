import Criteria.Yaml.Basic

/-!
# YAML tokens

What a document is made of once its indentation is made explicit: block
collections have a start and an end, and every key is announced.
-/

namespace Criteria.Yaml

/-- A token of a YAML document. -/
inductive Token where
  | version (major minor : Nat)
  | handle (name expansion : String)
  | documentStart
  | documentEnd
  | sequenceStart
  | mappingStart
  | blockEnd
  | bracketOpen
  | bracketClose
  | braceOpen
  | braceClose
  | item
  | comma
  | key
  | value
  | reference (name : String)
  | anchor (name : String)
  | tag (handle suffix : String)
  | scalar (style : ScalarStyle) (text : String)
  deriving DecidableEq

end Criteria.Yaml
