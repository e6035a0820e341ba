/-!
# YAML documents

A document is a node: a scalar, a sequence, a mapping, or a reference to
another node of the document.  A scalar keeps its text together with the way
it was written, which matters only where a number is wanted.  What a node
holds is asked of the document, so that references can be followed.
-/

namespace Criteria

/-- The ways to write a scalar. -/
inductive ScalarStyle where
  | plain
  | singleQuoted
  | doubleQuoted
  | literal
  | folded
  deriving DecidableEq

/-- A node of a YAML document. -/
inductive Yaml where
  | scalar (style : ScalarStyle) (tag : Option String) (text : String)
  | sequence (items : List Yaml)
  | mapping (entries : List (Yaml × Yaml))
  | reference (number : Nat)

namespace Yaml

/-- A node that is not written at all. -/
def absent : Yaml :=
  .scalar .plain none ""

/-- A document: its node, and the nodes that references in it stand for. -/
structure Document where
  root : Yaml
  anchored : List (Nat × Yaml)

namespace Document

/-- The node itself, or the one that it refers to. -/
def resolve? (document : Document) : Yaml → Option Yaml
  | .reference number => document.anchored.lookup number
  | node => some node

/-- The text of a scalar. -/
def text? (document : Document) (node : Yaml) : Option String :=
  match document.resolve? node with
  | some (.scalar _ _ text) => some text
  | _ => none

/-- The items of a sequence; a node that is not written has none. -/
def items? (document : Document) (node : Yaml) : Option (List Yaml) :=
  match document.resolve? node with
  | some (.sequence items) => some items
  | some (.scalar .plain _ "") => some []
  | _ => none

/--
The entries of a mapping, all keys being scalars; a node that is not written has
none.
-/
def entries? (document : Document) (node : Yaml) :
    Option (List (String × Yaml)) :=
  match document.resolve? node with
  | some (.mapping entries) =>
      entries.mapM fun (key, value) =>
        (document.text? key).map fun key => (key, value)
  | some (.scalar .plain _ "") => some []
  | _ => none

end Document

/-- The values under a key. -/
def valuesOf (key : String) (entries : List (String × Yaml)) : List Yaml :=
  (entries.filter fun entry => entry.1 == key).map Prod.snd

end Yaml

end Criteria
