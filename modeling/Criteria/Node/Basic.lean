import Criteria.Token.Basic

/-!
# Condition trees

A parsed condition is a tree of literals, arrays and functions.  A function
has a name and exactly one argument; several operands are passed as an array.
-/

namespace Criteria

/-- A node of a condition. -/
inductive Node where
  | literal (value : Literal)
  | array (elements : List Node)
  | function (name : String) (argument : Node)

namespace Node

instance : Inhabited Node :=
  ⟨.literal .null⟩

/-- The kinds of nodes that messages distinguish. -/
inductive Kind where
  | literal
  | array
  | function
  deriving DecidableEq

/-- The name of a kind. -/
def Kind.name : Kind → String
  | .literal => "literal"
  | .array => "array"
  | .function => "function"

/-- The kind of a node. -/
def kind : Node → Kind
  | .literal _ => .literal
  | .array _ => .array
  | .function _ _ => .function

/-- The children of a node, in the order in which they are evaluated. -/
def children : Node → List Node
  | .literal _ => []
  | .array elements => elements
  | .function _ argument => [argument]

mutual

/-- The number of nodes on the longest path down from a node. -/
def depth : Node → Nat
  | .literal _ => 1
  | .array elements => greatestDepth elements + 1
  | .function _ argument => depth argument + 1

/-- The greatest depth among nodes, zero if there are none. -/
def greatestDepth : List Node → Nat
  | [] => 0
  | node :: nodes => max (depth node) (greatestDepth nodes)

end

mutual

/--
How deep arrays and functions nest within a node; a literal has no nesting.
-/
def nesting : Node → Nat
  | .literal _ => 0
  | .array elements => greatestNesting elements + 1
  | .function _ argument => nesting argument + 1

/-- The greatest nesting among nodes, zero if there are none. -/
def greatestNesting : List Node → Nat
  | [] => 0
  | node :: nodes => max (nesting node) (greatestNesting nodes)

end

mutual

/-- The number of nodes of a tree. -/
def nodeCount : Node → Nat
  | .literal _ => 1
  | .array elements => totalCount elements + 1
  | .function _ argument => nodeCount argument + 1

/-- The number of nodes of several trees together. -/
def totalCount : List Node → Nat
  | [] => 0
  | node :: nodes => nodeCount node + totalCount nodes

end

mutual

/-- Equality of trees, in which numbers count by their value. -/
def same : Node → Node → Bool
  | .literal left, .literal right => left.same right
  | .array lefts, .array rights => allSame lefts rights
  | .function leftName left, .function rightName right =>
      leftName == rightName && same left right
  | _, _ => false

/-- Nodes are equal one by one, and as many on both sides. -/
def allSame : List Node → List Node → Bool
  | [], [] => true
  | left :: lefts, right :: rights => same left right && allSame lefts rights
  | _, _ => false

end

@[simp]
theorem nodeCount_literal (value : Literal) :
    (literal value).nodeCount = 1 := by
  simp [nodeCount]

theorem nodeCount_pos (node : Node) : 0 < node.nodeCount := by
  cases node <;> simp [nodeCount]

end Node

end Criteria
