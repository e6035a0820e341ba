import Mathlib.Logic.Relation
import Criteria.Evaluation.Builtin

/-!
# What a tree calls

The names of the functions of a tree, and trees that call nothing but certain
built-in functions, under whatever names a registry binds them to.
-/

namespace Criteria

namespace Node

mutual

/-- The names of the functions of a tree, from left to right. -/
def functionNames : Node → List String
  | .literal _ => []
  | .array elements => elementNames elements
  | .function name argument => name :: functionNames argument

/-- The names of the functions of several trees. -/
def elementNames : List Node → List String
  | [] => []
  | node :: nodes => functionNames node ++ elementNames nodes

end

theorem mem_elementNames {elements : List Node} {name : String} :
    name ∈ elementNames elements ↔
      ∃ node ∈ elements, name ∈ node.functionNames := by
  induction elements with
  | nil => simp [elementNames]
  | cons node nodes ih => simp [elementNames, ih]

/--
Every bound function that a tree calls is one of certain built-in functions.
-/
def CallsOnly (allowed : Builtin → Prop) (registry : Registry) (node : Node) :
    Prop :=
  ∀ name ∈ node.functionNames, ∀ handler, registry.find? name = some handler →
    ∃ builtin, allowed builtin ∧ handler = builtin.handler

section

variable {allowed : Builtin → Prop} {registry : Registry}

theorem CallsOnly.of_mem
    {elements : List Node} (calls : (array elements).CallsOnly allowed registry)
    {node : Node} (member : node ∈ elements) :
    node.CallsOnly allowed registry := by
  intro name named
  apply calls name
  simp only [functionNames]
  exact mem_elementNames.mpr ⟨node, member, named⟩

theorem CallsOnly.argument
    {name : String} {node : Node}
    (calls : (function name node).CallsOnly allowed registry) :
    node.CallsOnly allowed registry := by
  intro called named
  apply calls called
  simp only [functionNames]
  exact List.mem_cons_of_mem _ named

theorem CallsOnly.handler
    {name : String} {node : Node}
    (calls : (function name node).CallsOnly allowed registry)
    {handler : Handler} (found : registry.find? name = some handler) :
    ∃ builtin, allowed builtin ∧ handler = builtin.handler := by
  apply calls name _ handler found
  simp only [functionNames]
  exact List.mem_cons_self

theorem CallsOnly.of_mem_children
    {parent node : Node} (calls : parent.CallsOnly allowed registry)
    (member : node ∈ parent.children) :
    node.CallsOnly allowed registry := by
  cases parent with
  | literal => cases member
  | array => exact calls.of_mem member
  | function =>
      rw [List.mem_singleton.mp member]
      exact calls.argument

end

/-! ## Nodes within a tree -/

/-- A node is a child of another. -/
def HasChild (parent child : Node) : Prop :=
  child ∈ parent.children

/-- A node stands somewhere in a tree. -/
def Contains : Node → Node → Prop :=
  Relation.ReflTransGen HasChild

/-- A node stands somewhere below the root of a tree. -/
def Below : Node → Node → Prop :=
  Relation.TransGen HasChild

/--
A path of steps from a node to a child, from the root of a tree down to a node:
the nodes that it passes above the last one, the root first.
-/
inductive Path : Node → List Node → Node → Prop where
  | here (node : Node) : Path node [] node
  | down {parent child node : Node} {above : List Node}
      (hasChild : parent.HasChild child) (rest : Path child above node) :
      Path parent (parent :: above) node

theorem Path.trans
    {root middle node : Node} {above below : List Node}
    (first : Path root above middle) (second : Path middle below node) :
    Path root (above ++ below) node := by
  induction first with
  | here => exact second
  | down hasChild _ ih => exact .down hasChild (ih second)

theorem nesting_le_greatestNesting
    {node : Node} {nodes : List Node} (member : node ∈ nodes) :
    node.nesting ≤ greatestNesting nodes := by
  induction nodes with
  | nil => cases member
  | cons first nodes ih =>
      rw [greatestNesting]
      rcases List.mem_cons.mp member with rfl | later
      · exact Nat.le_max_left _ _
      · exact Nat.le_trans (ih later) (Nat.le_max_right _ _)

theorem HasChild.nesting_lt
    {parent child : Node} (hasChild : parent.HasChild child) :
    child.nesting < parent.nesting := by
  cases parent with
  | literal => cases hasChild
  | array elements =>
      rw [nesting]
      exact Nat.lt_succ_of_le (nesting_le_greatestNesting hasChild)
  | function name argument =>
      rw [List.mem_singleton.mp hasChild, nesting]
      exact Nat.lt_succ_self _

theorem Below.nesting_lt
    {root node : Node} (below : root.Below node) :
    node.nesting < root.nesting := by
  induction below with
  | single child => exact child.nesting_lt
  | tail _ child ih => exact Nat.lt_trans child.nesting_lt ih

theorem Below.contains
    {root node : Node} (below : root.Below node) :
    root.Contains node :=
  Relation.TransGen.to_reflTransGen below

theorem CallsOnly.of_contains
    {allowed : Builtin → Prop} {registry : Registry} {root node : Node}
    (calls : root.CallsOnly allowed registry) (contains : root.Contains node) :
    node.CallsOnly allowed registry := by
  induction contains with
  | refl => exact calls
  | tail _ child ih => exact ih.of_mem_children child

/-- What a tree contains: the root, and what its children contain. -/
theorem contains_iff {root node : Node} :
    root.Contains node ↔
      root = node ∨ ∃ child ∈ root.children, child.Contains node :=
  Relation.ReflTransGen.cases_head_iff

@[simp]
theorem contains_literal {value : Literal} {node : Node} :
    (literal value).Contains node ↔ literal value = node := by
  rw [contains_iff]
  simp [children]

@[simp]
theorem contains_array {elements : List Node} {node : Node} :
    (array elements).Contains node ↔
      array elements = node ∨ ∃ child ∈ elements, child.Contains node :=
  contains_iff

@[simp]
theorem contains_function {name : String} {argument node : Node} :
    (function name argument).Contains node ↔
      function name argument = node ∨ argument.Contains node := by
  rw [contains_iff]
  simp [children]

theorem functionNames_subset_of_contains
    {root node : Node} (contains : root.Contains node) :
    node.functionNames ⊆ root.functionNames := by
  induction contains with
  | refl => exact List.Subset.refl _
  | @tail parent child _ hasChild ih =>
      refine List.Subset.trans ?_ ih
      intro name named
      cases parent with
      | literal => cases hasChild
      | array elements =>
          exact mem_elementNames.mpr ⟨child, hasChild, named⟩
      | function called argument =>
          rw [List.mem_singleton.mp hasChild] at named
          exact List.mem_cons_of_mem _ named

theorem mem_functionNames_of_contains
    {root argument : Node} {name : String}
    (contains : root.Contains (.function name argument)) :
    name ∈ root.functionNames :=
  functionNames_subset_of_contains contains List.mem_cons_self

/-- Every function of a tree that has a handler is a built-in function. -/
abbrev CallsBuiltins (registry : Registry) (node : Node) : Prop :=
  node.CallsOnly (fun _ => True) registry

theorem callsBuiltins_of_functionNames_eq_nil
    {node : Node} (free : node.functionNames = []) (registry : Registry) :
    node.CallsBuiltins registry := by
  intro name named
  rw [free] at named
  cases named

/-! ## Operands -/

/--
The nodes that the evaluation of a node may turn to: the elements of an array,
and of a function its argument or the elements of its argument.
-/
inductive HasOperand : Node → Node → Prop where
  | element {elements : List Node} {child : Node} (member : child ∈ elements) :
      HasOperand (.array elements) child
  | argument {name : String} {argument : Node} :
      HasOperand (.function name argument) argument
  | positional {name : String} {elements : List Node} {child : Node}
      (member : child ∈ elements) :
      HasOperand (.function name (.array elements)) child

theorem HasOperand.below
    {parent child : Node} (operand : parent.HasOperand child) :
    parent.Below child := by
  cases operand with
  | element member => exact .single member
  | argument => exact .single (List.mem_singleton_self _)
  | positional member =>
      exact .head (List.mem_singleton_self _) (.single member)

theorem children_of_arguments
    {argument : Node} {operands : List Node}
    (found : argument.arguments = .ok operands) :
    argument.children = operands := by
  cases argument with
  | literal => cases found
  | array => cases found; rfl
  | function => cases found

theorem children_of_twoArguments
    {argument first second : Node}
    (found : argument.twoArguments = .ok (first, second)) :
    argument.children = [first, second] := by
  cases argument with
  | literal => cases found
  | function => cases found
  | array elements =>
      match elements with
      | [] => cases found
      | [_] => cases found
      | [_, _] => cases found; rfl
      | _ :: _ :: _ :: _ => cases found

end Node

end Criteria
