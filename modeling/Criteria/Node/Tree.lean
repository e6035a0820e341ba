import Criteria.Node.Basic

/-!
# Drawing a condition as a tree

One line per node, in the order of a walk that visits a node before its
children.  What a line stands behind is handed down from parent to child: the
branch to the parent, at its end, gives way to an indent that carries it on,
a bar where more siblings follow and blanks where none do, and the branch to
the child is put behind it.
-/

namespace Criteria.Node

/-- The branch to a child that siblings follow. -/
def branch : List Char := "|__ ".toList

/-- The branch to a last child. -/
def lastBranch : List Char := " \\_ ".toList

/-- The indent below a child that siblings follow. -/
def openIndent : List Char := "|   ".toList

/-- The indent below a last child. -/
def closedIndent : List Char := "    ".toList

/-- The label of a node. -/
def label : Node → String
  | .literal value => value.label
  | .array _ => "ARRAY"
  | .function name _ => "FUNCTION<" ++ name ++ ">"

/--
What the children of a node are drawn behind.  It is what the node itself is
drawn behind, except that the branch at the end, if there is one, becomes the
indent that carries it on.
-/
def indentBelow (before : List Char) : List Char :=
  if before.length < branch.length then before
  else
    let place := before.length - branch.length
    before.take place ++
      (if before[place]? = some '|' then openIndent else closedIndent)

mutual

/-- The line of a node and those of all that is below it. -/
def linesBehind (before : List Char) : Node → List (List Char)
  | .literal value => [before ++ (Node.literal value).label.toList]
  | .array elements =>
      (before ++ (Node.array elements).label.toList) ::
        childLines (indentBelow before) elements
  | .function name argument =>
      (before ++ (Node.function name argument).label.toList) ::
        linesBehind (indentBelow before ++ lastBranch) argument

/-- The lines of children and of all that is below them. -/
def childLines (indent : List Char) : List Node → List (List Char)
  | [] => []
  | child :: children =>
      linesBehind (indent ++ if children.isEmpty then lastBranch else branch)
          child ++
        childLines indent children

end

/-- The lines of a tree: nothing stands before its root. -/
def lines (node : Node) : List (List Char) :=
  linesBehind [] node

/-- A tree as text, every line ended by a line feed. -/
def render (node : Node) : String :=
  String.ofList (node.lines.flatMap fun line => line ++ ['\n'])

end Criteria.Node
