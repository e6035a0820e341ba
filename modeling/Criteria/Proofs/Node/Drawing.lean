import Criteria.Proofs.Node.Label
import Criteria.Proofs.Node.Preorder

/-!
# The drawing of a tree is faithful

A line is drawn behind a text that is rebuilt from the line of its parent, by
cutting off the branch to the parent and looking at its first character.  The
invariant is that this text is an indent of four characters for each node on the
way down, below the root, and ends in the branch to the node itself; so the
lines are those of a walk in pre-order, and what stands before a label is told
by the trail.  The branches and the indents tell the lines of children from
those below them, and the labels tell nodes apart, so that a drawing is that of
one tree alone.
-/

namespace Criteria

/-! ## What stands before a label -/

namespace Node

/-- The branch to a child. -/
def branchTo (isLast : Bool) : List Char :=
  if isLast then lastBranch else branch

/-- The indent below a child. -/
def indentTo (isLast : Bool) : List Char :=
  if isLast then closedIndent else openIndent

theorem branchTo_eq (isLast : Bool) :
    branchTo isLast =
      if isLast then [' ', '\\', '_', ' '] else ['|', '_', '_', ' '] := by
  cases isLast <;> simp [branchTo, lastBranch, branch]

theorem indentTo_eq (isLast : Bool) :
    indentTo isLast =
      if isLast then [' ', ' ', ' ', ' '] else ['|', ' ', ' ', ' '] := by
  cases isLast <;> simp [indentTo, closedIndent, openIndent]

theorem length_branchTo (isLast : Bool) : (branchTo isLast).length = 4 := by
  rw [branchTo_eq]
  cases isLast <;> rfl

theorem length_indentTo (isLast : Bool) : (indentTo isLast).length = 4 := by
  rw [indentTo_eq]
  cases isLast <;> rfl

/--
What stands before a label: an indent for each node above, below the root, and
the branch to the node.
-/
def linePrefix : List Bool → List Char
  | [] => []
  | [isLast] => branchTo isLast
  | isLast :: further => indentTo isLast ++ linePrefix further

theorem linePrefix_cons {further : List Bool} (deeper : further ≠ [])
    (isLast : Bool) :
    linePrefix (isLast :: further) = indentTo isLast ++ linePrefix further := by
  cases further with
  | nil => exact absurd rfl deeper
  | cons => rfl

/-- Four characters stand before a label for each level. -/
theorem length_linePrefix (trail : List Bool) :
    (linePrefix trail).length = 4 * trail.length := by
  induction trail with
  | nil => rfl
  | cons isLast further ih =>
      cases further with
      | nil => exact length_branchTo isLast
      | cons next others =>
          rw [linePrefix_cons (List.cons_ne_nil _ _), List.length_append, ih,
            length_indentTo, Nat.add_comm]
          exact (Nat.mul_succ 4 _).symm

theorem lineFeed_notMem_linePrefix (trail : List Bool) :
    '\n' ∉ linePrefix trail := by
  induction trail with
  | nil => exact List.not_mem_nil
  | cons isLast further ih =>
      cases further with
      | nil =>
          rw [linePrefix, branchTo_eq]
          cases isLast <;> simp
      | cons next others =>
          rw [linePrefix_cons (List.cons_ne_nil _ _), List.mem_append, not_or]
          refine ⟨?_, ih⟩
          rw [indentTo_eq]
          cases isLast <;> simp

/-- The branch at the end gives way to the indent that carries it on. -/
theorem indentBelow_branchTo (indent : List Char) (isLast : Bool) :
    indentBelow (indent ++ branchTo isLast) = indent ++ indentTo isLast := by
  have four : branch.length = 4 := length_branchTo false
  have length : (indent ++ branchTo isLast).length = indent.length + 4 := by
    rw [List.length_append, length_branchTo]
  have long : ¬indent.length + 4 < 4 := Nat.not_lt.mpr (Nat.le_add_left 4 _)
  rw [indentBelow, length, four, if_neg long]
  simp only [Nat.add_sub_cancel, List.take_left', List.getElem?_append_right,
    Nat.le_refl, Nat.sub_self]
  cases isLast <;> simp [branchTo_eq, indentTo]

/-! ## The lines of a walk -/

theorem linesBehind_eq (before : List Char) (node : Node) :
    linesBehind before node =
      (before ++ node.label.toList) ::
        childLines (indentBelow before) node.children := by
  cases node with
  | literal => rfl
  | array => rfl
  | function name argument =>
      rw [linesBehind, children, childLines, childLines, List.append_nil]
      rfl

theorem childLines_cons (indent : List Char) (child : Node)
    (children : List Node) :
    childLines indent (child :: children) =
      linesBehind (indent ++ branchTo children.isEmpty) child ++
        childLines indent children := rfl

end Node

/-- The line that is drawn for a visit. -/
def PreorderVisit.line (visit : PreorderVisit) : List Char :=
  Node.linePrefix visit.trail ++ visit.node.label.toList

namespace Node

/-- The line of a visit below a child is that in the child, further right. -/
theorem line_down
    {position start : Nat} {isLast : Bool} {nodes : List Node}
    {visit : PreorderVisit}
    (below : visit ∈ childVisits start nodes) :
    (visit.down position isLast).line = indentTo isLast ++ visit.line := by
  have deeper : visit.trail ≠ [] := by
    rcases mem_childVisits.mp below with ⟨_, _, _, _, _, rfl⟩
    exact List.cons_ne_nil _ _
  rw [PreorderVisit.line, PreorderVisit.down, linePrefix_cons deeper,
    PreorderVisit.line, List.append_assoc]

/-- The lines of children are those of the visits in them. -/
theorem childLines_eq_map
    {nodes : List Node}
    (drawn : ∀ node ∈ nodes, ∀ indent isLast position,
      linesBehind (indent ++ branchTo isLast) node =
        node.visits.map fun visit =>
          indent ++ (visit.down position isLast).line)
    (indent : List Char) (position : Nat) :
    childLines indent nodes =
      (childVisits position nodes).map fun visit => indent ++ visit.line := by
  induction nodes generalizing position with
  | nil => rfl
  | cons child children ih =>
      rcases List.forall_mem_cons.mp drawn with ⟨first, others⟩
      rw [childLines_cons, childVisits, List.map_append, List.map_map,
        first indent children.isEmpty position, ih others (position + 1)]
      rfl

/-- The lines of a child are those of the visits in it. -/
theorem linesBehind_eq_map (node : Node) :
    ∀ indent isLast position,
      linesBehind (indent ++ branchTo isLast) node =
        node.visits.map fun visit =>
          indent ++ (visit.down position isLast).line := by
  induction node using children_induction with
  | step node drawn =>
      intro indent isLast position
      rw [linesBehind_eq, indentBelow_branchTo, visits_eq, List.map_cons,
        childLines_eq_map drawn (indent ++ indentTo isLast) 0]
      congr 1
      · exact List.append_assoc _ _ _
      · apply List.map_congr_left
        intro visit below
        rw [line_down below, List.append_assoc]

/-- A tree is drawn as the lines of a walk through it in pre-order. -/
theorem lines_eq_map (root : Node) :
    root.lines = root.visits.map PreorderVisit.line := by
  have indent : indentBelow [] = [] := rfl
  have below := childLines_eq_map
    (fun node (_ : node ∈ root.children) => linesBehind_eq_map node) [] 0
  rw [lines, linesBehind_eq, indent, visits_eq, List.map_cons, below]
  rfl

/-! ## One drawing, one tree -/

/-- A branch and what follows it can be told from the whole. -/
theorem branchTo_append_inj
    {left right : Bool} {leftRest rightRest : List Char}
    (equal : branchTo left ++ leftRest = branchTo right ++ rightRest) :
    left = right ∧ leftRest = rightRest := by
  have lengths : (branchTo left).length = (branchTo right).length := by
    rw [length_branchTo, length_branchTo]
  rcases List.append_inj equal lengths with ⟨same, rest⟩
  constructor
  · rw [branchTo_eq, branchTo_eq] at same
    cases left <;> cases right <;> simp at same ⊢
  · exact rest

/-- No branch begins as an indent does. -/
theorem not_indentTo_prefix_branchTo
    (above isLast : Bool) (rest : List Char) :
    ¬indentTo above <+: branchTo isLast ++ rest := by
  rintro ⟨others, same⟩
  have lengths : (indentTo above).length = (branchTo isLast).length := by
    rw [length_indentTo, length_branchTo]
  have equal := (List.append_inj same lengths).1
  rw [indentTo_eq, branchTo_eq] at equal
  cases above <;> cases isLast <;> simp at equal

theorem prefix_of_mem_childLines
    {indent line : List Char} {nodes : List Node}
    (member : line ∈ childLines indent nodes) : indent <+: line := by
  rw [childLines_eq_map (fun node _ => linesBehind_eq_map node) indent 0]
    at member
  rcases List.mem_map.mp member with ⟨visit, _, rfl⟩
  exact List.prefix_append _ _

/--
The lines below a child are those before the line of its next sibling, as they
begin with an indent and that one with a branch.
-/
theorem takeWhile_below
    (indent : List Char) (isLast : Bool) (children siblings : List Node) :
    (childLines (indent ++ indentTo isLast) children ++
        childLines indent siblings).takeWhile
      (fun line => (indent ++ indentTo isLast).isPrefixOf line) =
        childLines (indent ++ indentTo isLast) children := by
  rw [List.takeWhile_append_of_pos]
  · cases siblings with
    | nil => exact List.append_nil _
    | cons sibling siblings =>
        have apart : ¬(indent ++ indentTo isLast) <+:
            indent ++ branchTo siblings.isEmpty ++ sibling.label.toList := by
          rw [List.append_assoc, List.prefix_append_right_inj]
          exact not_indentTo_prefix_branchTo _ _ _
        rw [childLines_cons, linesBehind_eq, List.cons_append,
          List.takeWhile_cons_of_neg, List.append_nil]
        exact mt List.isPrefixOf_iff_prefix.mp apart
  · intro line member
    exact List.isPrefixOf_iff_prefix.mpr (prefix_of_mem_childLines member)

/-- The lines of the first of several children are told from the rest. -/
theorem childLines_cons_inj
    {left right : Node} {lefts rights : List Node} {indent : List Char}
    (equal : childLines indent (left :: lefts) =
      childLines indent (right :: rights)) :
    (∃ before, linesBehind before left = linesBehind before right) ∧
      childLines indent lefts = childLines indent rights := by
  rw [childLines_cons, childLines_cons, linesBehind_eq, linesBehind_eq,
    indentBelow_branchTo, indentBelow_branchTo, List.cons_append,
    List.cons_append, List.cons.injEq, List.append_assoc, List.append_assoc,
    List.append_cancel_left_eq] at equal
  rcases equal with ⟨line, later⟩
  rcases branchTo_append_inj line with ⟨sameBranch, labels⟩
  rw [← sameBranch] at later
  have below := congrArg (List.takeWhile fun line =>
    (indent ++ indentTo lefts.isEmpty).isPrefixOf line) later
  rw [takeWhile_below, takeWhile_below] at below
  constructor
  · refine ⟨indent ++ branchTo lefts.isEmpty, ?_⟩
    rw [linesBehind_eq, linesBehind_eq, indentBelow_branchTo, labels, below]
  · rwa [below, List.append_cancel_left_eq] at later

theorem childLines_cons_ne_nil
    (indent : List Char) (child : Node) (children : List Node) :
    childLines indent (child :: children) ≠ [] := by
  rw [childLines_cons, linesBehind_eq, List.cons_append]
  exact List.cons_ne_nil _ _

theorem childLines_inj
    {lefts rights : List Node} {indent : List Char}
    (drawn : ∀ left ∈ lefts, ∀ (right : Node) (before : List Char),
      right.Drawable → linesBehind before left = linesBehind before right →
        left = right)
    (drawable : ∀ right ∈ rights, right.Drawable)
    (equal : childLines indent lefts = childLines indent rights) :
    lefts = rights := by
  induction lefts generalizing rights with
  | nil =>
      cases rights with
      | nil => rfl
      | cons right rights =>
          exact absurd equal.symm (childLines_cons_ne_nil _ _ _)
  | cons left lefts ih =>
      cases rights with
      | nil => exact absurd equal (childLines_cons_ne_nil _ _ _)
      | cons right rights =>
          rcases List.forall_mem_cons.mp drawn with ⟨first, others⟩
          rcases List.forall_mem_cons.mp drawable with ⟨fits, othersFit⟩
          rcases childLines_cons_inj equal with ⟨⟨before, lines⟩, later⟩
          rw [first right before fits lines, ih others othersFit later]

/-- Trees that are drawn alike behind the same text are the same. -/
theorem linesBehind_inj
    {left : Node} (leftDrawable : left.Drawable) :
    ∀ (right : Node) (before : List Char), right.Drawable →
      linesBehind before left = linesBehind before right → left = right := by
  induction left using children_induction with
  | step left ih =>
      intro right before rightDrawable equal
      rw [linesBehind_eq, linesBehind_eq, List.cons.injEq,
        List.append_cancel_left_eq] at equal
      rcases equal with ⟨labels, below⟩
      have children : left.children = right.children :=
        childLines_inj
          (fun child member =>
            ih child member (leftDrawable.of_mem_children member))
          (fun _ member => rightDrawable.of_mem_children member) below
      exact eq_of_label leftDrawable.fitsLine rightDrawable.fitsLine labels
        children

/-! ## The text of a drawing -/

theorem takeWhile_line {line rest : List Char} (single : '\n' ∉ line) :
    (line ++ (['\n'] ++ rest)).takeWhile (· != '\n') = line := by
  apply takeWhile_append_of_stopsAt
  · intro character member
    exact bne_iff_ne.mpr fun same => single (same ▸ member)
  · exact stopsAt_cons.mpr rfl

/-- Lines that hold no line feed can be read off the text that they make. -/
theorem eq_of_flatMap_lineFeed
    {lefts rights : List (List Char)}
    (leftsSingle : ∀ line ∈ lefts, '\n' ∉ line)
    (rightsSingle : ∀ line ∈ rights, '\n' ∉ line)
    (equal : lefts.flatMap (fun line => line ++ ['\n']) =
      rights.flatMap fun line => line ++ ['\n']) :
    lefts = rights := by
  induction lefts generalizing rights with
  | nil =>
      cases rights with
      | nil => rfl
      | cons => simp at equal
  | cons left lefts ih =>
      cases rights with
      | nil => simp at equal
      | cons right rights =>
          rcases List.forall_mem_cons.mp leftsSingle with ⟨first, others⟩
          rcases List.forall_mem_cons.mp rightsSingle with ⟨first', others'⟩
          rw [List.flatMap_cons, List.flatMap_cons, List.append_assoc,
            List.append_assoc] at equal
          have line := congrArg (List.takeWhile (· != '\n')) equal
          rw [takeWhile_line first, takeWhile_line first'] at line
          rw [line, List.append_cancel_left_eq, List.append_cancel_left_eq]
            at equal
          rw [line, ih others others' equal]

/-- What can be drawn is drawn in single lines. -/
theorem Drawable.lineFeed_notMem_lines
    {root : Node} (drawable : root.Drawable) :
    ∀ line ∈ root.lines, '\n' ∉ line := by
  intro line member
  rw [lines_eq_map] at member
  rcases List.mem_map.mp member with ⟨visit, visited, rfl⟩
  have contains := contains_of_at? (mem_visits.mp visited).1
  rw [PreorderVisit.line, List.mem_append, not_or]
  exact ⟨lineFeed_notMem_linePrefix visit.trail,
    lineFeed_notMem_label (drawable visit.node contains)⟩

theorem toList_render (root : Node) :
    root.render.toList = root.lines.flatMap fun line => line ++ ['\n'] :=
  String.toList_ofList

/-- Trees with one drawing are the same. -/
theorem eq_of_render
    {left right : Node} (leftDrawable : left.Drawable)
    (rightDrawable : right.Drawable) (same : left.render = right.render) :
    left = right := by
  have texts := congrArg String.toList same
  rw [toList_render, toList_render] at texts
  have equal := eq_of_flatMap_lineFeed leftDrawable.lineFeed_notMem_lines
    rightDrawable.lineFeed_notMem_lines texts
  exact linesBehind_inj leftDrawable right [] rightDrawable equal

/--
The drawing of a tree is faithful.  It has a line for every node, ended by a
line feed, and the lines are those of a walk in pre-order: one visit to every
place of the tree, in the order of places.  The line of a visit is the label of
the node behind four characters for each level, which tell from the trail of
the visit what stands there.  If all numbers of the tree are finite and no text
holds a line feed, neither does any line; and then no other such tree has the
same drawing.
-/
theorem drawing_is_faithful (root : Node) :
    root.render.toList = (root.lines.flatMap fun line => line ++ ['\n']) ∧
      root.lines.length = root.nodeCount ∧
      (∃ visits : List PreorderVisit,
        root.lines = visits.map (fun visit =>
          linePrefix visit.trail ++ visit.node.label.toList) ∧
        visits.Pairwise (fun first second => first.place < second.place) ∧
        (∀ visit, visit ∈ visits ↔
          root.at? visit.place = some visit.node ∧
            root.trail visit.place = visit.trail) ∧
        ∀ visit ∈ visits,
          (linePrefix visit.trail).length = 4 * visit.place.length) ∧
      (root.Drawable → ∀ line ∈ root.lines, '\n' ∉ line) ∧
      ∀ other : Node, root.Drawable → other.Drawable →
        root.render = other.render → root = other := by
  refine ⟨toList_render root, ?_, ⟨root.visits, lines_eq_map root,
    pairwise_visits root, fun visit => mem_visits, ?_⟩, ?_, ?_⟩
  · rw [lines_eq_map, List.length_map, length_visits]
  · intro visit visited
    rcases mem_visits.mp visited with ⟨stands, leads⟩
    rw [length_linePrefix, ← leads, length_trail stands]
  · intro drawable
    exact drawable.lineFeed_notMem_lines
  · intro other drawable otherDrawable same
    exact eq_of_render drawable otherDrawable same

/-- A text that is the drawing of one tree, and of no other. -/
theorem drawing_is_faithful_nested :
    let root := Node.function "f" (.array
      [.literal .null, .function "g" (.literal (.string "x"))])
    root.Drawable ∧
      root.render = "FUNCTION<f>\n \\_ ARRAY\n    |__ LITERAL<null>\n" ++
        "     \\_ FUNCTION<g>\n         \\_ LITERAL<string::x>\n" ∧
      (∀ line ∈ root.lines, '\n' ∉ line) ∧
      ∀ other : Node, other.Drawable → root.render = other.render →
        root = other := by
  intro root
  have drawable : root.Drawable := by
    intro node contains
    simp only [root, contains_function, contains_array, contains_literal,
      List.mem_cons, List.not_mem_nil, or_false, exists_eq_or_imp,
      exists_eq_left] at contains
    rcases contains with rfl | rfl | rfl | rfl | rfl <;>
      simp [FitsLine, Literal.FitsLine]
  rcases drawing_is_faithful root with ⟨_, _, _, single, alone⟩
  exact ⟨drawable, by decide +kernel, single drawable,
    fun other otherDrawable => alone other drawable otherDrawable⟩

end Node

end Criteria
