import Criteria.Proofs.Evaluation.Occurrence

/-!
# The nodes of a tree in pre-order

A walk in pre-order visits a node before its children, and these from left to
right.  It visits every place of the tree, once each, in the lexicographic order
of places; with each visit goes the trail down to the place, which says of every
node on the way, the root apart, whether it is the last child of its parent.
-/

namespace Criteria

/-- A node at a place of a tree, and the trail that leads down to it. -/
structure PreorderVisit where
  place : List Nat
  trail : List Bool
  node : Node

/-- What is visited in a child is visited in the parent, further down. -/
def PreorderVisit.down (position : Nat) (isLast : Bool)
    (visit : PreorderVisit) : PreorderVisit :=
  ⟨position :: visit.place, isLast :: visit.trail, visit.node⟩

namespace Node

/-- What holds of a node if it holds of its children holds of all nodes. -/
theorem children_induction
    {property : Node → Prop}
    (step : ∀ node : Node,
      (∀ child ∈ node.children, property child) → property node)
    (node : Node) : property node :=
  step node fun child _ => children_induction step child
termination_by node.nesting
decreasing_by exact HasChild.nesting_lt ‹_›

/-- Of the nodes down to a place, below the root, which are last children. -/
def trail : Node → List Nat → List Bool
  | _, [] => []
  | node, position :: rest =>
      match node.children[position]? with
      | none => []
      | some child =>
          (position + 1 == node.children.length) :: child.trail rest

mutual

/-- The visits of a walk through a tree in pre-order. -/
def visits : Node → List PreorderVisit
  | .literal value => [⟨[], [], .literal value⟩]
  | .array elements => ⟨[], [], .array elements⟩ :: childVisits 0 elements
  | .function name argument =>
      ⟨[], [], .function name argument⟩ ::
        (visits argument).map (PreorderVisit.down 0 true)

/-- The visits in children from a position on. -/
def childVisits (position : Nat) : List Node → List PreorderVisit
  | [] => []
  | child :: children =>
      (visits child).map (PreorderVisit.down position children.isEmpty) ++
        childVisits (position + 1) children

end

/-- The root is visited first, and then what is below it. -/
theorem visits_eq (node : Node) :
    node.visits = ⟨[], [], node⟩ :: childVisits 0 node.children := by
  cases node with
  | literal => rfl
  | array => rfl
  | function name argument =>
      rw [visits, children, childVisits, childVisits, List.append_nil]
      rfl

theorem nodeCount_eq (node : Node) :
    node.nodeCount = totalCount node.children + 1 := by
  cases node <;> rfl

theorem length_childVisits
    {children : List Node}
    (counted : ∀ child ∈ children, child.visits.length = child.nodeCount)
    (position : Nat) :
    (childVisits position children).length = totalCount children := by
  induction children generalizing position with
  | nil => rfl
  | cons child children ih =>
      rcases List.forall_mem_cons.mp counted with ⟨first, others⟩
      rw [childVisits, totalCount, List.length_append, List.length_map, first,
        ih others]

/-- As many nodes are visited as there are. -/
theorem length_visits (node : Node) : node.visits.length = node.nodeCount := by
  induction node using children_induction with
  | step node counted =>
      rw [visits_eq, nodeCount_eq, List.length_cons,
        length_childVisits counted]

/-! ## Which places are visited -/

theorem mem_childVisits
    {position : Nat} {nodes : List Node} {visit : PreorderVisit} :
    visit ∈ childVisits position nodes ↔
      ∃ (index : Nat) (node : Node) (inner : PreorderVisit),
        nodes[index]? = some node ∧ inner ∈ node.visits ∧
          inner.down (position + index) (index + 1 == nodes.length) =
            visit := by
  induction nodes generalizing position with
  | nil => simp [childVisits]
  | cons node nodes ih =>
      rw [childVisits, List.mem_append, List.mem_map, ih]
      constructor
      · rintro (⟨inner, member, rfl⟩ |
          ⟨index, other, inner, found, member, rfl⟩)
        · refine ⟨0, node, inner, rfl, member, ?_⟩
          cases nodes <;> rfl
        · refine ⟨index + 1, other, inner, found, member, ?_⟩
          simp [Nat.add_assoc, Nat.add_comm 1 index]
      · rintro ⟨_ | index, other, inner, found, member, rfl⟩
        · cases found
          refine Or.inl ⟨inner, member, ?_⟩
          cases nodes <;> rfl
        · refine Or.inr ⟨index, other, inner, found, member, ?_⟩
          simp [Nat.add_assoc, Nat.add_comm 1 index]

section

variable {root node : Node} {flags : List Bool}

/-- What is visited at the root is the root itself. -/
theorem mem_visits_root :
    ⟨[], flags, node⟩ ∈ root.visits ↔ root = node ∧ flags = [] := by
  rw [visits_eq, List.mem_cons]
  constructor
  · rintro (same | below)
    · cases same
      exact ⟨rfl, rfl⟩
    · rcases mem_childVisits.mp below with ⟨_, _, _, _, _, impossible⟩
      cases impossible
  · rintro ⟨rfl, rfl⟩
    exact Or.inl rfl

/-- What is visited further down is visited in the child on the way. -/
theorem mem_visits_down {position : Nat} {rest : List Nat} :
    ⟨position :: rest, flags, node⟩ ∈ root.visits ↔
      ∃ child inner, root.children[position]? = some child ∧
        ⟨rest, inner, node⟩ ∈ child.visits ∧
          flags = (position + 1 == root.children.length) :: inner := by
  rw [visits_eq, List.mem_cons]
  constructor
  · rintro (impossible | below)
    · cases impossible
    · rcases mem_childVisits.mp below with
        ⟨index, child, inner, found, member, same⟩
      rw [Nat.zero_add] at same
      cases same
      exact ⟨child, inner.trail, found, member, rfl⟩
  · rintro ⟨child, inner, found, member, rfl⟩
    apply Or.inr
    apply mem_childVisits.mpr
    refine ⟨position, child, _, found, member, ?_⟩
    rw [Nat.zero_add]
    rfl

end

/-- What is visited is what stands at a place, at the end of its trail. -/
theorem mem_visits {root : Node} {visit : PreorderVisit} :
    visit ∈ root.visits ↔
      root.at? visit.place = some visit.node ∧
        root.trail visit.place = visit.trail := by
  rcases visit with ⟨place, flags, node⟩
  induction place generalizing root flags with
  | nil =>
      rw [mem_visits_root, at?, trail, Option.some.injEq, eq_comm (a := flags)]
  | cons position rest ih =>
      simp only [mem_visits_down, ih]
      constructor
      · rintro ⟨child, _, found, ⟨stands, rfl⟩, rfl⟩
        rw [at?, trail, found]
        exact ⟨stands, rfl⟩
      · rintro ⟨stands, leads⟩
        rcases Option.bind_eq_some_iff.mp stands with ⟨child, found, further⟩
        rw [trail, found] at leads
        exact ⟨child, child.trail rest, found, ⟨further, rfl⟩, leads.symm⟩

theorem contains_of_at?
    {root node : Node} {place : List Nat}
    (stands : root.at? place = some node) :
    root.Contains node := by
  induction place generalizing root with
  | nil =>
      cases stands
      exact .refl
  | cons position rest ih =>
      rcases Option.bind_eq_some_iff.mp stands with ⟨child, found, further⟩
      exact .head (List.mem_of_getElem? found) (ih further)

/-- A trail is as long as its place is deep. -/
theorem length_trail
    {root node : Node} {place : List Nat}
    (stands : root.at? place = some node) :
    (root.trail place).length = place.length := by
  induction place generalizing root with
  | nil => rfl
  | cons position rest ih =>
      rcases Option.bind_eq_some_iff.mp stands with ⟨child, found, further⟩
      rw [trail, found]
      exact congrArg (· + 1) (ih further)

/-! ## In which order -/

theorem pairwise_childVisits
    {children : List Node}
    (ordered : ∀ child ∈ children, child.visits.Pairwise
      fun first second => first.place < second.place)
    (position : Nat) :
    (childVisits position children).Pairwise
      fun first second => first.place < second.place := by
  induction children generalizing position with
  | nil => exact .nil
  | cons child children ih =>
      rcases List.forall_mem_cons.mp ordered with ⟨inside, others⟩
      rw [childVisits, List.pairwise_append]
      refine ⟨?_, ih others (position + 1), ?_⟩
      · apply List.pairwise_map.mpr
        apply inside.imp
        intro first second before
        exact List.cons_lt_cons_iff.mpr (Or.inr ⟨rfl, before⟩)
      · intro first member second later
        rcases List.mem_map.mp member with ⟨_, _, rfl⟩
        rcases mem_childVisits.mp later with ⟨index, _, _, _, _, rfl⟩
        exact List.cons_lt_cons_iff.mpr (Or.inl (by omega))

/-- A place is visited before those below it and those further right. -/
theorem pairwise_visits (root : Node) :
    root.visits.Pairwise fun first second => first.place < second.place := by
  induction root using children_induction with
  | step root ordered =>
      rw [visits_eq, List.pairwise_cons]
      constructor
      · intro visit member
        rcases mem_childVisits.mp member with ⟨_, _, _, _, _, rfl⟩
        exact List.nil_lt_cons _ _
      · exact pairwise_childVisits ordered 0

end Node

end Criteria
