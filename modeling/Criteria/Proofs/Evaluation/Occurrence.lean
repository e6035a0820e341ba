import Criteria.Proofs.Evaluation.Calls

/-!
# The calls of a tree in post-order

A call may occur at several places of a tree.  A place is the list of positions
that lead down to it from the root.  In post-order a call comes after those in
its argument, and these come from left to right; `occurrences` lists the calls
of a tree under certain names in this order, each with its place, so that no
two of them are the same even if the calls are.
-/

namespace Criteria

/-- A call at a place of a tree. -/
structure Occurrence where
  place : List Nat
  call : Call

/-- What is an occurrence in a child is one in the parent, further down. -/
def Occurrence.down (position : Nat) (occurrence : Occurrence) : Occurrence :=
  ⟨position :: occurrence.place, occurrence.call⟩

/--
The post-order of places: one comes before another if it lies below it, or
further to the left from where they part.
-/
inductive Precedes : List Nat → List Nat → Prop where
  | beneath {position : Nat} {rest : List Nat} :
      Precedes (position :: rest) []
  | left {position other : Nat} {rest others : List Nat}
      (lower : position < other) :
      Precedes (position :: rest) (other :: others)
  | along {position : Nat} {rest others : List Nat}
      (precedes : Precedes rest others) :
      Precedes (position :: rest) (position :: others)

theorem Precedes.ne
    {place other : List Nat} (precedes : Precedes place other) :
    place ≠ other := by
  induction precedes with
  | beneath => exact List.cons_ne_nil _ _
  | left lower => exact fun same => Nat.ne_of_lt lower (List.cons.inj same).1
  | along _ ih => exact fun same => ih (List.cons.inj same).2

namespace Node

/-- The node at a place of a tree. -/
def at? : Node → List Nat → Option Node
  | node, [] => some node
  | node, position :: rest =>
      node.children[position]?.bind fun child => child.at? rest

mutual

/-- The calls under names that are chosen, in post-order. -/
def occurrences (chosen : String → Bool) : Node → List Occurrence
  | .literal _ => []
  | .array elements => elementOccurrences chosen 0 elements
  | .function name argument =>
      (occurrences chosen argument).map (Occurrence.down 0) ++
        if chosen name then [⟨[], ⟨name, argument⟩⟩] else []

/-- The calls in children from a position on. -/
def elementOccurrences (chosen : String → Bool) (position : Nat) :
    List Node → List Occurrence
  | [] => []
  | node :: nodes =>
      (occurrences chosen node).map (Occurrence.down position) ++
        elementOccurrences chosen (position + 1) nodes

end

section

variable {chosen : String → Bool}

/-! ## Each call once -/

theorem mem_elementOccurrences
    {position : Nat} {nodes : List Node} {occurrence : Occurrence} :
    occurrence ∈ elementOccurrences chosen position nodes ↔
      ∃ (index : Nat) (node : Node) (inner : Occurrence),
        nodes[index]? = some node ∧ inner ∈ node.occurrences chosen ∧
          inner.down (position + index) = occurrence := by
  induction nodes generalizing position with
  | nil => simp [elementOccurrences]
  | cons node nodes ih =>
      rw [elementOccurrences, List.mem_append, List.mem_map, ih]
      constructor
      · rintro (⟨inner, member, rfl⟩ |
          ⟨index, other, inner, found, member, rfl⟩)
        · exact ⟨0, node, inner, rfl, member, rfl⟩
        · refine ⟨index + 1, other, inner, found, member, ?_⟩
          rw [Nat.add_assoc, Nat.add_comm 1 index]
      · rintro ⟨_ | index, other, inner, found, member, rfl⟩
        · cases found
          exact Or.inl ⟨inner, member, rfl⟩
        · refine Or.inr ⟨index, other, inner, found, member, ?_⟩
          rw [Nat.add_assoc, Nat.add_comm 1 index]

theorem mem_occurrences_function
    {name : String} {argument : Node} {occurrence : Occurrence} :
    occurrence ∈ (function name argument).occurrences chosen ↔
      (∃ inner ∈ argument.occurrences chosen, inner.down 0 = occurrence) ∨
        chosen name = true ∧ occurrence = ⟨[], ⟨name, argument⟩⟩ := by
  rw [occurrences, List.mem_append, List.mem_map]
  refine or_congr_right ?_
  cases chosen name <;> simp

/-- What occurs at the root is the function that stands there. -/
theorem mem_occurrences_root {node : Node} {call : Call} :
    ⟨[], call⟩ ∈ node.occurrences chosen ↔
      chosen call.name = true ∧ node = .function call.name call.argument := by
  cases node with
  | literal => simp [occurrences]
  | array elements =>
      simp [occurrences, mem_elementOccurrences, Occurrence.down]
  | function name argument =>
      rw [mem_occurrences_function]
      constructor
      · rintro (⟨inner, _, same⟩ | ⟨picked, same⟩)
        · cases same
        · cases same
          exact ⟨picked, rfl⟩
      · rintro ⟨picked, same⟩
        cases same
        exact Or.inr ⟨picked, rfl⟩

/-- What occurs further down occurs in the child that stands on the way. -/
theorem mem_occurrences_down
    {node : Node} {position : Nat} {rest : List Nat} {call : Call} :
    ⟨position :: rest, call⟩ ∈ node.occurrences chosen ↔
      ∃ child, node.children[position]? = some child ∧
        ⟨rest, call⟩ ∈ child.occurrences chosen := by
  cases node with
  | literal => simp [occurrences, children]
  | array elements =>
      rw [occurrences, mem_elementOccurrences]
      constructor
      · rintro ⟨index, child, inner, found, member, same⟩
        rw [Nat.zero_add] at same
        cases same
        exact ⟨child, found, member⟩
      · rintro ⟨child, found, member⟩
        refine ⟨position, child, ⟨rest, call⟩, found, member, ?_⟩
        rw [Nat.zero_add]
        rfl
  | function name argument =>
      rw [mem_occurrences_function]
      constructor
      · rintro (⟨inner, member, same⟩ | ⟨_, same⟩)
        · cases same
          exact ⟨argument, rfl, member⟩
        · cases same
      · rintro ⟨child, found, member⟩
        rcases position with _ | position
        · cases found
          exact Or.inl ⟨⟨rest, call⟩, member, rfl⟩
        · cases found

/-- What occurs is what stands at the place, if its name is chosen. -/
theorem mem_occurrences
    {node : Node} {place : List Nat} {call : Call} :
    ⟨place, call⟩ ∈ node.occurrences chosen ↔
      chosen call.name = true ∧
        node.at? place = some (.function call.name call.argument) := by
  induction place generalizing node with
  | nil => rw [mem_occurrences_root, at?, Option.some.injEq]
  | cons position rest ih =>
      simp only [mem_occurrences_down, ih, at?, Option.bind_eq_some_iff]
      constructor
      · rintro ⟨child, found, picked, stands⟩
        exact ⟨picked, child, found, stands⟩
      · rintro ⟨picked, child, found, stands⟩
        exact ⟨child, found, picked, stands⟩

/-! ## In post-order -/

/-- The order of occurrences in a child is their order in the parent. -/
theorem pairwise_down
    {occurrences : List Occurrence}
    (ordered : occurrences.Pairwise
      fun first second => Precedes first.place second.place)
    (position : Nat) :
    (occurrences.map (Occurrence.down position)).Pairwise
      fun first second => Precedes first.place second.place :=
  List.pairwise_map.mpr (ordered.imp fun precedes => .along precedes)

mutual

theorem pairwise_occurrences :
    (node : Node) → (node.occurrences chosen).Pairwise
      fun first second => Precedes first.place second.place
  | .literal _ => .nil
  | .array elements => pairwise_elementOccurrences 0 elements
  | .function name argument => by
      have inner := pairwise_down (pairwise_occurrences argument) 0
      rw [occurrences, List.pairwise_append]
      refine ⟨inner, ?_, ?_⟩
      · split
        · exact List.pairwise_singleton _ _
        · exact .nil
      · intro first member second own
        rcases List.mem_map.mp member with ⟨below, _, rfl⟩
        have root : second.place = [] := by
          split at own
          · rw [List.mem_singleton.mp own]
          · cases own
        rw [root]
        exact .beneath

theorem pairwise_elementOccurrences (position : Nat) :
    (nodes : List Node) → (elementOccurrences chosen position nodes).Pairwise
      fun first second => Precedes first.place second.place
  | [] => .nil
  | node :: nodes => by
      rw [elementOccurrences, List.pairwise_append]
      refine ⟨pairwise_down (pairwise_occurrences node) position,
        pairwise_elementOccurrences (position + 1) nodes, ?_⟩
      intro first member second later
      rcases List.mem_map.mp member with ⟨_, _, rfl⟩
      rcases mem_elementOccurrences.mp later with ⟨index, _, _, _, _, rfl⟩
      exact .left (by omega)

end

/-- No two occurrences are at one place. -/
theorem nodup_places (node : Node) :
    ((node.occurrences chosen).map Occurrence.place).Nodup :=
  List.pairwise_map.mpr ((pairwise_occurrences node).imp Precedes.ne)

/-! ## The calls alone -/

/-- The calls under names that are chosen, in post-order. -/
def chosenCalls (chosen : String → Bool) (node : Node) : List Call :=
  (node.occurrences chosen).map Occurrence.call

/-- Where a child stands makes no difference to the calls in it. -/
theorem map_call_down (position : Nat) (occurrences : List Occurrence) :
    (occurrences.map (Occurrence.down position)).map Occurrence.call =
      occurrences.map Occurrence.call := by
  rw [List.map_map]
  rfl

theorem map_call_elementOccurrences (position : Nat) (nodes : List Node) :
    (elementOccurrences chosen position nodes).map Occurrence.call =
      nodes.flatMap (chosenCalls chosen) := by
  induction nodes generalizing position with
  | nil => rfl
  | cons node nodes ih =>
      rw [elementOccurrences, List.map_append, map_call_down, ih,
        List.flatMap_cons, chosenCalls]

theorem chosenCalls_array (elements : List Node) :
    (array elements).chosenCalls chosen =
      elements.flatMap (chosenCalls chosen) :=
  map_call_elementOccurrences 0 elements

theorem chosenCalls_function (name : String) (argument : Node) :
    (function name argument).chosenCalls chosen =
      argument.chosenCalls chosen ++
        if chosen name then [⟨name, argument⟩] else [] := by
  rw [chosenCalls, occurrences, List.map_append, map_call_down, chosenCalls]
  cases chosen name <;> rfl

end

end Node

end Criteria
