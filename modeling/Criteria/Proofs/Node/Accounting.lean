import Criteria.Proofs.Node.Completion

/-!
# Nodes and nesting within the limits

The machine counts nodes and watches the height of its stack.  The count is
the number of nodes in the open frames, and what is attached to a frame nests
no deeper than the limit leaves it room; so a finished tree is within the
limits, and a limit that is exceeded before the end is exceeded by every tree
that the marks go on to complete.
-/

namespace Criteria.Parser

open Node (totalCount greatestNesting)

/-! ## Open frames -/

/-- The nodes that are attached to a frame. -/
def Frame.attached : Frame → List Node
  | .array elements => elements
  | .function _ argument => argument.toList

/-- The number of nodes in open frames, the frames themselves included. -/
def frameCount : List Frame → Nat
  | [] => 0
  | frame :: frames => totalCount frame.attached + 1 + frameCount frames

/-- What is attached to open frames nests no deeper than a limit allows. -/
def Shallow (maxDepth : Nat) : List Frame → Prop
  | [] => True
  | frame :: frames =>
      greatestNesting frame.attached + 1 + frames.length ≤ maxDepth ∧
        Shallow maxDepth frames

theorem totalCount_append (front back : List Node) :
    totalCount (front ++ back) = totalCount front + totalCount back := by
  induction front with
  | nil => simp [totalCount]
  | cons node front ih => simp [totalCount, ih, Nat.add_assoc]

theorem totalCount_reverse (nodes : List Node) :
    totalCount nodes.reverse = totalCount nodes := by
  induction nodes with
  | nil => rfl
  | cons node nodes ih =>
      simp [totalCount, totalCount_append, ih, Nat.add_comm]

theorem greatestNesting_append (front back : List Node) :
    greatestNesting (front ++ back) =
      max (greatestNesting front) (greatestNesting back) := by
  induction front with
  | nil => simp [greatestNesting]
  | cons node front ih => simp [greatestNesting, ih, Nat.max_assoc]

theorem greatestNesting_reverse (nodes : List Node) :
    greatestNesting nodes.reverse = greatestNesting nodes := by
  induction nodes with
  | nil => rfl
  | cons node nodes ih =>
      simp [greatestNesting, greatestNesting_append, ih, Nat.max_comm]

/-- A tree holds the nodes of the frames that it completes. -/
theorem Closes.nodeCount_le
    {frames : List Frame} {node root : Node} {marks : List Mark}
    (closes : Closes frames node marks root) (unfilled : Unfilled frames) :
    frameCount frames + node.nodeCount ≤ root.nodeCount := by
  induction frames generalizing node marks with
  | nil =>
      rcases closes with ⟨_, rfl⟩
      simp [frameCount]
  | cons frame frames ih =>
      cases frame with
      | array elements =>
          rcases closes with ⟨others, rest, _, closes⟩
          have outer := ih closes (unfilled_cons_array.mp unfilled)
          simp only [Node.nodeCount, totalCount_append, totalCount_reverse,
            totalCount] at outer
          simp only [frameCount, Frame.attached]
          omega
      | function name argument =>
          rcases closes with ⟨rest, _, closes⟩
          rcases unfilled_cons_function.mp unfilled with ⟨rfl, below⟩
          have outer := ih closes below
          simp only [Node.nodeCount] at outer
          simp only [frameCount, Frame.attached, Option.toList_none, totalCount]
          omega

/--
A tree nests as deep as the stack is high and the attached node is nested.
-/
theorem Closes.nesting_le
    {frames : List Frame} {node root : Node} {marks : List Mark}
    (closes : Closes frames node marks root) :
    frames.length + node.nesting ≤ root.nesting := by
  induction frames generalizing node marks with
  | nil =>
      rcases closes with ⟨_, rfl⟩
      simp
  | cons frame frames ih =>
      cases frame with
      | array elements =>
          rcases closes with ⟨others, rest, _, closes⟩
          have outer := ih closes
          simp only [Node.nesting, greatestNesting_append,
            greatestNesting] at outer
          simp only [List.length_cons]
          omega
      | function name argument =>
          rcases closes with ⟨rest, _, closes⟩
          have outer := ih closes
          simp only [Node.nesting] at outer
          simp only [List.length_cons]
          omega

/-! ## The books of the machine -/

/-- A tree is within limits. -/
def Within (limits : Limits) (root : Node) : Prop :=
  root.nesting ≤ limits.maxDepth ∧ root.nodeCount ≤ limits.maxNodes

/--
The count of nodes is right, and neither it nor the stack exceeds a limit.
-/
structure Accounts (limits : Limits) (builder : Builder) : Prop where
  count : builder.nodes = frameCount builder.frames
  nodeRoom : builder.nodes ≤ limits.maxNodes
  shallow : Shallow limits.maxDepth builder.frames

/--
The books after a step: those of the open frames, or the finished root within
the limits.
-/
def AccountsNext (limits : Limits) : Option State → Builder → Prop
  | some _, after => Accounts limits after
  | none, after =>
      ∀ root ∈ after.root, root.nodeCount = after.nodes ∧ Within limits root

section

variable {limits : Limits}

theorem Shallow.length_le
    {maxDepth : Nat} {frames : List Frame} (shallow : Shallow maxDepth frames) :
    frames.length ≤ maxDepth := by
  cases frames with
  | nil => exact Nat.zero_le _
  | cons frame frames =>
      have room := shallow.1
      rw [List.length_cons]
      omega

/-- Attaching a finished node keeps the books. -/
theorem accountsNext_complete
    (remaining : List Lexeme) {frames : List Frame} (before : Option Node)
    {nodes : Nat}
    {node : Node}
    (unfilled : Unfilled frames)
    (count : nodes = frameCount frames + node.nodeCount)
    (nodeRoom : nodes ≤ limits.maxNodes)
    (shallow : Shallow limits.maxDepth frames)
    (depthRoom : frames.length + node.nesting ≤ limits.maxDepth) :
    AccountsNext limits
      (Builder.complete ⟨remaining, frames, before, nodes⟩ node).1
      (Builder.complete ⟨remaining, frames, before, nodes⟩ node).2 := by
  cases frames with
  | nil =>
      intro root isRoot
      cases isRoot
      simp only [frameCount, List.length_nil] at count depthRoom
      refine ⟨?_, ?_, ?_⟩
      · simp only [Builder.complete]
        omega
      · omega
      · omega
  | cons frame frames =>
      cases frame with
      | array elements =>
          simp only [frameCount, Frame.attached,
            List.length_cons] at count depthRoom
          rcases shallow with ⟨room, below⟩
          simp only [Frame.attached] at room
          refine ⟨?_, nodeRoom, ?_, below⟩
          · simp only [Builder.complete, frameCount, Frame.attached, totalCount]
            omega
          · simp only [Frame.attached, greatestNesting]
            omega
      | function name argument =>
          rcases unfilled_cons_function.mp unfilled with ⟨rfl, unfilledBelow⟩
          simp only [frameCount, Frame.attached, Option.toList_none, totalCount,
            List.length_cons] at count depthRoom
          refine ⟨?_, nodeRoom, ?_, shallow.2⟩
          · simp only [Builder.complete, frameCount, Frame.attached,
              Option.toList_some, totalCount]
            omega
          · simp only [Frame.attached, Option.toList_some, greatestNesting]
            omega

/-- Every move keeps the books. -/
theorem Moves.accounts
    {state : State} {next : Option State} {builder after : Builder}
    (moves : Moves limits state builder next after)
    (suits : Suits state builder.frames)
    (accounts : Accounts limits builder) :
    AccountsNext limits next after := by
  rcases accounts with ⟨count, room, shallow⟩
  cases moves with
  | value => exact ⟨count, room, shallow⟩
  | lastElement => exact ⟨count, room, shallow⟩
  | literal token nodeRoom =>
      have height := shallow.length_le
      simp only at count
      apply accountsNext_complete _ _ suits _ nodeRoom shallow
      · simpa only [Node.nesting, Nat.add_zero] using height
      · rw [count, Node.nodeCount_literal]
  | openArray token nodeRoom depthRoom =>
      simp only at count
      refine ⟨?_, nodeRoom, ?_, shallow⟩
      · simp only [frameCount, Frame.attached, totalCount]
        omega
      · simp only [Frame.attached, greatestNesting]
        omega
  | closeArray token separated =>
      rcases suits with ⟨unfilled, _⟩
      rcases shallow with ⟨depthRoom, below⟩
      simp only [frameCount, Frame.attached] at count depthRoom
      apply accountsNext_complete _ _ (unfilled_cons_array.mp unfilled)
        _ room below
      · simp only [Node.nesting, greatestNesting_reverse]
        omega
      · simp only [Node.nodeCount, totalCount_reverse]
        omega
  | openFunction opening separated token nodeRoom depthRoom =>
      simp only at count
      refine ⟨?_, nodeRoom, ?_, shallow⟩
      · simp only [frameCount, Frame.attached, Option.toList_none, totalCount]
        omega
      · simp only [Frame.attached, Option.toList_none, greatestNesting]
        omega
  | closeFunction token separated =>
      rcases suits with ⟨_, _, _, top, unfilled⟩
      cases top
      rcases shallow with ⟨depthRoom, below⟩
      simp only [frameCount, Frame.attached, Option.toList_some, totalCount,
        greatestNesting] at count depthRoom
      apply accountsNext_complete _ _ unfilled _ room below
      · simp only [Node.nesting]
        omega
      · simp only [Node.nodeCount]
        omega

/--
A node that is about to be read is part of every tree that the marks go on to
complete.
-/
theorem exists_closes_of_awaits
    {state : State} {frames : List Frame} {marks : List Mark} {root : Node}
    (awaits : Awaits state frames marks root)
    (begins : state.beginsNode = true) :
    ∃ node rest, Closes frames node rest root ∧
      (state.opensFrame = true → 0 < node.nesting) := by
  cases state with
  | literal =>
      rcases awaits with ⟨separator, value, rest, _, closes⟩
      exact ⟨_, rest, closes, fun opens => by cases opens⟩
  | arrayStart =>
      rcases awaits with ⟨separator, elements, rest, _, closes⟩
      exact ⟨_, rest, closes, fun _ => by simp [Node.nesting]⟩
  | functionStart =>
      rcases awaits with ⟨separator, name, argument, rest, _, closes⟩
      exact ⟨_, rest, closes, fun _ => by simp [Node.nesting]⟩
  | expression => cases begins
  | arrayValue => cases begins
  | arrayEnd => cases begins
  | functionValue => cases begins
  | functionEnd => cases begins

theorem unfilled_of_beginsNode
    {state : State} {frames : List Frame}
    (suits : Suits state frames) (begins : state.beginsNode = true) :
    Unfilled frames := by
  cases state with
  | literal => exact suits
  | arrayStart => exact suits
  | functionStart => exact suits
  | expression => cases begins
  | arrayValue => cases begins
  | arrayEnd => cases begins
  | functionValue => cases begins
  | functionEnd => cases begins

/-- Where a limit is exceeded, no tree within the limits can be completed. -/
theorem Fails.not_within
    {state : State} {builder : Builder} {limit : Limit} {maximum : Nat}
    {marks : List Mark}
    {root : Node}
    (fails : Fails limits state builder (.limitExceeded limit maximum))
    (suits : Suits state builder.frames)
    (accounts : Accounts limits builder)
    (awaits : Awaits state builder.frames marks root) :
    ¬ Within limits root := by
  rintro ⟨nesting, nodeCount⟩
  cases fails with
  | nodes begins nonempty full =>
      rcases exists_closes_of_awaits awaits begins with ⟨node, rest, closes, _⟩
      have held := closes.nodeCount_le (unfilled_of_beginsNode suits begins)
      have positive := node.nodeCount_pos
      have count := accounts.count
      omega
  | depth opens nonempty full =>
      have begins : state.beginsNode = true := by
        cases state <;> first | rfl | cases opens
      rcases exists_closes_of_awaits awaits begins with
          ⟨node, rest, closes, nested⟩
      have held := closes.nesting_le
      have positive := nested opens
      omega

end

end Criteria.Parser
