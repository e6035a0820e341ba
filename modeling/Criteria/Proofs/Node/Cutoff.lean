import Criteria.Proofs.Node.Prefix

/-!
# Limits that only cut off

A limit decides nothing but where parsing ends early.  Two machines that run
side by side under different limits take the same steps until the narrower
limits refuse one, and what they share of a step is compared where the limits
are read: when a node is counted and when a frame is opened.  So under narrower
limits a text is refused for exceeding one of them, or it is parsed with the
very result that it has under wider limits, be it a tree or an error.  A text
that writes a tree is refused exactly if the tree exceeds the limits.
-/

namespace Criteria

/-- Limits that allow for no more than wider ones. -/
structure Limits.AtMost (limits wider : Limits) : Prop where
  depth : limits.maxDepth ≤ wider.maxDepth
  nodes : limits.maxNodes ≤ wider.maxNodes

/-- The error of exceeding one of the limits of parsing. -/
inductive Limits.Refuses (limits : Limits) : ConditionError → Prop where
  | depth : Refuses limits (.limitExceeded .nestingDepth limits.maxDepth)
  | nodes : Refuses limits (.limitExceeded .nodeCount limits.maxNodes)

/--
A result under some limits that is the error of exceeding one of them, or else
the result under other limits.
-/
def CutsOff {α : Type} (limits : Limits)
    (narrow wide : Except ConditionError α) : Prop :=
  (∃ error, narrow = .error error ∧ limits.Refuses error) ∨ narrow = wide

namespace CutsOff

variable {α β : Type} {limits wider : Limits}

theorem same (result : Except ConditionError α) :
    CutsOff limits result result :=
  Or.inr rfl

/-- Two runs that share their first part share the rest as well. -/
theorem bind
    {narrow wide : Except ConditionError α}
    (first : CutsOff limits narrow wide)
    {next other : α → Except ConditionError β}
    (later : ∀ value, narrow = .ok value →
      CutsOff limits (next value) (other value)) :
    CutsOff limits (narrow >>= next) (wide >>= other) := by
  rcases first with ⟨error, rfl, refuses⟩ | rfl
  · exact Or.inl ⟨error, rfl, refuses⟩
  · cases narrow with
    | error error => exact same (.error error)
    | ok value => exact later value rfl

end CutsOff

namespace Parser

variable {limits wider : Limits}

section

variable (within : limits.AtMost wider)

include within

/-! ## Where the limits are read -/

theorem cutsOff_countNode (builder : Builder) :
    CutsOff limits (builder.countNode limits) (builder.countNode wider) := by
  unfold Builder.countNode
  split
  · exact Or.inl ⟨_, rfl, .nodes⟩
  · rename_i room
    have more : ¬ builder.nodes + 1 > wider.maxNodes :=
      fun full => room (Nat.lt_of_le_of_lt within.nodes full)
    rw [if_neg more]
    exact .same _

theorem cutsOff_openFrame (builder : Builder) (frame : Frame) :
    CutsOff limits (builder.openFrame limits frame)
      (builder.openFrame wider frame) := by
  unfold Builder.openFrame
  split
  · exact Or.inl ⟨_, rfl, .depth⟩
  · rename_i room
    have more : ¬ builder.frames.length + 1 > wider.maxDepth :=
      fun full => room (Nat.lt_of_le_of_lt within.depth full)
    rw [if_neg more]
    exact .same _

/-! ## Steps and runs -/

theorem cutsOff_takeLiteral (builder : Builder) :
    CutsOff limits (takeLiteral limits builder)
      (takeLiteral wider builder) := by
  refine (CutsOff.same (builder.take .literal)).bind fun taken _ => ?_
  cases token : taken.1.token with
  | literal value =>
      simp only [token]
      exact (cutsOff_countNode within taken.2).bind fun _ _ => .same _
  | _ =>
      simp only [token]
      exact .same _

theorem cutsOff_startArray (builder : Builder) :
    CutsOff limits (startArray limits builder) (startArray wider builder) := by
  refine (CutsOff.same (builder.expect .bracketOpen)).bind fun opened _ => ?_
  refine (cutsOff_countNode within opened.2).bind fun counted _ => ?_
  exact (cutsOff_openFrame within counted _).bind fun _ _ => .same _

theorem cutsOff_startFunction (builder : Builder) :
    CutsOff limits (startFunction limits builder)
      (startFunction wider builder) := by
  refine (CutsOff.same (builder.expect .braceOpen)).bind fun opened _ => ?_
  refine (CutsOff.same (opened.2.take .functionName)).bind fun named _ => ?_
  refine (CutsOff.same (checkSeparator named.1 none _)).bind fun _ _ => ?_
  split
  · refine (cutsOff_countNode within named.2).bind fun counted _ => ?_
    exact (cutsOff_openFrame within counted _).bind fun _ _ => .same _
  · exact .same _

/-- Only the steps that begin a node read the limits at all. -/
theorem cutsOff_step (state : State) (builder : Builder) :
    CutsOff limits (step limits state builder) (step wider state builder) := by
  cases state with
  | literal => exact cutsOff_takeLiteral within builder
  | arrayStart => exact cutsOff_startArray within builder
  | functionStart => exact cutsOff_startFunction within builder
  | expression => exact .same _
  | arrayValue => exact .same _
  | arrayEnd => exact .same _
  | functionValue => exact .same _
  | functionEnd => exact .same _

end

/-- How a run goes on after its first step. -/
def goOn (limits : Limits) :
    Option State × Builder → Except ConditionError Builder
  | (none, after) => .ok after
  | (some next, after) => run limits next after

theorem run_eq (limits : Limits) (state : State) (builder : Builder) :
    run limits state builder = step limits state builder >>= goOn limits := by
  rw [run]
  split <;> rename_i stepped <;> rw [stepped] <;> rfl

/--
Machines under different limits run alike until one is refused a step.  A run
ends with the error of its last step, so a refusal is passed on unchanged.
-/
theorem cutsOff_run
    (within : limits.AtMost wider) (state : State) (builder : Builder) :
    CutsOff limits (run limits state builder) (run wider state builder) := by
  rw [run_eq limits, run_eq wider]
  refine (cutsOff_step within state builder).bind fun stepped happened => ?_
  -- A step that both machines take leaves both in the same state.
  rcases stepped with ⟨_ | next, after⟩
  · exact .same (.ok after)
  · exact cutsOff_run within next after
termination_by stepsLeft state builder
decreasing_by exact step_decreases happened

end Parser

/-! ## Texts -/

/-- What comes before the machine, the lexer, does not know of limits. -/
theorem cutsOff_parse
    {limits wider : Limits} (within : limits.AtMost wider) (text : String) :
    CutsOff limits (parse limits text) (parse wider text) := by
  refine (CutsOff.same (lex text)).bind fun stream _ => ?_
  refine (Parser.cutsOff_run within .expression _).bind fun built _ => ?_
  exact .same (Parser.finish built stream.trailing)

/-- A text of a tree is parsed under limits that allow for the tree as well. -/
theorem parse_of_isText
    (limits : Limits) {text : String} {node : Node}
    (isText : node.document.IsText text.toList) :
    ∃ wider, limits.AtMost wider ∧ parse wider text = .ok node := by
  refine ⟨
    ⟨max limits.maxDepth node.nesting, max limits.maxNodes node.nodeCount⟩,
    ⟨Nat.le_max_left .., Nat.le_max_left ..⟩, ?_⟩
  exact parse_eq_ok_iff.mpr
    ⟨isText, Nat.le_max_right .., Nat.le_max_right ..⟩

/--
A text of a tree is refused for a limit, unless the tree is within limits.
-/
theorem parse_refused_of_isText
    {limits : Limits} {text : String} {node : Node}
    (isText : node.document.IsText text.toList)
    (beyond : ¬ Parser.Within limits node) :
    ∃ error, parse limits text = .error error ∧ limits.Refuses error := by
  rcases parse_of_isText limits isText with ⟨wider, within, parsed⟩
  rcases cutsOff_parse within text with refused | same
  · exact refused
  · have accepted := same.trans parsed
    exact absurd (parse_eq_ok_iff.mp accepted).2 beyond

/--
Narrower limits only cut off: a text is refused for exceeding one of them, or
its result, tree or error, is the one under wider limits.  A text that writes a
tree is refused for a limit exactly if the arrays and functions of the tree
nest deeper than the limits allow or its nodes are too many.
-/
theorem parse_limits_only_cut_off
    (limits wider : Limits) (within : limits.AtMost wider) (text : String) :
    ((∃ error, parse limits text = .error error ∧ limits.Refuses error) ∨
      parse limits text = parse wider text) ∧
    ∀ node : Node, node.document.IsText text.toList →
      ((∃ limit maximum,
          parse limits text = .error (.limitExceeded limit maximum)) ↔
        limits.maxDepth < node.nesting ∨
          limits.maxNodes < node.nodeCount) := by
  refine ⟨cutsOff_parse within text, fun node isText => ?_⟩
  constructor
  · rintro ⟨limit, maximum, refused⟩
    by_contra fits
    rcases not_or.mp fits with ⟨shallow, small⟩
    have accepted : parse limits text = .ok node :=
      parse_eq_ok_iff.mpr
        ⟨isText, Nat.le_of_not_lt shallow, Nat.le_of_not_lt small⟩
    rw [refused] at accepted
    cases accepted
  · intro exceeds
    have beyond : ¬ Parser.Within limits node := by
      rintro ⟨shallow, small⟩
      rcases exceeds with deep | large
      · exact absurd shallow (Nat.not_le_of_lt deep)
      · exact absurd small (Nat.not_le_of_lt large)
    rcases parse_refused_of_isText isText beyond with ⟨_, refused, reason⟩
    cases reason with
    | depth => exact ⟨_, _, refused⟩
    | nodes => exact ⟨_, _, refused⟩

/--
An array within an array is refused at a depth of one, although its two nodes
are few enough.
-/
theorem parse_limits_only_cut_off_nested :
    (Limits.mk 1 2).AtMost ⟨2, 9⟩ ∧
    (Node.array [.array []]).document.IsText "[[]]".toList ∧
    ∃ limit maximum,
      parse ⟨1, 2⟩ "[[]]" = .error (.limitExceeded limit maximum) := by
  have within : (Limits.mk 1 2).AtMost ⟨2, 9⟩ := ⟨by decide, by decide⟩
  have inner : (Document.array []).IsText "[]".toList :=
    .padded Token.isBlanks_nil (.emptyArray Token.isBlanks_nil)
      Token.isBlanks_nil
  have isText : (Node.array [.array []]).document.IsText "[[]]".toList :=
    .padded Token.isBlanks_nil (.array (.last inner)) Token.isBlanks_nil
  refine ⟨within, isText, ?_⟩
  refine ((parse_limits_only_cut_off ⟨1, 2⟩ ⟨2, 9⟩ within "[[]]").2
    (.array [.array []]) isText).mpr (.inl ?_)
  decide

end Criteria
