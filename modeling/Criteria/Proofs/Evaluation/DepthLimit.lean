import Criteria.Proofs.Evaluation.Bindings
import Criteria.Proofs.Evaluation.CutShort

/-!
# The nesting limit of an evaluation

The evaluator counts down the levels that are left.  One may also count up, in
a cell that is raised around every array and function and put back afterwards,
be it with a value or with an error.  `Counts` describes evaluations with such a
cell; they come to the same as those that count down, and every operand of a
node is begun and left with the cell at one more than the node itself was begun
with, whatever was evaluated before it.

Either way a narrower limit only cuts evaluations off.
-/

namespace Criteria

namespace Evaluator

/--
A node that can be evaluated one level down comes to the outcome of its plan,
within its name.
-/
theorem Follows.runWithin_eq
    {evaluator : Evaluator} {node : Node} {plan : Plan}
    (follows : evaluator.Follows node plan) (levels : Nat)
    (session : Session) :
    evaluator.runWithin (levels + 1) session node =
      Prod.map (Except.mapError (.inside node)) id
        ((plan.run (evaluator.scope levels)).runFrom session) := by
  cases follows with
  | array elements =>
      rw [runWithin, evaluateWithin_array]
      refine Prod.ext ?_ rfl
      exact (ConditionError.mapError_inside_array elements _).symm
  | @function name builtin found argument =>
      have planned : evaluator.evaluateWithin (levels + 1)
          (.function name argument) =
            ((builtin.plan argument).run (evaluator.scope levels)).within
              name := evaluateWithin_function found levels argument
      rw [runWithin, planned, Evaluation.runFrom_within]
      rcases ((builtin.plan argument).run (evaluator.scope levels)).runFrom
        session with ⟨outcome, after⟩
      cases outcome <;> rfl

end Evaluator

/-! ## A cell that counts up -/

/-- The reading of the cell, and the session. -/
structure Meter where
  depth : Nat
  session : Session

/-- An operand that is evaluated: how it is begun and what it comes to. -/
structure Visit where
  node : Node
  before : Meter
  outcome : Except ConditionError Json
  after : Meter

namespace Evaluator

mutual

/--
The evaluation of a node with a cell that is raised around arrays and functions,
and the operands that the node has evaluated one after the other.  What the
cell read before is remembered and put back, whatever the outcome.
-/
inductive Counts (evaluator : Evaluator) :
    Meter → Node → List Visit → Except ConditionError Json → Meter → Prop where
  | literal {meter : Meter} (value : Literal) :
      Counts evaluator meter (.literal value) [] (.ok value.toJson) meter
  | tooDeep {meter : Meter} {node : Node} (nested : 0 < node.nesting)
      (full : evaluator.maxDepth < meter.depth + 1) :
      Counts evaluator meter node []
        (.error (.limitExceeded .evaluationDepth evaluator.maxDepth)) meter
  | unbound {meter : Meter} {name : String} {argument : Node}
      (room : meter.depth + 1 ≤ evaluator.maxDepth)
      (unbound : evaluator.registry.find? name = none) :
      Counts evaluator meter (.function name argument) []
        (.error (.unknownFunction name)) meter
  | follows {meter after : Meter} {node : Node} {plan : Plan}
      {visits : List Visit} {outcome : Except ConditionError Json}
      (room : meter.depth + 1 ≤ evaluator.maxDepth)
      (follows : evaluator.Follows node plan)
      (counts : CountsPlan evaluator ⟨meter.depth + 1, meter.session⟩ plan
        visits outcome after) :
      Counts evaluator meter node visits (outcome.mapError (.inside node))
        ⟨meter.depth, after.session⟩

/--
The evaluation of a plan, which leaves the cell to the operands and goes on
from how they leave it.
-/
inductive CountsPlan (evaluator : Evaluator) :
    Meter → Plan → List Visit → Except ConditionError Json → Meter → Prop where
  | finish {meter : Meter} (outcome : Except ConditionError Json) :
      CountsPlan evaluator meter (.finish outcome) [] outcome meter
  | lookup {meter : Meter} {path : List Json} {session : Session}
      {outcome : Except ConditionError (Option Json)}
      (found : (Evaluation.lookupContext path).runFrom meter.session =
        (outcome, session)) :
      CountsPlan evaluator meter (.lookup path) []
        (outcome.map fun value => value.getD .null) ⟨meter.depth, session⟩
  | answered {meter between after : Meter} {node : Node}
      {next : Json → Plan} {value : Json} {inner visits : List Visit}
      {outcome : Except ConditionError Json}
      (first : Counts evaluator meter node inner (.ok value) between)
      (rest : CountsPlan evaluator between (next value) visits outcome after) :
      CountsPlan evaluator meter (.operand node next)
        (⟨node, meter, .ok value, between⟩ :: visits) outcome after
  | failed {meter after : Meter} {node : Node} {next : Json → Plan}
      {error : ConditionError} {inner : List Visit}
      (first : Counts evaluator meter node inner (.error error) after) :
      CountsPlan evaluator meter (.operand node next)
        [⟨node, meter, .error error, after⟩] (.error error) after

end

/--
What a node comes to when the levels left are those above the reading of the
cell, which stays what it was.
-/
def runAt (evaluator : Evaluator) (meter : Meter) (node : Node) :
    Except ConditionError Json × Meter :=
  Prod.map id (Meter.mk meter.depth)
    (evaluator.runWithin (evaluator.maxDepth - meter.depth) meter.session node)

/--
An operand that is begun at a reading of the cell, and that comes to what it
does there whatever came before it.
-/
def Visited (evaluator : Evaluator) (depth : Nat) (visit : Visit) : Prop :=
  visit.before.depth = depth ∧
    evaluator.runAt visit.before visit.node = (visit.outcome, visit.after)

section

variable {evaluator : Evaluator} {depth levels : Nat}

theorem depth_of_runAt
    {meter after : Meter} {node : Node} {outcome : Except ConditionError Json}
    (ran : evaluator.runAt meter node = (outcome, after)) :
    after.depth = meter.depth :=
  (congrArg (fun result => result.2.depth) ran).symm

theorem runFrom_scope_of_runAt
    (left : evaluator.maxDepth - depth = levels)
    {meter after : Meter} {node : Node} {outcome : Except ConditionError Json}
    (reads : meter.depth = depth)
    (ran : evaluator.runAt meter node = (outcome, after)) :
    ((evaluator.scope levels).evaluate node).runFrom meter.session =
      (outcome, after.session) := by
  subst reads left
  exact congrArg (Prod.map id Meter.session) ran

/--
Operands that come to the same whichever way levels are counted make plans come
to the same, and every operand is begun with the cell at one reading.
-/
theorem CountsPlan.runFrom_eq
    (left : evaluator.maxDepth - depth = levels)
    (operands : ∀ {meter node visits outcome after}, meter.depth = depth →
      evaluator.Counts meter node visits outcome after →
        evaluator.runAt meter node = (outcome, after))
    {meter after : Meter} {plan : Plan} {visits : List Visit}
    {outcome : Except ConditionError Json} (reads : meter.depth = depth)
    (counts : evaluator.CountsPlan meter plan visits outcome after) :
    (plan.run (evaluator.scope levels)).runFrom meter.session =
        (outcome, after.session) ∧
      ∀ visit ∈ visits, evaluator.Visited depth visit := by
  induction plan generalizing meter after visits outcome with
  | finish =>
      cases counts
      exact ⟨rfl, nofun⟩
  | lookup path =>
      cases counts with
      | @lookup _ _ _ outcome found =>
          refine ⟨?_, nofun⟩
          rw [Plan.run, Evaluation.runFrom_bind, found]
          cases outcome <;> rfl
  | operand node next ih =>
      rw [Plan.run, Evaluation.runFrom_bind]
      cases counts with
      | answered first rest =>
          have ran := operands reads first
          have same := (depth_of_runAt ran).trans reads
          rcases ih _ same rest with ⟨later, others⟩
          rw [runFrom_scope_of_runAt left reads ran]
          exact ⟨later, List.forall_mem_cons.mpr ⟨⟨reads, ran⟩, others⟩⟩
      | failed first =>
          have ran := operands reads first
          rw [runFrom_scope_of_runAt left reads ran]
          exact ⟨rfl, List.forall_mem_singleton.mpr ⟨reads, ran⟩⟩

/-! ## Both ways of counting agree -/

theorem runWithin_literal
    (levels : Nat) (session : Session) (value : Literal) :
    evaluator.runWithin levels session (.literal value) =
      (.ok value.toJson, session) := by
  cases levels <;> rfl

theorem runWithin_zero
    {node : Node} (nested : 0 < node.nesting) (session : Session) :
    evaluator.runWithin 0 session node =
      (.error (.limitExceeded .evaluationDepth evaluator.maxDepth),
        session) := by
  cases node with
  | literal => exact absurd nested (Nat.lt_irrefl 0)
  | array => rfl
  | function => rfl

theorem runWithin_unbound
    {name : String} (unbound : evaluator.registry.find? name = none)
    (session : Session) (argument : Node) :
    evaluator.runWithin (levels + 1) session (.function name argument) =
      (.error (.unknownFunction name), session) := by
  rw [runWithin, evaluateWithin, Registry.invoke]
  simp only [unbound]
  rfl

/--
With the cell an evaluation comes to what it does when the levels that are left
are counted, the cell is put back, and the operands of a node are begun one
level further down than the node.
-/
theorem Counts.runAt_eq
    {meter after : Meter} {node : Node} {visits : List Visit}
    {outcome : Except ConditionError Json}
    (counts : evaluator.Counts meter node visits outcome after) :
    evaluator.runAt meter node = (outcome, after) ∧
      ∀ visit ∈ visits, evaluator.Visited (meter.depth + 1) visit := by
  generalize left : evaluator.maxDepth - meter.depth = levels
  induction levels generalizing meter after node visits outcome with
  | zero =>
      cases counts with
      | literal value => exact ⟨by rw [runAt, runWithin_literal]; rfl, nofun⟩
      | tooDeep nested full =>
          refine ⟨?_, nofun⟩
          rw [runAt, left, runWithin_zero nested]
          rfl
      | unbound room => omega
      | follows room => omega
  | succ levels ih =>
      cases counts with
      | literal value => exact ⟨by rw [runAt, runWithin_literal]; rfl, nofun⟩
      | tooDeep nested full => omega
      | unbound room unbound =>
          refine ⟨?_, nofun⟩
          rw [runAt, left, runWithin_unbound unbound]
          rfl
      | follows room follows counts =>
          have below : evaluator.maxDepth - (meter.depth + 1) = levels := by
            omega
          have operands : ∀ {inner node visits outcome after},
              inner.depth = meter.depth + 1 →
              evaluator.Counts inner node visits outcome after →
                evaluator.runAt inner node = (outcome, after) :=
            fun reads counts => (ih counts (reads ▸ below)).1
          rcases counts.runFrom_eq below operands rfl with ⟨ran, visited⟩
          refine ⟨?_, visited⟩
          rw [runAt, left, follows.runWithin_eq, ran]
          rfl

/-- Plans are carried out with the cell if their operands are evaluated so. -/
theorem exists_countsPlan
    {operands : Node → Prop} {paths : List Json → Prop} {plan : Plan}
    (keeps : plan.Keeps operands paths)
    (evaluated : ∀ node, operands node → ∀ meter : Meter,
      meter.depth = depth → ∃ visits outcome after,
        evaluator.Counts meter node visits outcome after)
    {meter : Meter} (reads : meter.depth = depth) :
    ∃ visits outcome after,
      evaluator.CountsPlan meter plan visits outcome after := by
  induction plan generalizing meter with
  | finish outcome => exact ⟨_, _, _, .finish outcome⟩
  | lookup path =>
      rcases found : (Evaluation.lookupContext path).runFrom meter.session with
        ⟨outcome, session⟩
      exact ⟨_, _, _, .lookup found⟩
  | operand node next ih =>
      rcases evaluated node keeps.1 meter reads with
        ⟨inner, outcome, between, first⟩
      cases outcome with
      | error error => exact ⟨_, _, _, .failed first⟩
      | ok value =>
          have same := (depth_of_runAt first.runAt_eq.1).trans reads
          rcases ih value (keeps.2 value) same with
            ⟨visits, outcome, after, rest⟩
          exact ⟨_, _, _, .answered first rest⟩

/-- Every evaluation of built-in functions can be carried out with the cell. -/
theorem exists_counts
    {node : Node} (calls : node.CallsBuiltins evaluator.registry)
    (meter : Meter) :
    ∃ visits outcome after,
      evaluator.Counts meter node visits outcome after := by
  generalize left : evaluator.maxDepth - meter.depth = levels
  induction levels generalizing meter node with
  | zero =>
      have full : evaluator.maxDepth < meter.depth + 1 := by omega
      cases node with
      | literal value => exact ⟨_, _, _, .literal value⟩
      | array => exact ⟨_, _, _, .tooDeep (Nat.succ_pos _) full⟩
      | function => exact ⟨_, _, _, .tooDeep (Nat.succ_pos _) full⟩
  | succ levels ih =>
      have room : meter.depth + 1 ≤ evaluator.maxDepth := by omega
      have below : evaluator.maxDepth - (meter.depth + 1) = levels := by omega
      have planned : ∀ {plan}, evaluator.Follows node plan →
          ∃ visits outcome after,
            evaluator.Counts meter node visits outcome after := by
        intro plan follows
        have evaluated : ∀ child, node.Below child → ∀ inner : Meter,
            inner.depth = meter.depth + 1 → ∃ visits outcome after,
              evaluator.Counts inner child visits outcome after :=
          fun child stands inner reads =>
            ih (calls.of_contains stands.contains) inner (reads ▸ below)
        rcases exists_countsPlan follows.keeps evaluated
          (show (Meter.mk (meter.depth + 1) meter.session).depth = _ from rfl)
          with ⟨_, _, _, counts⟩
        exact ⟨_, _, _, .follows room follows counts⟩
      cases node with
      | literal value => exact ⟨_, _, _, .literal value⟩
      | array elements => exact planned (.array elements)
      | function name argument =>
          cases found : evaluator.registry.find? name with
          | none => exact ⟨_, _, _, .unbound room found⟩
          | some handler =>
              rcases calls.handler found with ⟨builtin, _, rfl⟩
              exact planned (.function found argument)

end

/--
The nesting limit only cuts off: under a narrower limit an evaluation fails for
exceeding it, or it has the result, value or error, and leaves the session that
it has and leaves under the wider limit.  And the operands of a node do not
shift each other: with a cell that counts the levels, whatever it reads, every
node comes to the same as without, the cell is put back, and each operand is
begun one level further down and comes to what it does there, whatever was
evaluated before it.
-/
theorem evaluation_limit_only_cuts_off
    {registry : Registry} {root : Node} (calls : root.CallsBuiltins registry)
    {low high : Nat} (within : low ≤ high) (context : Context) :
    ((∃ error, evaluate ⟨registry, low⟩ context root = .error error ∧
        error.rootCause = .limitExceeded .evaluationDepth low) ∨
      run ⟨registry, low⟩ context root = run ⟨registry, high⟩ context root) ∧
    ∀ meter : Meter,
      (∃ visits outcome after,
        Counts ⟨registry, low⟩ meter root visits outcome after) ∧
      ∀ visits outcome after,
        Counts ⟨registry, low⟩ meter root visits outcome after →
          runAt ⟨registry, low⟩ meter root = (outcome, after) ∧
          after.depth = meter.depth ∧
          ∀ visit ∈ visits,
            Visited ⟨registry, low⟩ (meter.depth + 1) visit := by
  constructor
  · have cut := cutShort_evaluateWithin low high calls.callsRelaying within
    exact cut ⟨context, []⟩
  · intro meter
    refine ⟨exists_counts calls meter, fun visits outcome after counts => ?_⟩
    rcases counts.runAt_eq with ⟨ran, visited⟩
    exact ⟨ran, depth_of_runAt ran, visited⟩

/--
Two levels are too few for the first element of an array, and behind it the
cell is put back.
-/
theorem evaluation_limit_only_cuts_off_elements :
    (∃ error, evaluate ⟨.builtins, 2⟩ .empty
        (.array [.array [.array []], .array []]) = .error error ∧
      error.rootCause = .limitExceeded .evaluationDepth 2) ∧
    ∃ visits outcome after,
      Counts ⟨.builtins, 2⟩ ⟨0, ⟨.empty, []⟩⟩
        (.array [.array [.array []], .array []]) visits outcome after ∧
      after.depth = 0 := by
  have calls : (Node.array [.array [.array []], .array []]).CallsBuiltins
      .builtins := Node.callsBuiltins_builtins _
  rcases evaluation_limit_only_cuts_off calls (show 2 ≤ 3 by decide) .empty
    with ⟨limited, cell⟩
  constructor
  · rcases limited with failed | same
    · exact failed
    · cases congrArg Prod.fst same
  · rcases cell ⟨0, ⟨.empty, []⟩⟩ with ⟨⟨visits, outcome, after, counts⟩, all⟩
    exact ⟨visits, outcome, after, counts,
      (all visits outcome after counts).2.1⟩

end Evaluator

end Criteria
