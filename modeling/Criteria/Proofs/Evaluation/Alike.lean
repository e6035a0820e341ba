import Criteria.Proofs.Evaluation.Reach

/-!
# Plans that go the same way

Two plans are alike if they have corresponding operands evaluated, step by step,
as long as these have values; behind a value that an operand does not have the
plans may differ.  Alike plans come to the same outcome if corresponding
operands do, and if the operands are the same nodes, they also leave the same
session behind.

Conjunction and disjunction are one plan with two readings: it ends at the first
operand whose truth is the decisive one.
-/

namespace Criteria

namespace Plan

/--
Two plans have corresponding operands evaluated, as far as the values of those
of the left plan lead.
-/
inductive Alike (answers : Node → Except ConditionError Json)
    (corresponds : Node → Node → Prop) : Plan → Plan → Prop where
  | same (plan : Plan) : Alike answers corresponds plan plan
  | operand {left right : Node} {leftNext rightNext : Json → Plan}
      (pair : corresponds left right)
      (later : ∀ value, answers left = .ok value →
        Alike answers corresponds (leftNext value) (rightNext value)) :
      Alike answers corresponds (.operand left leftNext)
        (.operand right rightNext)

section

variable {answers : Node → Except ConditionError Json}
variable {corresponds : Node → Node → Prop} {left right : Plan}

/-- Alike plans have one outcome if corresponding operands have. -/
theorem Alike.outcome_eq
    (alike : Alike answers corresponds left right)
    (agree : ∀ first second, corresponds first second →
      answers first = answers second)
    (root : Except ConditionError Json) :
    left.outcome answers root = right.outcome answers root := by
  induction alike with
  | same => rfl
  | @operand first second _ _ pair _ ih =>
      have both := agree first second pair
      cases answered : answers first with
      | error error =>
          rw [outcome_operand_of_error answered,
            outcome_operand_of_error (both ▸ answered)]
      | ok value =>
          rw [outcome_operand_of_ok answered,
            outcome_operand_of_ok (both ▸ answered)]
          exact ih value answered

/--
Alike plans on the same operands are carried out alike: with one outcome, and
one session afterwards.
-/
theorem Alike.run_eq
    {known : Node → Prop}
    (alike : Alike answers (fun first second => first = second ∧ known first)
      left right)
    {scope : Scope} {root : Except ConditionError Json}
    (evaluates : ∀ node, known node → ∃ reads,
      (scope.evaluate node).Yields root (answers node) reads)
    {session : Session} (resolves : session.context.resolve.1 = root) :
    (left.run scope).runFrom session = (right.run scope).runFrom session := by
  induction alike generalizing session with
  | same => rfl
  | @operand node _ _ _ pair _ ih =>
      rcases pair with ⟨rfl, isKnown⟩
      rcases evaluates node isKnown with ⟨reads, yields⟩
      rcases yields session resolves with ⟨outcomes, contexts⟩
      rw [run, run, Evaluation.runFrom_bind, Evaluation.runFrom_bind]
      rcases ran : (scope.evaluate node).runFrom session with ⟨found, after⟩
      rw [ran] at outcomes contexts
      cases found with
      | error => rfl
      | ok value =>
          exact ih value outcomes.symm (contexts.resolve_eq.trans resolves)

/-- A result that both plans go on with leaves them alike. -/
theorem alike_ofExcept
    {α : Type} {result : Except ConditionError α} {next other : α → Plan}
    (later : ∀ value, Alike answers corresponds (next value) (other value)) :
    Alike answers corresponds (ofExcept result next)
      (ofExcept result other) := by
  cases result with
  | ok value => exact later value
  | error error => exact .same _

/-- Corresponding nodes are evaluated one after the other. -/
theorem alike_values
    {lefts rights : List Node} (pairs : List.Forall₂ corresponds lefts rights)
    (next : List Json → Plan) :
    Alike answers corresponds (values lefts next) (values rights next) := by
  induction pairs generalizing next with
  | nil => exact .same _
  | cons pair _ ih => exact .operand pair fun value _ => ih _

end

end Plan

/-! ## Conjunction and disjunction -/

namespace Builtin

/--
The function that ends at the first operand that is truthy, or at the first that
is not, as the truth that decides says.
-/
def junction : (decisive : Bool) → Builtin
  | true => disjunction
  | false => conjunction

/-- Ends at the first operand whose truth is decisive. -/
def junctionPlan (decisive : Bool) : List Node → Plan
  | [] => .finish (.ok (.bool !decisive))
  | node :: nodes =>
      .operand node fun value =>
        if value.isTruthy = decisive then .finish (.ok (.bool decisive))
        else junctionPlan decisive nodes

theorem junctionPlan_true (nodes : List Node) :
    junctionPlan true nodes = somePlan nodes := by
  induction nodes with
  | nil => rfl
  | cons node nodes ih => rw [junctionPlan, somePlan, ih]

theorem junctionPlan_false (nodes : List Node) :
    junctionPlan false nodes = everyPlan nodes := by
  induction nodes with
  | nil => rfl
  | cons node nodes ih =>
      rw [junctionPlan, everyPlan, ih]
      refine congrArg _ (funext fun value => ?_)
      cases value.isTruthy <;> rfl

theorem plan_junction (decisive : Bool) (operands : List Node) :
    (junction decisive).plan (.array operands) =
      junctionPlan decisive operands := by
  cases decisive with
  | true => exact (junctionPlan_true operands).symm
  | false => exact (junctionPlan_false operands).symm

end Builtin

namespace Evaluator

variable {evaluator : Evaluator}

/--
The outcome of a node from a session on with a number of levels left, and the
session afterwards; `run` is this for the root, with all levels left.
-/
def runWithin (evaluator : Evaluator) (levels : Nat) (session : Session)
    (node : Node) : Except ConditionError Json × Session :=
  (evaluator.evaluateWithin levels node).runFrom session

/-- A function that is bound follows its plan within its name. -/
theorem evaluateWithin_function
    {name : String} {builtin : Builtin}
    (found : evaluator.registry.find? name = some builtin.handler)
    (levels : Nat) (argument : Node) :
    evaluator.evaluateWithin (levels + 1) (.function name argument) =
      ((builtin.plan argument).run
        ⟨evaluator.evaluateWithin levels,
          evaluator.registry.contains⟩).within name := by
  rw [evaluateWithin, Registry.invoke, found]
  simp only [Builtin.handler_eq_run]

/--
A function whose argument calls built-in functions only comes to the outcome of
its plan, from whatever session it starts.
-/
theorem runWithin_function_outcome
    {name : String} {builtin : Builtin}
    (found : evaluator.registry.find? name = some builtin.handler)
    {argument : Node} (calls : argument.CallsBuiltins evaluator.registry)
    (levels : Nat) (session : Session) :
    (evaluator.runWithin (levels + 1) session (.function name argument)).1 =
      ((builtin.plan argument).outcome
        (evaluator.outcome session.context levels)
        session.context.resolve.1).mapError (.inFunction name) := by
  have evaluates : ∀ node ∈ argument :: argument.children,
      (evaluator.evaluateWithin levels node).Yields session.context.resolve.1
        (evaluator.outcome session.context levels node)
        (evaluator.Consults session.context ⟨levels, node⟩) := by
    intro node operand
    rcases List.mem_cons.mp operand with rfl | child
    · exact yields_evaluateWithin session.context calls levels
    · exact yields_evaluateWithin session.context
        (calls.of_mem_children child) levels
  have yields := Plan.yields_run
    ⟨evaluator.evaluateWithin levels, evaluator.registry.contains⟩
    (builtin.keeps_plan argument) evaluates
  rw [runWithin, evaluateWithin_function found]
  exact (yields.within name session rfl).1

/--
Functions with alike plans on the same nodes, which call built-in functions
only, run alike.
-/
theorem runWithin_function_eq
    {name : String} {builtin : Builtin}
    (found : evaluator.registry.find? name = some builtin.handler)
    {levels : Nat} {session : Session} {left right : Node}
    (alike : Plan.Alike (evaluator.outcome session.context levels)
      (fun first second =>
        first = second ∧ first.CallsBuiltins evaluator.registry)
      (builtin.plan left) (builtin.plan right)) :
    evaluator.runWithin (levels + 1) session (.function name left) =
      evaluator.runWithin (levels + 1) session (.function name right) := by
  rw [runWithin, runWithin, evaluateWithin_function found,
    evaluateWithin_function found, Evaluation.runFrom_within,
    Evaluation.runFrom_within, alike.run_eq _ rfl]
  intro node calls
  exact ⟨_, yields_evaluateWithin session.context calls levels⟩

end Evaluator

end Criteria
