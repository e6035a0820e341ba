import Criteria.Proofs.Evaluation.Calls
import Criteria.Proofs.Evaluation.Simulation

/-!
# What built-in functions do with their operands

A built-in function has its operands evaluated one after the other, and the
value of each decides how it goes on.  In the end it has an outcome of its own,
or it looks a path up in the context.  A `Plan` spells this out as a tree, one
branch for every value that an operand may have, and `handler_eq_run` states
that every built-in function follows its plan.  What is proved about plans by
induction thus holds of all built-in functions.
-/

namespace Criteria

/-- The steps of a built-in function. -/
inductive Plan where
  /-- Ends with an outcome. -/
  | finish (outcome : Except ConditionError Json)
  /-- Has an operand evaluated and goes on as its value demands. -/
  | operand (node : Node) (next : Json → Plan)
  /-- Ends with the value at a path into the context. -/
  | lookup (path : List Json)

namespace Plan

/-- Goes on with a result, or ends with the error in its place. -/
def ofExcept {α : Type} :
    Except ConditionError α → (α → Plan) → Plan
  | .ok result, next => next result
  | .error error, _ => .finish (.error error)

/-- Has nodes evaluated in order and goes on with the list of their values. -/
def values : List Node → (List Json → Plan) → Plan
  | [], next => next []
  | node :: nodes, next =>
      .operand node fun value =>
        values nodes fun others => next (value :: others)

/-- Carries a plan out. -/
def run (scope : Scope) : Plan → Evaluation Json
  | .finish outcome => Evaluation.ofExcept outcome
  | .operand node next => do
      let value ← scope.evaluate node
      (next value).run scope
  | .lookup path => do
      let found ← Evaluation.lookupContext path
      return found.getD .null

theorem run_ofExcept
    {α : Type} (scope : Scope) (result : Except ConditionError α)
    (next : α → Plan) :
    (ofExcept result next).run scope =
      Evaluation.ofExcept result >>= fun value => (next value).run scope := by
  cases result <;> rfl

theorem run_values
    (scope : Scope) (nodes : List Node) (next : List Json → Plan) :
    (values nodes next).run scope =
      nodes.mapM scope.evaluate >>= fun found => (next found).run scope := by
  induction nodes generalizing next with
  | nil => simp only [values, List.mapM_nil, pure_bind]
  | cons node nodes ih =>
      simp only [values, run, List.mapM_cons, bind_assoc, pure_bind, ih]

/-- The plan of an array: the values of its elements. -/
def elements (nodes : List Node) : Plan :=
  values nodes fun found => .finish (.ok (.array found))

theorem run_elements (scope : Scope) (nodes : List Node) :
    (elements nodes).run scope =
      nodes.mapM scope.evaluate >>= fun found => pure (.array found) :=
  run_values scope nodes _

end Plan

/-! ## The plans of the built-in functions -/

namespace Builtin

/-- Whether every node is truthy. -/
def everyPlan : List Node → Plan
  | [] => .finish (.ok (.bool true))
  | node :: nodes =>
      .operand node fun value =>
        if value.isTruthy then everyPlan nodes
        else .finish (.ok (.bool false))

/-- Whether some node is truthy. -/
def somePlan : List Node → Plan
  | [] => .finish (.ok (.bool false))
  | node :: nodes =>
      .operand node fun value =>
        if value.isTruthy then .finish (.ok (.bool true))
        else somePlan nodes

/-- The value of a node. -/
def valuePlan (node : Node) : Plan :=
  .operand node fun value => .finish (.ok value)

/-- One of two branches, as a condition decides. -/
def choicePlan : List Node → Plan
  | [condition, consequence] =>
      .operand condition fun value =>
        if value.isTruthy then valuePlan consequence
        else .finish (.ok .null)
  | [condition, consequence, alternative] =>
      .operand condition fun value =>
        if value.isTruthy then valuePlan consequence
        else valuePlan alternative
  | operands => .finish (.error (.arity (.oneOf 2 3) operands.length))

/--
A comparison of two numbers, the first of which is checked before the second is
evaluated.
-/
def comparePlan (holds : Double → Double → Bool) (argument : Node) : Plan :=
  .ofExcept argument.twoArguments fun (first, second) =>
    .operand first fun leftValue =>
      .ofExcept (expectNumber leftValue) fun left =>
        .operand second fun rightValue =>
          .ofExcept (expectNumber rightValue) fun right =>
            .finish (.ok (.bool (holds left right)))

/-- A comparison of two values. -/
def equalPlan (argument : Node) : Plan :=
  .ofExcept argument.twoArguments fun (first, second) =>
    .operand first fun left =>
      .operand second fun right =>
        .finish (.ok (.bool (left.deepEqual right)))

/-- The bucket of a key. -/
def bucketPlan (argument : Node) : Plan :=
  .ofExcept argument.twoArguments fun (first, second) =>
    .operand first fun key =>
      .operand second fun value =>
        .ofExcept (expectNumber value) fun number =>
          .ofExcept (modulus number) fun buckets =>
            .finish (.ok (Double.ofInt (keyHash key % buckets : Nat)).toJson)

/-- The plan that a built-in function follows on its argument. -/
def plan : Builtin → Node → Plan
  | conjunction, argument => .ofExcept argument.arguments everyPlan
  | disjunction, argument => .ofExcept argument.arguments somePlan
  | negation, argument =>
      .operand argument fun value => .finish (.ok (.bool (!value.isTruthy)))
  | conditional, argument => .ofExcept argument.arguments choicePlan
  | context, argument =>
      .ofExcept argument.arguments fun segments => .values segments .lookup
  | greater, argument =>
      comparePlan (fun left right => right.lt left) argument
  | less, argument => comparePlan Double.lt argument
  | greaterOrEqual, argument =>
      comparePlan (fun left right => right.le left) argument
  | lessOrEqual, argument => comparePlan Double.le argument
  | equal, argument => equalPlan argument
  | bucket, argument => bucketPlan argument

section

variable (scope : Scope)

theorem run_everyPlan (nodes : List Node) :
    (everyPlan nodes).run scope =
      everyTruthy scope nodes >>= fun holds => pure (.bool holds) := by
  induction nodes with
  | nil => rfl
  | cons node nodes ih =>
      simp only [everyPlan, everyTruthy, Plan.run, bind_assoc]
      refine bind_congr fun value => ?_
      split
      · exact ih
      · rfl

theorem run_somePlan (nodes : List Node) :
    (somePlan nodes).run scope =
      someTruthy scope nodes >>= fun holds => pure (.bool holds) := by
  induction nodes with
  | nil => rfl
  | cons node nodes ih =>
      simp only [somePlan, someTruthy, Plan.run, bind_assoc]
      refine bind_congr fun value => ?_
      split
      · rfl
      · exact ih

theorem run_valuePlan (node : Node) :
    (valuePlan node).run scope = scope.evaluate node :=
  bind_pure (scope.evaluate node)

theorem run_choicePlan (nodes : List Node) :
    (choicePlan nodes).run scope = choose scope nodes := by
  match nodes with
  | [condition, consequence] =>
      simp only [choicePlan, choose, Plan.run]
      refine bind_congr fun value => ?_
      split
      · exact run_valuePlan scope consequence
      · rfl
  | [condition, consequence, alternative] =>
      simp only [choicePlan, choose, Plan.run]
      refine bind_congr fun value => ?_
      split
      · exact run_valuePlan scope consequence
      · exact run_valuePlan scope alternative
  | [] => rfl
  | [_] => rfl
  | _ :: _ :: _ :: _ :: _ => rfl

theorem run_comparePlan
    (holds : Double → Double → Bool) (argument : Node) :
    (comparePlan holds argument).run scope =
      compare holds scope argument := by
  rw [comparePlan, Plan.run_ofExcept]
  refine bind_congr fun (first, second) => ?_
  refine bind_congr fun leftValue => ?_
  rw [Plan.run_ofExcept]
  refine bind_congr fun left => ?_
  refine bind_congr fun rightValue => ?_
  rw [Plan.run_ofExcept]
  rfl

theorem run_equalPlan (call : Call) :
    (equalPlan call.argument).run scope = equal.handler scope call := by
  rw [equalPlan, Plan.run_ofExcept]
  rfl

theorem run_bucketPlan (argument : Node) :
    (bucketPlan argument).run scope = bucketOf scope argument := by
  rw [bucketPlan, Plan.run_ofExcept]
  refine bind_congr fun (first, second) => ?_
  refine bind_congr fun key => ?_
  refine bind_congr fun value => ?_
  rw [Plan.run_ofExcept]
  refine bind_congr fun number => ?_
  rw [Plan.run_ofExcept]
  rfl

/-- Every built-in function follows its plan. -/
theorem handler_eq_run (builtin : Builtin) (call : Call) :
    builtin.handler scope call = (builtin.plan call.argument).run scope := by
  cases builtin with
  | conjunction =>
      simp only [handler, plan, Plan.run_ofExcept, run_everyPlan]
  | disjunction =>
      simp only [handler, plan, Plan.run_ofExcept, run_somePlan]
  | negation => rfl
  | conditional =>
      simp only [handler, plan, Plan.run_ofExcept, run_choicePlan]
  | context =>
      simp only [handler, plan, Plan.run_ofExcept, Plan.run_values]
      rfl
  | greater => exact (run_comparePlan scope _ call.argument).symm
  | less => exact (run_comparePlan scope _ call.argument).symm
  | greaterOrEqual => exact (run_comparePlan scope _ call.argument).symm
  | lessOrEqual => exact (run_comparePlan scope _ call.argument).symm
  | equal => exact (run_equalPlan scope call).symm
  | bucket => exact (run_bucketPlan scope call.argument).symm

end

end Builtin

end Criteria
