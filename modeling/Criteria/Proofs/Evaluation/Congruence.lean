import Mathlib.Data.List.Forall2
import Criteria.Proofs.Evaluation.Alike
import Criteria.Proofs.Evaluation.Bindings

/-!
# Replacing a node by one with the same outcome

A built-in function sees an operand only through the value that it has it
evaluated to, but sees whether its argument is an array, and of how many
elements.  So a node may be replaced by one with the same outcome wherever it is
an element of an array, and as the direct argument of a negation, which is the
one function that has its argument evaluated as it stands.  The proof goes down
the path to the node; a function that the path leads through has a plan that is
alike before and after the replacement.
-/

namespace Criteria

/-! ## Trees with a marked position -/

/-- A tree with one position left open. -/
inductive MarkedTree where
  /-- The position is the tree. -/
  | here
  /-- The position is in an element of an array. -/
  | element (before : List Node) (inner : MarkedTree) (after : List Node)
  /-- The position is in the argument of a function. -/
  | argument (name : String) (inner : MarkedTree)

namespace MarkedTree

/-- The tree with a node at the position. -/
def fill (node : Node) : MarkedTree → Node
  | .here => node
  | .element before inner after => .array (before ++ inner.fill node :: after)
  | .argument name inner => .function name (inner.fill node)

/-- The function that the position is the direct argument of, if any. -/
def callee? : MarkedTree → Option String
  | .here => none
  | .element _ inner _ => inner.callee?
  | .argument name .here => some name
  | .argument _ inner => inner.callee?

theorem callee?_argument_of_eq_some
    {name called : String} {inner : MarkedTree}
    (below : inner.callee? = some called) :
    (argument name inner).callee? = some called := by
  cases inner with
  | here => cases below
  | element => exact below
  | argument => exact below

theorem callsBuiltins_of_element
    {registry : Registry} {node : Node} {before after : List Node}
    {inner : MarkedTree}
    (calls : ((element before inner after).fill node).CallsBuiltins registry) :
    (inner.fill node).CallsBuiltins registry :=
  calls.of_mem List.mem_append_cons_self

end MarkedTree

/-! ## Plans on corresponding operands -/

/-- Of more than two operands a function of two sees the number only. -/
theorem Node.twoArguments_of_long (first second third : Node)
    (more : List Node) :
    (array (first :: second :: third :: more)).twoArguments =
      .error (.arity (.exactly 2) (more.length + 3)) := rfl

namespace Builtin

section

variable {answers : Node → Except ConditionError Json}
variable {corresponds : Node → Node → Prop} {lefts rights : List Node}

theorem alike_junctionPlan_of_forall₂
    (decisive : Bool) (pairs : List.Forall₂ corresponds lefts rights) :
    Plan.Alike answers corresponds (junctionPlan decisive lefts)
      (junctionPlan decisive rights) := by
  induction pairs with
  | nil => exact .same _
  | cons pair _ ih =>
      refine .operand pair fun value _ => ?_
      split
      · exact .same _
      · exact ih

theorem alike_valuePlan {left right : Node} (pair : corresponds left right) :
    Plan.Alike answers corresponds (valuePlan left) (valuePlan right) :=
  .operand pair fun _ _ => .same _

theorem alike_choicePlan (pairs : List.Forall₂ corresponds lefts rights) :
    Plan.Alike answers corresponds (choicePlan lefts) (choicePlan rights) := by
  match pairs with
  | .nil => exact .same _
  | .cons _ .nil => exact .same _
  | .cons condition (.cons consequence .nil) =>
      refine .operand condition fun value _ => ?_
      split
      · exact alike_valuePlan consequence
      · exact .same _
  | .cons condition (.cons consequence (.cons alternative .nil)) =>
      refine .operand condition fun value _ => ?_
      split
      · exact alike_valuePlan consequence
      · exact alike_valuePlan alternative
  | .cons _ (.cons _ (.cons _ (.cons _ more))) =>
      simp only [choicePlan, List.length_cons, more.length_eq]
      exact .same _

/-- Functions of two operands have corresponding plans, or the same arity. -/
theorem alike_withTwoArguments
    (pairs : List.Forall₂ corresponds lefts rights)
    {next other : Node × Node → Plan}
    (later : ∀ leftFirst rightFirst leftSecond rightSecond,
      corresponds leftFirst rightFirst → corresponds leftSecond rightSecond →
        Plan.Alike answers corresponds (next (leftFirst, leftSecond))
          (other (rightFirst, rightSecond))) :
    Plan.Alike answers corresponds
      (.ofExcept (Node.array lefts).twoArguments next)
      (.ofExcept (Node.array rights).twoArguments other) := by
  match pairs with
  | .nil => exact .same _
  | .cons _ .nil => exact .same _
  | .cons first (.cons second .nil) => exact later _ _ _ _ first second
  | .cons _ (.cons _ (.cons _ more)) =>
      rw [Node.twoArguments_of_long, Node.twoArguments_of_long,
        more.length_eq]
      exact .same _

theorem alike_comparePlan
    (holds : Double → Double → Bool)
    (pairs : List.Forall₂ corresponds lefts rights) :
    Plan.Alike answers corresponds (comparePlan holds (.array lefts))
      (comparePlan holds (.array rights)) := by
  refine alike_withTwoArguments pairs fun _ _ _ _ first second => ?_
  refine .operand first fun leftValue _ => ?_
  refine Plan.alike_ofExcept fun left => ?_
  exact .operand second fun rightValue _ => .same _

theorem alike_equalPlan (pairs : List.Forall₂ corresponds lefts rights) :
    Plan.Alike answers corresponds (equalPlan (.array lefts))
      (equalPlan (.array rights)) := by
  refine alike_withTwoArguments pairs fun _ _ _ _ first second => ?_
  exact .operand first fun left _ => .operand second fun right _ => .same _

theorem alike_bucketPlan (pairs : List.Forall₂ corresponds lefts rights) :
    Plan.Alike answers corresponds (bucketPlan (.array lefts))
      (bucketPlan (.array rights)) := by
  refine alike_withTwoArguments pairs fun _ _ _ _ first second => ?_
  exact .operand first fun key _ => .operand second fun value _ => .same _

/--
Every built-in function but the negation has alike plans on arrays of
corresponding elements.
-/
theorem alike_plan
    {builtin : Builtin} (other : builtin ≠ negation)
    (pairs : List.Forall₂ corresponds lefts rights) :
    Plan.Alike answers corresponds (builtin.plan (.array lefts))
      (builtin.plan (.array rights)) := by
  cases builtin with
  | conjunction =>
      rw [← junction, plan_junction, plan_junction]
      exact alike_junctionPlan_of_forall₂ false pairs
  | disjunction =>
      rw [← junction, plan_junction, plan_junction]
      exact alike_junctionPlan_of_forall₂ true pairs
  | negation => exact absurd rfl other
  | conditional => exact alike_choicePlan pairs
  | context => exact Plan.alike_values pairs _
  | greater => exact alike_comparePlan _ pairs
  | less => exact alike_comparePlan _ pairs
  | greaterOrEqual => exact alike_comparePlan _ pairs
  | lessOrEqual => exact alike_comparePlan _ pairs
  | equal => exact alike_equalPlan pairs
  | bucket => exact alike_bucketPlan pairs

end

/-- Only the negation has a function in the place of its argument evaluated. -/
theorem plan_function_eq
    {builtin : Builtin} (other : builtin ≠ negation)
    (name : String) (left right : Node) :
    builtin.plan (.function name left) =
      builtin.plan (.function name right) := by
  cases builtin with
  | negation => exact absurd rfl other
  | _ => rfl

end Builtin

/-! ## Going down to the position -/

/-- Lists that differ at one place correspond if the nodes there do. -/
theorem List.forall₂_replace
    {corresponds : Node → Node → Prop}
    (reflexive : ∀ node, corresponds node node) (before after : List Node)
    {left right : Node} (pair : corresponds left right) :
    List.Forall₂ corresponds (before ++ left :: after)
      (before ++ right :: after) := by
  have same : ∀ nodes : List Node, List.Forall₂ corresponds nodes nodes :=
    fun nodes => List.forall₂_same.mpr fun node _ => reflexive node
  exact List.rel_append (same before) (.cons pair (same after))

/--
A function other than a negation has alike plans on arguments that are filled
below their root.
-/
theorem Builtin.alike_plan_fill
    {answers : Node → Except ConditionError Json}
    {corresponds : Node → Node → Prop}
    (reflexive : ∀ node, corresponds node node)
    {builtin : Builtin} (other : builtin ≠ negation)
    {first second : Node} {inner : MarkedTree} (deeper : inner ≠ .here)
    (elements : ∀ before innermost after,
      inner = .element before innermost after →
        corresponds (innermost.fill first) (innermost.fill second)) :
    Plan.Alike answers corresponds (builtin.plan (inner.fill first))
      (builtin.plan (inner.fill second)) := by
  cases inner with
  | here => exact absurd rfl deeper
  | element before innermost after =>
      exact alike_plan other (List.forall₂_replace reflexive before after
        (elements before innermost after rfl))
  | argument called innermost =>
      have same : builtin.plan (.function called (innermost.fill first)) =
          builtin.plan (.function called (innermost.fill second)) :=
        plan_function_eq other called _ _
      rw [MarkedTree.fill, MarkedTree.fill, same]
      exact .same _

namespace Evaluator

variable {evaluator : Evaluator} {context : Context}

/-- Two nodes have one outcome when a number of levels is left. -/
def SameOutcome (evaluator : Evaluator) (context : Context) (levels : Nat)
    (first second : Node) : Prop :=
  evaluator.outcome context levels first =
    evaluator.outcome context levels second

theorem sameOutcome_refl {levels : Nat} (node : Node) :
    evaluator.SameOutcome context levels node node := rfl

/-- Nodes that follow alike plans have one outcome if their operands have. -/
theorem Follows.sameOutcome
    {left right : Node} {leftPlan rightPlan : Plan} {levels : Nat}
    (leftFollows : evaluator.Follows left leftPlan)
    (rightFollows : evaluator.Follows right rightPlan)
    (leftCalls : left.CallsBuiltins evaluator.registry)
    (rightCalls : right.CallsBuiltins evaluator.registry)
    (inside : ConditionError.inside left = ConditionError.inside right)
    (alike : Plan.Alike (evaluator.outcome context levels)
      (evaluator.SameOutcome context levels) leftPlan rightPlan) :
    evaluator.SameOutcome context (levels + 1) left right := by
  rw [SameOutcome, leftFollows.outcome_eq leftCalls,
    rightFollows.outcome_eq rightCalls, inside,
    alike.outcome_eq fun _ _ same => same]

/--
The step over a function: arguments that are filled have one outcome, and the
elements that are filled if they are arrays.
-/
theorem sameOutcome_function
    {first second : Node} {levels : Nat} {name : String} {inner : MarkedTree}
    (free : ∀ called, (MarkedTree.argument name inner).callee? = some called →
      evaluator.registry.find? called = some Builtin.negation.handler)
    (firstCalls : (Node.function name (inner.fill first)).CallsBuiltins
      evaluator.registry)
    (secondCalls : (Node.function name (inner.fill second)).CallsBuiltins
      evaluator.registry)
    (whole : evaluator.SameOutcome context levels (inner.fill first)
      (inner.fill second))
    (elements : ∀ before innermost after,
      inner = .element before innermost after →
        evaluator.SameOutcome context levels (innermost.fill first)
          (innermost.fill second)) :
    evaluator.SameOutcome context (levels + 1)
      (.function name (inner.fill first))
      (.function name (inner.fill second)) := by
  by_cases negates :
      evaluator.registry.find? name = some Builtin.negation.handler
  · exact Follows.sameOutcome (.function negates _) (.function negates _)
      firstCalls secondCalls rfl (.operand whole fun _ _ => .same _)
  · have deeper : inner ≠ .here := by
      rintro rfl
      exact negates (free name rfl)
    cases found : evaluator.registry.find? name with
    | none =>
        exact (outcome_unbound found levels _).trans
          (outcome_unbound found levels _).symm
    | some handler =>
        rcases firstCalls.handler found with ⟨builtin, _, rfl⟩
        have other : builtin ≠ .negation := by
          rintro rfl
          exact negates found
        exact Follows.sameOutcome (.function found _) (.function found _)
          firstCalls secondCalls rfl
          (Builtin.alike_plan_fill sameOutcome_refl other deeper elements)

/--
Nodes with one outcome have one outcome in a tree as well.  The induction is on
the levels that are left, one of which every step towards the position takes;
the step over a function may lead right into the array that is its argument.
-/
theorem sameOutcome_fill
    {first second : Node} {most : Nat}
    (same : ∀ levels ≤ most,
      evaluator.SameOutcome context levels first second)
    {levels : Nat} (within : levels ≤ most) {position : MarkedTree}
    (free : ∀ name, position.callee? = some name →
      evaluator.registry.find? name = some Builtin.negation.handler)
    (firstCalls : (position.fill first).CallsBuiltins evaluator.registry)
    (secondCalls : (position.fill second).CallsBuiltins evaluator.registry) :
    evaluator.SameOutcome context levels (position.fill first)
      (position.fill second) := by
  induction levels generalizing position with
  | zero =>
      cases position with
      | here => exact same 0 within
      | element => rfl
      | argument => rfl
  | succ levels ih =>
      have below : levels ≤ most := Nat.le_of_succ_le within
      cases position with
      | here => exact same (levels + 1) within
      | element before inner after =>
          have filled : evaluator.SameOutcome context levels
              (inner.fill first) (inner.fill second) :=
            ih below free (MarkedTree.callsBuiltins_of_element firstCalls)
              (MarkedTree.callsBuiltins_of_element secondCalls)
          exact Follows.sameOutcome (.array _) (.array _) firstCalls
            secondCalls rfl (Plan.alike_values
              (List.forall₂_replace sameOutcome_refl before after filled) _)
      | argument name inner =>
          have freeBelow : ∀ called, inner.callee? = some called →
              evaluator.registry.find? called =
                some Builtin.negation.handler := fun called isCallee =>
            free called (MarkedTree.callee?_argument_of_eq_some isCallee)
          have whole := ih below freeBelow firstCalls.argument
            secondCalls.argument
          refine sameOutcome_function free firstCalls secondCalls whole ?_
          rintro before innermost after rfl
          exact ih below freeBelow
            (MarkedTree.callsBuiltins_of_element firstCalls.argument)
            (MarkedTree.callsBuiltins_of_element secondCalls.argument)

/--
Evaluation is compositional.  In a tree that calls built-in functions only, two
nodes that have the same outcome at every nesting depth may stand for each other
at a position that is not the direct argument of a function, or the direct
argument of a negation.
-/
theorem replacement_keeps_outcome
    {position : MarkedTree} {first second : Node}
    (firstCalls : (position.fill first).CallsBuiltins evaluator.registry)
    (secondCalls : (position.fill second).CallsBuiltins evaluator.registry)
    (free : ∀ name, position.callee? = some name →
      evaluator.registry.find? name = some Builtin.negation.handler)
    (same : ∀ levels ≤ evaluator.maxDepth,
      evaluator.outcome context levels first =
        evaluator.outcome context levels second) :
    evaluator.evaluate context (position.fill first) =
      evaluator.evaluate context (position.fill second) :=
  sameOutcome_fill same (Nat.le_refl _) free firstCalls secondCalls

/--
The direct argument of a conjunction is excepted: an empty array, and a look-up
of one, have one value but are not both arrays of operands.
-/
example :
    standard.evaluate (.ofValue (.array [])) (.function "and" (.array [])) =
        .ok (.bool true) ∧
      standard.evaluate (.ofValue (.array []))
          (.function "and" (.function "context" (.array []))) =
        .error (.inFunction "and" (.typeMismatch (.notAnArray .function))) :=
  ⟨rfl, rfl⟩

/-- The first operand of a disjunction. -/
def firstOperand : MarkedTree :=
  .argument "or" (.element [] .here [.literal (.boolean true)])

/-- An empty disjunction, and a negated truth, in the place of an operand. -/
theorem replacement_keeps_outcome_false :
    (∀ levels ≤ standard.maxDepth,
      standard.outcome .empty levels (.function "or" (.array [])) =
        standard.outcome .empty levels
          (.function "not" (.literal (.boolean true)))) ∧
      standard.evaluate .empty
          (firstOperand.fill (.function "or" (.array []))) =
        standard.evaluate .empty
          (firstOperand.fill (.function "not" (.literal (.boolean true)))) := by
  have same : ∀ levels ≤ standard.maxDepth,
      standard.outcome .empty levels (.function "or" (.array [])) =
        standard.outcome .empty levels
          (.function "not" (.literal (.boolean true))) := by
    intro levels _
    match levels with
    | 0 => rfl
    | 1 => rfl
    | _ + 2 => rfl
  exact ⟨same, replacement_keeps_outcome (Node.callsBuiltins_builtins _)
    (Node.callsBuiltins_builtins _) (fun _ nothing => nomatch nothing) same⟩

end Evaluator

end Criteria
