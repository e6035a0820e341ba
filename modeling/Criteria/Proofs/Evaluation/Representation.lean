import Criteria.Proofs.Evaluation.Calls
import Criteria.Proofs.Evaluation.Context
import Criteria.Proofs.Evaluation.Simulation
import Criteria.Proofs.Json.Equality

/-!
# Conditions do not see how numbers are represented

Whether a number is an integer or a double of the same value makes no
difference to a condition, unless it asks for a bucket of the number.  Run side
by side against contexts of equal values, a condition takes the same way
through its functions: truth, comparisons and paths do not tell equal values
apart, so both runs succeed with equal values or fail for the same reason.
-/

namespace Criteria

namespace ConditionError

/-- The kinds of errors. -/
inductive Kind where
  | lex
  | unexpected
  | unexpectedEnd
  | limitExceeded
  | unknownFunction
  | arity
  | typeMismatch
  | invalidContext
  | inFunction
  deriving DecidableEq

/-- The kind of an error. -/
def kind : ConditionError → Kind
  | .lex _ _ => .lex
  | .unexpected _ _ _ => .unexpected
  | .unexpectedEnd _ => .unexpectedEnd
  | .limitExceeded _ _ => .limitExceeded
  | .unknownFunction _ => .unknownFunction
  | .arity _ _ => .arity
  | .typeMismatch _ => .typeMismatch
  | .invalidContext => .invalidContext
  | .inFunction _ _ => .inFunction

/--
Errors with the same functions around them and root causes of the same kind.
-/
def Alike (left right : ConditionError) : Prop :=
  left.functionChain = right.functionChain ∧
    left.rootCause.kind = right.rootCause.kind

theorem alike_refl (error : ConditionError) : Alike error error :=
  ⟨rfl, rfl⟩

theorem alike_inFunction
    {left right : ConditionError} (alike : Alike left right) (name : String) :
    Alike (.inFunction name left) (.inFunction name right) := by
  rcases alike with ⟨chains, causes⟩
  exact ⟨congrArg (name :: ·) chains, causes⟩

theorem alike_typeMismatch (left right : TypeFault) :
    Alike (.typeMismatch left) (.typeMismatch right) :=
  ⟨rfl, rfl⟩

end ConditionError

open ConditionError (Alike)

/-! ## Paths into equal values -/

namespace Json

/-- Deep equality as a relation. -/
def Equal (left right : Json) : Prop :=
  left.deepEqual right = true

/-- A key leads nowhere but into objects. -/
theorem descend_string_of_kind
    {value : Json} (notObject : value.kind ≠ .object) (key : String) :
    value.descend (.string key) =
      .error (.typeMismatch (.keyOutsideObject value.kind key)) := by
  cases value with
  | object => exact absurd rfl notObject
  | _ => rfl

/-- A position leads nowhere but into arrays. -/
theorem descend_number_of_kind
    {value : Json} (notArray : value.kind ≠ .array) (index : Number) :
    value.descend (.number index) =
      .error (.typeMismatch (.positionOutsideArray value.kind index)) := by
  cases value with
  | array => exact absurd rfl notArray
  | _ => rfl

/-- Nothing but a key or a position leads anywhere. -/
theorem descend_of_kind
    {value segment : Json} (noKey : segment.kind ≠ .string)
    (noPosition : segment.kind ≠ .number) :
    value.descend segment =
      .error (.typeMismatch (.notASegment segment.kind)) := by
  cases segment with
  | string => exact absurd rfl noKey
  | number => exact absurd rfl noPosition
  | _ => rfl

/-- A step with equal segments into equal values leads to equal values. -/
theorem descend_congr
    {left right leftSegment rightSegment : Json}
    (values : Equal left right) (segments : Equal leftSegment rightSegment) :
    OutcomesRelated Alike OptionsEqual (left.descend leftSegment)
      (right.descend rightSegment) := by
  have kinds := kind_congr values
  have segmentKinds := kind_congr segments
  cases leftSegment with
  | string key =>
      rw [eq_string_of_deepEqual segments]
      cases left with
      | object members =>
          rcases exists_object_of_deepEqual values with ⟨others, rfl, equal⟩
          exact lookup_congr equal key
      | _ =>
          rw [descend_string_of_kind (by nofun),
            descend_string_of_kind (kinds ▸ by nofun)]
          exact ConditionError.alike_typeMismatch _ _
  | number index =>
      rcases exists_number_of_deepEqual segments with ⟨other, rfl, same⟩
      cases left with
      | array items =>
          rcases exists_array_of_deepEqual values with ⟨others, rfl, equal⟩
          show OptionsEqual _ _
          rw [Number.position?_congr same]
          cases other.position? with
          | none => exact .none
          | some position => exact getElem?_congr equal position
      | _ =>
          rw [descend_number_of_kind (by nofun),
            descend_number_of_kind (kinds ▸ by nofun)]
          exact ConditionError.alike_typeMismatch _ _
  | _ =>
      rw [descend_of_kind (by nofun) (by nofun),
        descend_of_kind (segmentKinds ▸ by nofun) (segmentKinds ▸ by nofun)]
      exact ConditionError.alike_typeMismatch _ _

/-- Equal paths into equal values lead to equal values. -/
theorem walk_congr
    {left right : Json} {leftPath rightPath : List Json}
    (values : Equal left right)
    (paths : List.Forall₂ Equal leftPath rightPath) :
    OutcomesRelated Alike OptionsEqual (left.walk leftPath)
      (right.walk rightPath) := by
  induction paths generalizing left right with
  | nil => exact .some values
  | @cons leftSegment rightSegment leftPath rightPath segments _ ih =>
      rw [walk, walk]
      rcases (descend_congr values segments).ok_or_error with
        ⟨_, _, leftStep, rightStep, found⟩ |
          ⟨_, _, leftStep, rightStep, failures⟩
      · rw [leftStep, rightStep]
        cases found with
        | none => exact .none
        | some next => exact ih next
      · rw [leftStep, rightStep]
        exact failures

end Json

/-! ## Sessions over equal values -/

namespace Context

/-- A context that resolves to a value does so again afterwards. -/
theorem resolve_resolve
    {context : Context} {value : Json}
    (resolves : context.resolve.1 = .ok value) :
    context.resolve.2.resolve.1 = .ok value := by
  rw [resolve_idem]
  exact resolves

theorem lookup_of_resolve
    {context : Context} {root : Json} (resolves : context.resolve.1 = .ok root)
    (path : List Json) :
    context.lookup path = (root.walk path, context.resolve.2) := by
  rcases found : context.resolve with ⟨outcome, after⟩
  rw [found] at resolves
  simp only at resolves
  subst resolves
  rw [lookup, found]

/-- Contexts that resolve to equal values. -/
def ResolveAlike (left right : Context) : Prop :=
  ∃ leftValue rightValue, left.resolve.1 = .ok leftValue ∧
    right.resolve.1 = .ok rightValue ∧
    Json.Equal leftValue rightValue

end Context

/-- Two runs over contexts of equal values. -/
def representation : Simulation where
  sessions left right := left.context.ResolveAlike right.context
  errors := Alike

namespace Evaluation

/-- Equal paths into contexts of equal values lead to equal values. -/
theorem relates_lookupContext
    {leftPath rightPath : List Json}
    (paths : List.Forall₂ Json.Equal leftPath rightPath) :
    representation.Relates Json.OptionsEqual (lookupContext leftPath)
      (lookupContext rightPath) := by
  rintro leftSession rightSession ⟨leftValue, rightValue, leftResolves,
    rightResolves, equal⟩
  rw [runFrom_lookupContext, runFrom_lookupContext,
    Context.lookup_of_resolve leftResolves,
    Context.lookup_of_resolve rightResolves]
  exact ⟨Json.walk_congr equal paths, leftValue, rightValue,
    Context.resolve_resolve leftResolves, Context.resolve_resolve rightResolves,
    equal⟩

/-- The same outcome on both sides, which is remembered. -/
theorem relates_ofExcept_self {α : Type} (outcome : Except ConditionError α) :
    representation.Relates (fun left right => left = right ∧ outcome = .ok left)
      (ofExcept outcome) (ofExcept outcome) := by
  apply Simulation.relates_ofExcept
  cases outcome with
  | ok value => exact ⟨rfl, rfl⟩
  | error error => exact ConditionError.alike_refl error

end Evaluation

/-! ## Built-in functions -/

namespace Builtin

open Simulation

section

variable {scope : Scope}

/--
What is done with the operands of a call stays related if it does for related
operands.
-/
theorem relates_withArguments
    {α : Type} {results : α → α → Prop} {argument : Node}
    {next : List Node → Evaluation α}
    (related : ∀ node ∈ argument.children,
      representation.Relates Json.Equal (scope.evaluate node)
        (scope.evaluate node))
    (later : ∀ operands : List Node,
      (∀ node ∈ operands,
        representation.Relates Json.Equal (scope.evaluate node)
          (scope.evaluate node)) →
      representation.Relates results (next operands) (next operands)) :
    representation.Relates results
      (Evaluation.ofExcept argument.arguments >>= next)
      (Evaluation.ofExcept argument.arguments >>= next) := by
  apply (Evaluation.relates_ofExcept_self _).bind
  rintro operands _ ⟨rfl, found⟩
  rw [Node.children_of_arguments found] at related
  exact later operands related

/--
What is done with two operands stays related if it does for two related
operands.
-/
theorem relates_withTwoArguments
    {α : Type} {results : α → α → Prop} {argument : Node}
    {next : Node × Node → Evaluation α}
    (related : ∀ node ∈ argument.children,
      representation.Relates Json.Equal (scope.evaluate node)
        (scope.evaluate node))
    (later : ∀ first second : Node,
      representation.Relates Json.Equal (scope.evaluate first)
        (scope.evaluate first) →
      representation.Relates Json.Equal (scope.evaluate second)
        (scope.evaluate second) →
      representation.Relates results (next (first, second))
        (next (first, second))) :
    representation.Relates results
      (Evaluation.ofExcept argument.twoArguments >>= next)
      (Evaluation.ofExcept argument.twoArguments >>= next) := by
  apply (Evaluation.relates_ofExcept_self _).bind
  rintro ⟨first, second⟩ _ ⟨rfl, found⟩
  rw [Node.children_of_twoArguments found] at related
  exact later first second (related first (by simp)) (related second (by simp))

theorem relates_everyTruthy
    {nodes : List Node}
    (related : ∀ node ∈ nodes,
      representation.Relates Json.Equal (scope.evaluate node)
        (scope.evaluate node)) :
    representation.Relates Eq (everyTruthy scope nodes)
      (everyTruthy scope nodes) := by
  induction nodes with
  | nil => exact relates_pure rfl
  | cons node nodes ih =>
      rcases List.forall_mem_cons.mp related with ⟨first, others⟩
      refine first.bind fun left right equal => ?_
      rw [Json.isTruthy_congr equal]
      cases right.isTruthy with
      | true => exact ih others
      | false => exact relates_pure rfl

theorem relates_someTruthy
    {nodes : List Node}
    (related : ∀ node ∈ nodes,
      representation.Relates Json.Equal (scope.evaluate node)
        (scope.evaluate node)) :
    representation.Relates Eq (someTruthy scope nodes)
      (someTruthy scope nodes) := by
  induction nodes with
  | nil => exact relates_pure rfl
  | cons node nodes ih =>
      rcases List.forall_mem_cons.mp related with ⟨first, others⟩
      refine first.bind fun left right equal => ?_
      rw [Json.isTruthy_congr equal]
      cases right.isTruthy with
      | true => exact relates_pure rfl
      | false => exact ih others

theorem relates_choose
    {nodes : List Node}
    (related : ∀ node ∈ nodes,
      representation.Relates Json.Equal (scope.evaluate node)
        (scope.evaluate node)) :
    representation.Relates Json.Equal (choose scope nodes)
      (choose scope nodes) := by
  match nodes with
  | [condition, consequence] =>
      refine (related condition (by simp)).bind fun left right equal => ?_
      rw [Json.isTruthy_congr equal]
      cases right.isTruthy with
      | true => exact related consequence (by simp)
      | false => exact relates_pure (Json.deepEqual_refl _)
  | [condition, consequence, alternative] =>
      refine (related condition (by simp)).bind fun left right equal => ?_
      rw [Json.isTruthy_congr equal]
      cases right.isTruthy with
      | true => exact related consequence (by simp)
      | false => exact related alternative (by simp)
  | [] => exact relates_throw (ConditionError.alike_refl _)
  | [_] => exact relates_throw (ConditionError.alike_refl _)
  | _ :: _ :: _ :: _ :: _ => exact relates_throw (ConditionError.alike_refl _)

theorem expectNumber_of_kind {value : Json} (notNumber : value.kind ≠ .number) :
    expectNumber value = .error (.typeMismatch (.notANumber value.kind)) := by
  cases value with
  | number => exact absurd rfl notNumber
  | _ => rfl

/-- Equal values are numbers of the same double, or neither is a number. -/
theorem expectNumber_congr {left right : Json} (equal : Json.Equal left right) :
    OutcomesRelated Alike (fun left right => left.sameValue right = true)
      (expectNumber left)
      (expectNumber right) := by
  have kinds := Json.kind_congr equal
  cases left with
  | number =>
      rcases Json.exists_number_of_deepEqual equal with ⟨_, rfl, same⟩
      exact same
  | _ =>
      rw [expectNumber_of_kind (by nofun),
        expectNumber_of_kind (kinds ▸ by nofun)]
      exact ConditionError.alike_typeMismatch _ _

theorem relates_compare
    {holds : Double → Double → Bool}
    (respects :
      ∀ left left' right right' : Double, left.sameValue left' = true →
      right.sameValue right' = true → holds left right = holds left' right')
    {argument : Node}
    (related : ∀ node ∈ argument.children,
      representation.Relates Json.Equal (scope.evaluate node)
        (scope.evaluate node)) :
    representation.Relates Json.Equal (compare holds scope argument)
      (compare holds scope argument) := by
  apply relates_withTwoArguments related
  intro first second firstRelated secondRelated
  refine firstRelated.bind fun leftValue leftValue' leftEqual => ?_
  refine (relates_ofExcept (expectNumber_congr leftEqual)).bind
    fun left left' leftSame => ?_
  refine secondRelated.bind fun rightValue rightValue' rightEqual => ?_
  refine (relates_ofExcept (expectNumber_congr rightEqual)).bind
    fun right right' rightSame => ?_
  rw [respects left left' right right' leftSame rightSame]
  exact relates_pure (Json.deepEqual_refl _)

theorem relates_lookupPath
    {argument : Node}
    (related : ∀ node ∈ argument.children,
      representation.Relates Json.Equal (scope.evaluate node)
        (scope.evaluate node)) :
    representation.Relates Json.Equal (lookupPath scope argument)
      (lookupPath scope argument) := by
  apply relates_withArguments related
  intro operands related
  have paths :
      representation.Relates (List.Forall₂ Json.Equal)
        (scope.evaluateAll operands)
      (scope.evaluateAll operands) :=
    relates_mapM_of_mem related
  refine paths.bind fun leftPath rightPath equal => ?_
  refine (Evaluation.relates_lookupContext equal).bind
    fun left right values => ?_
  cases values with
  | none => exact relates_pure (Json.deepEqual_refl _)
  | some value => exact relates_pure value

/-- No built-in function but the bucket tells equal values apart. -/
theorem relates_handler
    {builtin : Builtin} (notBucket : builtin ≠ .bucket)
    {call : Call}
    (related : ∀ node ∈ call.argument :: call.argument.children,
      representation.Relates Json.Equal (scope.evaluate node)
        (scope.evaluate node)) :
    representation.Relates Json.Equal (builtin.handler scope call)
      (builtin.handler scope call) := by
  rcases List.forall_mem_cons.mp related with ⟨whole, parts⟩
  cases builtin with
  | conjunction =>
      apply relates_withArguments parts
      intro operands related
      apply (relates_everyTruthy related).bind
      rintro truth _ rfl
      exact relates_pure (Json.deepEqual_refl _)
  | disjunction =>
      apply relates_withArguments parts
      intro operands related
      apply (relates_someTruthy related).bind
      rintro truth _ rfl
      exact relates_pure (Json.deepEqual_refl _)
  | negation =>
      refine whole.bind fun left right equal => ?_
      rw [Json.isTruthy_congr equal]
      exact relates_pure (Json.deepEqual_refl _)
  | conditional =>
      exact relates_withArguments parts fun operands => relates_choose
  | context => exact relates_lookupPath parts
  | greater =>
      refine relates_compare ?_ parts
      intro left left' right right' leftSame rightSame
      exact Double.lt_congr rightSame leftSame
  | less =>
      refine relates_compare ?_ parts
      intro left left' right right' leftSame rightSame
      exact Double.lt_congr leftSame rightSame
  | greaterOrEqual =>
      refine relates_compare ?_ parts
      intro left left' right right' leftSame rightSame
      exact Double.le_congr rightSame leftSame
  | lessOrEqual =>
      refine relates_compare ?_ parts
      intro left left' right right' leftSame rightSame
      exact Double.le_congr leftSame rightSame
  | equal =>
      apply relates_withTwoArguments parts
      intro first second firstRelated secondRelated
      refine firstRelated.bind fun left left' leftEqual => ?_
      refine secondRelated.bind fun right right' rightEqual => ?_
      rw [Json.deepEqual_congr leftEqual rightEqual]
      exact relates_pure (Json.deepEqual_refl _)
  | bucket => exact absurd rfl notBucket

end

end Builtin

/-! ## Conditions -/

namespace Evaluator

open Simulation

/--
At every nesting level, runs over contexts of equal values stay side by side.
-/
theorem relates_evaluateWithin
    {evaluator : Evaluator} {node : Node}
    (calls : node.CallsOnly (· ≠ .bucket) evaluator.registry) (levels : Nat) :
    representation.Relates Json.Equal (evaluator.evaluateWithin levels node)
      (evaluator.evaluateWithin levels node) := by
  induction levels generalizing node with
  | zero =>
      cases node with
      | literal value =>
          simp only [evaluateWithin]
          exact relates_pure (Json.deepEqual_refl _)
      | array elements =>
          simp only [evaluateWithin]
          exact relates_throw (ConditionError.alike_refl _)
      | function name argument =>
          simp only [evaluateWithin]
          exact relates_throw (ConditionError.alike_refl _)
  | succ levels ih =>
      cases node with
      | literal value =>
          simp only [evaluateWithin]
          exact relates_pure (Json.deepEqual_refl _)
      | array elements =>
          simp only [evaluateWithin]
          have items : representation.Relates (List.Forall₂ Json.Equal)
              (elements.mapM (evaluator.evaluateWithin levels))
              (elements.mapM (evaluator.evaluateWithin levels)) :=
            relates_mapM_of_mem fun node member => ih (calls.of_mem member)
          refine items.bind fun lefts rights equal => relates_pure ?_
          simp only [Json.Equal, Json.deepEqual]
          exact Json.itemsEqual_of_forall₂ equal
      | function name argument =>
          simp only [evaluateWithin, Registry.invoke]
          cases found : evaluator.registry.find? name with
          | none => exact relates_throw (ConditionError.alike_refl _)
          | some handler =>
              rcases calls.handler found with ⟨builtin, notBucket, rfl⟩
              refine (Builtin.relates_handler notBucket ?_).within ?_
              · refine List.forall_mem_cons.mpr ⟨ih calls.argument,
                  fun node member => ?_⟩
                exact ih (calls.argument.of_mem_children member)
              · intro left right alike
                exact ConditionError.alike_inFunction alike name

/--
How numbers are represented cannot be seen by a condition that asks for no
buckets: against two contexts that resolve to equal values it either succeeds
with equal values, or fails with the same functions around root causes of the
same kind.
-/
theorem evaluate_representation
    {evaluator : Evaluator} {root : Node} {left right : Context}
    {leftValue rightValue : Json}
    (calls : root.CallsOnly (· ≠ .bucket) evaluator.registry)
    (leftResolves : left.resolve.1 = .ok leftValue)
    (rightResolves : right.resolve.1 = .ok rightValue)
    (equal : leftValue.deepEqual rightValue = true) :
    (∃ leftResult rightResult,
      evaluator.evaluate left root = .ok leftResult ∧
        evaluator.evaluate right root = .ok rightResult ∧
          leftResult.deepEqual rightResult = true) ∨
    ∃ leftError rightError,
      evaluator.evaluate left root = .error leftError ∧
        evaluator.evaluate right root = .error rightError ∧
          leftError.functionChain = rightError.functionChain ∧
            leftError.rootCause.kind = rightError.rootCause.kind := by
  have related :=
    relates_evaluateWithin calls evaluator.maxDepth ⟨left, []⟩ ⟨right, []⟩
    ⟨leftValue, rightValue, leftResolves, rightResolves, equal⟩
  have outcomes :
      OutcomesRelated Alike Json.Equal (evaluator.evaluate left root)
        (evaluator.evaluate right root) :=
    related.1
  cases leftOutcome : evaluator.evaluate left root with
  | ok leftResult =>
      cases rightOutcome : evaluator.evaluate right root with
      | ok rightResult =>
          rw [leftOutcome, rightOutcome] at outcomes
          exact Or.inl ⟨leftResult, rightResult, rfl, rfl, outcomes⟩
      | error rightError =>
          rw [leftOutcome, rightOutcome] at outcomes
          exact absurd outcomes id
  | error leftError =>
      cases rightOutcome : evaluator.evaluate right root with
      | ok rightResult =>
          rw [leftOutcome, rightOutcome] at outcomes
          exact absurd outcomes id
      | error rightError =>
          rw [leftOutcome, rightOutcome] at outcomes
          exact Or.inr ⟨leftError, rightError, rfl, rfl, outcomes⟩

/-- A condition that looks up the whole context does not tell `1` from `1.0`. -/
theorem evaluate_representation_one :
    ∃ leftResult rightResult,
      evaluate ⟨Registry.empty.add "context" Builtin.context.handler, 1⟩
          (.ofValue (.number (.integer 1 (by decide))))
          (.function "context" (.array [])) = .ok leftResult ∧
        evaluate ⟨Registry.empty.add "context" Builtin.context.handler, 1⟩
            (.ofValue (.number (.float ⟨false, 1023 * 2 ^ 52, by decide⟩)))
            (.function "context" (.array [])) = .ok rightResult ∧
          leftResult.deepEqual rightResult = true := by
  have calls : (Node.function "context" (.array [])).CallsOnly (· ≠ .bucket)
      (Registry.empty.add "context" Builtin.context.handler) := by
    intro name named handler found
    simp only [Node.functionNames, Node.elementNames,
      List.mem_singleton] at named
    subst named
    rw [Registry.find?_add_self, Option.some.injEq] at found
    exact ⟨.context, by decide, found.symm⟩
  have equal : (Json.number (.integer 1 (by decide))).deepEqual
      (.number (.float ⟨false, 1023 * 2 ^ 52, by decide⟩)) = true := by
    decide +kernel
  have resolves (value : Json) :
      (Context.ofValue value).resolve.1 = .ok value :=
    rfl
  have limited : (Node.function "context" (.array [])).CallsOnly (· ≠ .bucket)
      (Evaluator.mk (Registry.empty.add "context" Builtin.context.handler)
        1).registry :=
    calls
  rcases evaluate_representation limited (resolves _) (resolves _) equal with
    found | ⟨leftError, _, failed, _⟩
  · exact found
  · cases failed

end Evaluator

end Criteria
