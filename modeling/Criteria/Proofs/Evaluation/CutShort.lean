import Criteria.Proofs.Evaluation.Alike

/-!
# Evaluations that are cut short

Two evaluations of one tree with different numbers of levels left go the same
way until one of them runs out of levels.  A handler relays this from the nodes
that it has evaluated to its own result; all built-in functions do, since they
follow plans.  So a tree whose handlers relay is evaluated with fewer levels as
it is with more, unless the limit is what it fails for.
-/

namespace Criteria

namespace Evaluation

/--
An evaluation that does what another does from every session, unless it fails
with a certain root cause.
-/
def CutShort {α : Type} (cause : ConditionError) (narrow wide : Evaluation α) :
    Prop :=
  ∀ session,
    (∃ error, (narrow.runFrom session).1 = .error error ∧
      error.rootCause = cause) ∨
    narrow.runFrom session = wide.runFrom session

theorem runFrom_bind_of_error
    {α β : Type} {evaluation : Evaluation α} {session : Session}
    {error : ConditionError}
    (failed : (evaluation.runFrom session).1 = .error error)
    (next : α → Evaluation β) :
    ((evaluation >>= next).runFrom session).1 = .error error := by
  rw [runFrom_bind]
  rcases ran : evaluation.runFrom session with ⟨outcome, after⟩
  rw [ran] at failed
  cases failed
  rfl

theorem runFrom_within_of_error
    {α : Type} {evaluation : Evaluation α} {session : Session}
    {error : ConditionError}
    (failed : (evaluation.runFrom session).1 = .error error) (name : String) :
    ((evaluation.within name).runFrom session).1 =
      .error (.inFunction name error) := by
  rw [runFrom_within]
  rcases ran : evaluation.runFrom session with ⟨outcome, after⟩
  rw [ran] at failed
  cases failed
  rfl

namespace CutShort

variable {α β : Type} {cause : ConditionError}

theorem same (evaluation : Evaluation α) :
    CutShort cause evaluation evaluation :=
  fun _ => Or.inr rfl

/-- A cut in the first part is one of the whole. -/
theorem bind
    {narrow wide : Evaluation α} (first : CutShort cause narrow wide)
    {next other : α → Evaluation β}
    (later : ∀ value, CutShort cause (next value) (other value)) :
    CutShort cause (narrow >>= next) (wide >>= other) := by
  intro session
  rcases first session with ⟨error, failed, root⟩ | equal
  · exact Or.inl ⟨error, runFrom_bind_of_error failed next, root⟩
  · rw [runFrom_bind, runFrom_bind, equal]
    rcases wide.runFrom session with ⟨outcome, after⟩
    cases outcome with
    | ok value => exact later value after
    | error error => exact Or.inr rfl

/-- The name of a function around an error does not touch the root cause. -/
theorem within
    {narrow wide : Evaluation α} (first : CutShort cause narrow wide)
    (name : String) :
    CutShort cause (narrow.within name) (wide.within name) := by
  intro session
  rcases first session with ⟨error, failed, root⟩ | equal
  · exact Or.inl
      ⟨.inFunction name error, runFrom_within_of_error failed name, root⟩
  · rw [runFrom_within, runFrom_within, equal]
    exact Or.inr rfl

end CutShort

end Evaluation

/-! ## Handlers that relay a cut -/

/--
A handler whose result is cut short at most as the nodes below its call are.
-/
def Handler.Relays (handler : Handler) : Prop :=
  ∀ (cause : ConditionError) (narrow wide : Scope) (call : Call),
    narrow.isDefined = wide.isDefined →
    (∀ node, (Node.function call.name call.argument).Below node →
      (narrow.evaluate node).CutShort cause (wide.evaluate node)) →
    (handler narrow call).CutShort cause (handler wide call)

theorem Plan.cutShort_run
    {operands : Node → Prop} {paths : List Json → Prop} {plan : Plan}
    (keeps : plan.Keeps operands paths)
    {cause : ConditionError} {narrow wide : Scope}
    (evaluates : ∀ node, operands node →
      (narrow.evaluate node).CutShort cause (wide.evaluate node)) :
    (plan.run narrow).CutShort cause (plan.run wide) := by
  induction plan with
  | finish => exact .same _
  | lookup => exact .same _
  | operand node next ih =>
      exact (evaluates node keeps.1).bind fun value => ih value (keeps.2 value)

theorem Builtin.relays (builtin : Builtin) : builtin.handler.Relays := by
  intro cause narrow wide call _ evaluates
  rw [handler_eq_run, handler_eq_run]
  exact Plan.cutShort_run (builtin.keeps_plan_below call.name call.argument)
    evaluates

/-- Every function of a tree that has a handler relays a cut. -/
def Node.CallsRelaying (registry : Registry) (node : Node) : Prop :=
  ∀ name ∈ node.functionNames, ∀ handler,
    registry.find? name = some handler → handler.Relays

theorem Node.CallsRelaying.of_contains
    {registry : Registry} {root node : Node}
    (calls : root.CallsRelaying registry) (contains : root.Contains node) :
    node.CallsRelaying registry :=
  fun name named =>
    calls name (functionNames_subset_of_contains contains named)

theorem Node.CallsOnly.callsRelaying
    {allowed : Builtin → Prop} {registry : Registry} {node : Node}
    (calls : node.CallsOnly allowed registry) :
    node.CallsRelaying registry := by
  intro name named handler found
  rcases calls name named handler found with ⟨builtin, _, rfl⟩
  exact builtin.relays

namespace Evaluator

/-- What a handler can do with the levels that are left below its call. -/
def scope (evaluator : Evaluator) (levels : Nat) : Scope :=
  ⟨evaluator.evaluateWithin levels, evaluator.registry.contains⟩

theorem evaluateWithin_array
    (evaluator : Evaluator) (levels : Nat) (elements : List Node) :
    evaluator.evaluateWithin (levels + 1) (.array elements) =
      (Plan.elements elements).run (evaluator.scope levels) := by
  rw [Plan.run_elements]
  rfl

/--
With fewer levels left an evaluation is cut short by the limit, or it is the
same as with more of them.
-/
theorem cutShort_evaluateWithin
    {registry : Registry} (low high : Nat) {node : Node}
    (calls : node.CallsRelaying registry)
    {levels more : Nat} (within : levels ≤ more) :
    (evaluateWithin ⟨registry, low⟩ levels node).CutShort
      (.limitExceeded .evaluationDepth low)
      (evaluateWithin ⟨registry, high⟩ more node) := by
  induction levels generalizing more node with
  | zero =>
      cases node with
      | literal => cases more <;> exact .same _
      | array => exact fun _ => Or.inl ⟨_, rfl, rfl⟩
      | function => exact fun _ => Or.inl ⟨_, rfl, rfl⟩
  | succ levels ih =>
      rcases more with _ | more
      · exact absurd within (Nat.not_succ_le_zero levels)
      have fewer := Nat.le_of_succ_le_succ within
      -- A handler is cut short by what it evaluates, one level down on both
      -- sides.
      have below : ∀ child, node.Below child →
          ((scope ⟨registry, low⟩ levels).evaluate child).CutShort
            (.limitExceeded .evaluationDepth low)
            ((scope ⟨registry, high⟩ more).evaluate child) :=
        fun child stands => ih (calls.of_contains stands.contains) fewer
      cases node with
      | literal => exact .same _
      | array elements =>
          rw [evaluateWithin_array, evaluateWithin_array]
          exact Plan.cutShort_run (Plan.keeps_elements elements)
            fun child member => below child (.single member)
      | function name argument =>
          rw [evaluateWithin, evaluateWithin, Registry.invoke, Registry.invoke]
          simp only
          cases found : registry.find? name with
          | none => exact .same _
          | some handler =>
              have relays := calls name List.mem_cons_self handler found
              have relayed := relays _ (scope ⟨registry, low⟩ levels)
                (scope ⟨registry, high⟩ more) ⟨name, argument⟩ rfl below
              exact relayed.within name

/-- A value that is found with fewer levels is found with more of them. -/
theorem outcome_eq_ok_of_le
    {evaluator : Evaluator} {context : Context} {node : Node}
    (calls : node.CallsRelaying evaluator.registry)
    {levels more : Nat} (within : levels ≤ more) {value : Json}
    (found : evaluator.outcome context levels node = .ok value) :
    evaluator.outcome context more node = .ok value := by
  rcases cutShort_evaluateWithin evaluator.maxDepth evaluator.maxDepth calls
    within ⟨context, []⟩ with ⟨error, failed, _⟩ | same
  · cases found.symm.trans failed
  · exact (congrArg Prod.fst same).symm.trans found

end Evaluator

end Criteria
