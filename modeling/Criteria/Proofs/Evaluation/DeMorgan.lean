import Criteria.Proofs.Evaluation.Alike
import Criteria.Proofs.Evaluation.Bindings

/-!
# De Morgan's laws with failures

A negated conjunction goes the same way as the disjunction of the negated
operands, and a negated disjunction as their conjunction.  Both end at the same
operand, with opposite truths, and both fail as that operand does; only the
names around the error differ.  So the laws are equations between evaluations
once the names around errors are taken away.
-/

namespace Criteria

namespace Evaluation

variable {α β : Type}

/-- The same computation, failing with root causes only. -/
def unattributed (evaluation : Evaluation α) : Evaluation α :=
  ExceptT.mk fun session =>
    ((evaluation.runFrom session).1.mapError ConditionError.rootCause,
      (evaluation.runFrom session).2)

theorem runFrom_unattributed (evaluation : Evaluation α) (session : Session) :
    evaluation.unattributed.runFrom session =
      ((evaluation.runFrom session).1.mapError ConditionError.rootCause,
        (evaluation.runFrom session).2) := rfl

@[simp]
theorem unattributed_pure (value : α) :
    (pure value : Evaluation α).unattributed = pure value := rfl

/-- Names around errors do not change root causes. -/
@[simp]
theorem unattributed_within (evaluation : Evaluation α) (name : String) :
    (evaluation.within name).unattributed = evaluation.unattributed := by
  refine funext fun session => ?_
  change (evaluation.within name).unattributed.runFrom session =
    evaluation.unattributed.runFrom session
  rw [runFrom_unattributed, runFrom_unattributed, runFrom_within]
  rcases evaluation.runFrom session with ⟨outcome, after⟩
  cases outcome with
  | ok => rfl
  | error error =>
      simp only [Except.mapError, ConditionError.rootCause_inFunction]

@[simp]
theorem unattributed_bind
    (evaluation : Evaluation α) (next : α → Evaluation β) :
    (evaluation >>= next).unattributed =
      evaluation.unattributed >>= fun value => (next value).unattributed := by
  refine funext fun session => ?_
  change (evaluation >>= next).unattributed.runFrom session =
    (evaluation.unattributed >>= fun value =>
      (next value).unattributed).runFrom session
  rw [runFrom_unattributed, runFrom_bind, runFrom_bind, runFrom_unattributed]
  rcases evaluation.runFrom session with ⟨outcome, after⟩
  cases outcome <;> rfl

end Evaluation

namespace Builtin

/-- The opposite truth of a value. -/
def negated (value : Json) : Json :=
  .bool !value.isTruthy

theorem run_plan_negation (scope : Scope) (argument : Node) :
    (negation.plan argument).run scope =
      scope.evaluate argument >>= fun value => pure (negated value) := rfl

/--
Two scopes, the second of which evaluates functions of a name as the first
evaluates their arguments, but to the opposite truth.
-/
def Negates (name : String) (scope other : Scope) : Prop :=
  ∀ node, (other.evaluate (.function name node)).unattributed =
    (scope.evaluate node).unattributed >>= fun value => pure (negated value)

/--
The plan with the other decisive truth, on negated operands, comes to the
opposite truth.
-/
theorem unattributed_run_junctionPlan
    {name : String} {scope other : Scope} (negates : Negates name scope other)
    (decisive : Bool) (nodes : List Node) :
    ((junctionPlan decisive nodes).run scope).unattributed >>=
        (fun value => pure (negated value)) =
      ((junctionPlan (!decisive) (nodes.map (.function name))).run
        other).unattributed := by
  induction nodes with
  | nil => rfl
  | cons node nodes ih =>
      simp only [junctionPlan, List.map_cons, Plan.run,
        Evaluation.unattributed_bind, negates node, bind_assoc, pure_bind]
      refine bind_congr fun value => ?_
      have opposite : (negated value).isTruthy = !decisive ↔
          value.isTruthy = decisive := by
        simp [negated, Json.isTruthy]
      by_cases decides : value.isTruthy = decisive
      · rw [if_pos decides, if_pos (opposite.mpr decides)]
        rfl
      · rw [if_neg decides, if_neg (decides ∘ opposite.mp)]
        exact ih

end Builtin

namespace Evaluator

/--
Two runs leave the same session, and either both come to the same truth or both
fail with the same root cause.
-/
def AgreeOnTruth (left right : Except ConditionError Json × Session) : Prop :=
  left.2 = right.2 ∧
    ((∃ truth, left.1 = .ok (.bool truth) ∧ right.1 = .ok (.bool truth)) ∨
      ∃ first second, left.1 = .error first ∧ right.1 = .error second ∧
        first.rootCause = second.rootCause)

/-- What an evaluation does that comes to the opposite truth of another one. -/
theorem runFrom_of_negated
    {evaluation inner : Evaluation Json}
    (negates : evaluation.unattributed =
      inner >>= fun value => pure (Builtin.negated value))
    (session : Session) :
    (∃ value after, inner.runFrom session = (.ok value, after) ∧
        evaluation.runFrom session = (.ok (Builtin.negated value), after)) ∨
      ∃ error after, inner.runFrom session = (.error error.rootCause, after) ∧
        evaluation.runFrom session = (.error error, after) := by
  have ran := congrArg (Evaluation.runFrom session) negates
  rw [Evaluation.runFrom_unattributed, Evaluation.runFrom_bind] at ran
  rcases inside : inner.runFrom session with ⟨found, after⟩
  rcases outside : evaluation.runFrom session with ⟨outcome, final⟩
  rw [inside, outside] at ran
  cases found with
  | ok value =>
      cases outcome with
      | ok =>
          cases ran
          exact Or.inl ⟨value, _, rfl, rfl⟩
      | error => cases ran
  | error cause =>
      cases outcome with
      | ok => cases ran
      | error error =>
          cases ran
          exact Or.inr ⟨error, _, rfl, rfl⟩

/-- Evaluations that both come to the opposite truth of a third one agree. -/
theorem agreeOnTruth_of_negated
    {left right inner : Evaluation Json}
    (first : left.unattributed =
      inner >>= fun value => pure (Builtin.negated value))
    (second : right.unattributed =
      inner >>= fun value => pure (Builtin.negated value))
    (session : Session) :
    AgreeOnTruth (left.runFrom session) (right.runFrom session) := by
  rcases runFrom_of_negated first session with
    ⟨value, after, inside, leftRun⟩ | ⟨leftError, after, inside, leftRun⟩
  · rcases runFrom_of_negated second session with
      ⟨_, _, again, rightRun⟩ | ⟨_, _, again, _⟩
    · cases inside.symm.trans again
      rw [leftRun, rightRun]
      exact ⟨rfl, Or.inl ⟨_, rfl, rfl⟩⟩
    · cases inside.symm.trans again
  · rcases runFrom_of_negated second session with
      ⟨_, _, again, _⟩ | ⟨rightError, _, again, rightRun⟩
    · cases inside.symm.trans again
    · have both := Prod.mk.inj (inside.symm.trans again)
      rw [leftRun, rightRun]
      exact ⟨both.2, Or.inr ⟨leftError, rightError, rfl, rfl,
        Except.error.inj both.1⟩⟩

variable {evaluator : Evaluator}

/-- A function bound to the negation comes to the opposite truth. -/
theorem unattributed_negation
    {notName : String}
    (negation : evaluator.registry.find? notName =
      some Builtin.negation.handler)
    (levels : Nat) (argument : Node) :
    (evaluator.evaluateWithin (levels + 1)
      (.function notName argument)).unattributed =
        (evaluator.evaluateWithin levels argument).unattributed >>=
          fun value => pure (Builtin.negated value) := by
  rw [evaluateWithin_function negation, Builtin.run_plan_negation]
  simp only [Evaluation.unattributed_within, Evaluation.unattributed_bind,
    Evaluation.unattributed_pure]

/-- A function bound to a conjunction or a disjunction follows its plan. -/
theorem unattributed_junction
    {name : String} {decisive : Bool}
    (found : evaluator.registry.find? name =
      some (Builtin.junction decisive).handler)
    (levels : Nat) (nodes : List Node) :
    (evaluator.evaluateWithin (levels + 1)
      (.function name (.array nodes))).unattributed =
        ((Builtin.junctionPlan decisive nodes).run
          ⟨evaluator.evaluateWithin levels,
            evaluator.registry.contains⟩).unattributed := by
  rw [evaluateWithin_function found, Evaluation.unattributed_within,
    Builtin.plan_junction]

/-- One of the two laws, as the decisive truth says. -/
theorem agreeOnTruth_negated_junction
    {name dual notName : String} {decisive : Bool}
    (found : evaluator.registry.find? name =
      some (Builtin.junction decisive).handler)
    (dually : evaluator.registry.find? dual =
      some (Builtin.junction !decisive).handler)
    (negation : evaluator.registry.find? notName =
      some Builtin.negation.handler)
    (levels : Nat) (session : Session) (nodes : List Node) :
    AgreeOnTruth
      (evaluator.runWithin (levels + 2) session
        (.function notName (.function name (.array nodes))))
      (evaluator.runWithin (levels + 2) session
        (.function dual (.array (nodes.map (.function notName))))) := by
  have negates : Builtin.Negates notName
      ⟨evaluator.evaluateWithin levels, evaluator.registry.contains⟩
      ⟨evaluator.evaluateWithin (levels + 1), evaluator.registry.contains⟩ :=
    unattributed_negation negation levels
  have opposite :=
    unattributed_negation negation (levels + 1) (.function name (.array nodes))
  rw [unattributed_junction found] at opposite
  refine agreeOnTruth_of_negated opposite ?_ session
  rw [unattributed_junction dually]
  exact (Builtin.unattributed_run_junctionPlan negates decisive nodes).symm

/--
De Morgan's laws.  Whatever else is bound, with two levels left a negated
conjunction and the disjunction of the negated operands come to the same truth
or fail with the same root cause, and leave the context in the same state; and
so do a negated disjunction and the conjunction of the negated operands.
-/
theorem deMorgan
    {andName orName notName : String}
    (conjunction : evaluator.registry.find? andName =
      some Builtin.conjunction.handler)
    (disjunction : evaluator.registry.find? orName =
      some Builtin.disjunction.handler)
    (negation : evaluator.registry.find? notName =
      some Builtin.negation.handler)
    {levels : Nat} (enough : 2 ≤ levels) (session : Session)
    (nodes : List Node) :
    AgreeOnTruth
        (evaluator.runWithin levels session
          (.function notName (.function andName (.array nodes))))
        (evaluator.runWithin levels session
          (.function orName (.array (nodes.map (.function notName))))) ∧
      AgreeOnTruth
        (evaluator.runWithin levels session
          (.function notName (.function orName (.array nodes))))
        (evaluator.runWithin levels session
          (.function andName (.array (nodes.map (.function notName))))) := by
  rcases Nat.exists_eq_add_of_le' enough with ⟨left, rfl⟩
  have byConjunction : evaluator.registry.find? andName =
      some (Builtin.junction false).handler := conjunction
  have byDisjunction : evaluator.registry.find? orName =
      some (Builtin.junction true).handler := disjunction
  exact ⟨
    agreeOnTruth_negated_junction byConjunction byDisjunction negation left
      session nodes,
    agreeOnTruth_negated_junction byDisjunction byConjunction negation left
      session nodes⟩

/-- An unknown function behind a truth is called on both sides of the law. -/
theorem deMorgan_unknown :
    2 ≤ standard.maxDepth ∧
      AgreeOnTruth
        (standard.runWithin standard.maxDepth ⟨.empty, []⟩
          (.function "not" (.function "and" (.array
            [.literal (.boolean true), .function "nope" (.literal .null)]))))
        (standard.runWithin standard.maxDepth ⟨.empty, []⟩
          (.function "or" (.array
            [.function "not" (.literal (.boolean true)),
              .function "not" (.function "nope" (.literal .null))]))) := by
  have enough : 2 ≤ standard.maxDepth := by decide
  have laws := @deMorgan standard _ _ _
    (Registry.find?_builtins_name .conjunction)
    (Registry.find?_builtins_name .disjunction)
    (Registry.find?_builtins_name .negation) _ enough ⟨.empty, []⟩
    [.literal (.boolean true), .function "nope" (.literal .null)]
  exact ⟨enough, laws.1⟩

end Evaluator

end Criteria
