import Mathlib.Data.List.Forall2
import Criteria.Evaluation.Registry

/-!
# Two evaluations side by side

A simulation says what two sessions, and two errors, have in common.  Two
evaluations are related when from sessions with that in common they either
both succeed with related results or both fail with related errors, and leave
sessions with that in common.  The rules below follow the ways in which
evaluations are put together.
-/

namespace Criteria

/-- What two sessions and what two errors have in common. -/
structure Simulation where
  sessions : Session → Session → Prop
  errors : ConditionError → ConditionError → Prop

/--
Outcomes that are both successes with related results or both failures with
related errors.
-/
def OutcomesRelated {α β : Type}
    (errors : ConditionError → ConditionError → Prop) (results : α → β → Prop) :
    Except ConditionError α → Except ConditionError β → Prop
  | .ok left, .ok right => results left right
  | .error left, .error right => errors left right
  | .ok _, .error _ | .error _, .ok _ => False

namespace OutcomesRelated

section

variable {α β : Type} {errors : ConditionError → ConditionError → Prop}
variable {results : α → β → Prop}

/-- Related outcomes are both successes or both failures. -/
theorem ok_or_error
    {left : Except ConditionError α} {right : Except ConditionError β}
    (related : OutcomesRelated errors results left right) :
    (∃ leftResult rightResult, left = .ok leftResult ∧
        right = .ok rightResult ∧ results leftResult rightResult) ∨
      ∃ leftError rightError, left = .error leftError ∧
        right = .error rightError ∧ errors leftError rightError := by
  cases left with
  | ok leftResult =>
      cases right with
      | ok rightResult =>
          exact Or.inl ⟨leftResult, rightResult, rfl, rfl, related⟩
      | error => exact absurd related id
  | error leftError =>
      cases right with
      | ok => exact absurd related id
      | error rightError =>
          exact Or.inr ⟨leftError, rightError, rfl, rfl, related⟩

end

variable {α : Type} {left right : Except ConditionError α}

theorem eq (related : OutcomesRelated Eq Eq left right) : left = right := by
  rcases related.ok_or_error with
    ⟨_, _, rfl, rfl, rfl⟩ | ⟨_, _, rfl, rfl, rfl⟩
  · rfl
  · rfl

/-- What is related to a success is the same success. -/
theorem eq_ok
    {errors : ConditionError → ConditionError → Prop} {value : α}
    (related : OutcomesRelated errors Eq left (.ok value)) :
    left = .ok value := by
  rcases related.ok_or_error with
    ⟨_, _, rfl, same, rfl⟩ | ⟨_, _, _, impossible, _⟩
  · exact same.symm
  · cases impossible

theorem of_eq (same : left = right) : OutcomesRelated Eq Eq left right := by
  subst same
  cases left <;> exact rfl

end OutcomesRelated

namespace Evaluation

section

variable {α β : Type} (session : Session)

@[simp]
theorem runFrom_pure (value : α) :
    (pure value : Evaluation α).runFrom session = (.ok value, session) := rfl

@[simp]
theorem runFrom_ofExcept (outcome : Except ConditionError α) :
    (ofExcept outcome).runFrom session = (outcome, session) := rfl

@[simp]
theorem runFrom_lookupContext (path : List Json) :
    (lookupContext path).runFrom session =
      ((session.context.lookup path).1,
        { session with context := (session.context.lookup path).2 }) := rfl

theorem runFrom_bind (evaluation : Evaluation α) (next : α → Evaluation β) :
    (evaluation >>= next).runFrom session =
      match evaluation.runFrom session with
      | (.ok value, after) => (next value).runFrom after
      | (.error error, after) => (.error error, after) := by
  have unfolded : (evaluation >>= next).runFrom session =
      (ExceptT.bindCont next (evaluation.runFrom session).1).run
        (evaluation.runFrom session).2 := rfl
  rw [unfolded]
  rcases evaluation.runFrom session with ⟨outcome, after⟩
  cases outcome <;> rfl

theorem runFrom_within (name : String) (evaluation : Evaluation α) :
    (evaluation.within name).runFrom session =
      match evaluation.runFrom session with
      | (.ok value, after) => (.ok value, after)
      | (.error error, after) => (.error (.inFunction name error), after) := rfl

end

end Evaluation

namespace Simulation

variable {simulation : Simulation} {α β γ δ : Type}

/--
Evaluations that have outcomes and sessions in common when they start with that
in common.
-/
def Relates (simulation : Simulation) (results : α → β → Prop)
    (left : Evaluation α) (right : Evaluation β) : Prop :=
  ∀ leftSession rightSession, simulation.sessions leftSession rightSession →
    OutcomesRelated simulation.errors results
        (left.runFrom leftSession).1 (right.runFrom rightSession).1 ∧
      simulation.sessions (left.runFrom leftSession).2
        (right.runFrom rightSession).2

theorem relates_pure
    {results : α → β → Prop} {left : α} {right : β}
    (related : results left right) :
    simulation.Relates results (pure left) (pure right) :=
  fun _ _ sessions => ⟨related, sessions⟩

theorem relates_throw
    {results : α → β → Prop} {left right : ConditionError}
    (related : simulation.errors left right) :
    simulation.Relates results (throw left) (throw right) :=
  fun _ _ sessions => ⟨related, sessions⟩

theorem relates_ofExcept
    {results : α → β → Prop} {left : Except ConditionError α}
    {right : Except ConditionError β}
    (related : OutcomesRelated simulation.errors results left right) :
    simulation.Relates results (Evaluation.ofExcept left)
      (Evaluation.ofExcept right) :=
  fun _ _ sessions => ⟨related, sessions⟩

/-- Related evaluations followed by related evaluations are related. -/
theorem Relates.bind
    {results : α → β → Prop} {later : γ → δ → Prop}
    {left : Evaluation α} {right : Evaluation β}
    {leftNext : α → Evaluation γ} {rightNext : β → Evaluation δ}
    (first : simulation.Relates results left right)
    (next : ∀ leftValue rightValue, results leftValue rightValue →
      simulation.Relates later (leftNext leftValue) (rightNext rightValue)) :
    simulation.Relates later (left >>= leftNext) (right >>= rightNext) := by
  intro leftSession rightSession sessions
  rcases first leftSession rightSession sessions with ⟨outcomes, after⟩
  rw [Evaluation.runFrom_bind, Evaluation.runFrom_bind]
  rcases leftRun : left.runFrom leftSession with ⟨leftOutcome, leftAfter⟩
  rcases rightRun : right.runFrom rightSession with ⟨rightOutcome, rightAfter⟩
  rw [leftRun, rightRun] at outcomes after
  rcases outcomes.ok_or_error with
    ⟨leftValue, rightValue, rfl, rfl, values⟩ | ⟨_, _, rfl, rfl, failures⟩
  · exact next leftValue rightValue values leftAfter rightAfter after
  · exact ⟨failures, after⟩

/-- Evaluating lists item by item relates the lists of results. -/
theorem relates_mapM
    {items : α → β → Prop} {results : γ → δ → Prop}
    {lefts : List α} {rights : List β}
    {evaluateLeft : α → Evaluation γ} {evaluateRight : β → Evaluation δ}
    (aligned : List.Forall₂ items lefts rights)
    (related : ∀ left right, items left right →
      simulation.Relates results (evaluateLeft left) (evaluateRight right)) :
    simulation.Relates (List.Forall₂ results) (lefts.mapM evaluateLeft)
      (rights.mapM evaluateRight) := by
  induction aligned with
  | nil =>
      rw [List.mapM_nil, List.mapM_nil]
      exact relates_pure .nil
  | cons first _ ih =>
      rw [List.mapM_cons, List.mapM_cons]
      refine (related _ _ first).bind fun leftValue rightValue value => ?_
      refine ih.bind fun leftValues rightValues values => ?_
      exact relates_pure (.cons value values)

/--
Evaluating the items of one list in two ways relates the lists of results.
-/
theorem relates_mapM_of_mem
    {results : γ → δ → Prop} {items : List α}
    {evaluateLeft : α → Evaluation γ} {evaluateRight : α → Evaluation δ}
    (related : ∀ item ∈ items,
      simulation.Relates results (evaluateLeft item) (evaluateRight item)) :
    simulation.Relates (List.Forall₂ results) (items.mapM evaluateLeft)
      (items.mapM evaluateRight) := by
  have aligned :
      List.Forall₂ (fun left right => left = right ∧ left ∈ items)
        items items :=
    List.forall₂_same.mpr fun item member => ⟨rfl, member⟩
  apply relates_mapM aligned
  rintro item _ ⟨rfl, member⟩
  exact related item member

/-- Function names around related errors keep evaluations related. -/
theorem Relates.within
    {results : α → β → Prop} {left : Evaluation α} {right : Evaluation β}
    (first : simulation.Relates results left right)
    {leftName rightName : String}
    (wrapped : ∀ leftError rightError, simulation.errors leftError rightError →
      simulation.errors (.inFunction leftName leftError)
        (.inFunction rightName rightError)) :
    simulation.Relates results (left.within leftName)
      (right.within rightName) := by
  intro leftSession rightSession sessions
  rcases first leftSession rightSession sessions with ⟨outcomes, after⟩
  rw [Evaluation.runFrom_within, Evaluation.runFrom_within]
  rcases leftRun : left.runFrom leftSession with ⟨leftOutcome, leftAfter⟩
  rcases rightRun : right.runFrom rightSession with ⟨rightOutcome, rightAfter⟩
  rw [leftRun, rightRun] at outcomes after
  rcases outcomes.ok_or_error with
    ⟨_, _, rfl, rfl, values⟩ | ⟨leftError, rightError, rfl, rfl, failures⟩
  · exact ⟨values, after⟩
  · exact ⟨wrapped leftError rightError failures, after⟩

end Simulation

end Criteria
