import Criteria.Proofs.Evaluation.Depth
import Criteria.Proofs.Node.Data

/-!
# Data evaluates to itself

The condition that a value without objects is has that value, up to the form
of its numbers: what is written as an integer beyond `2 ^ 53` or with a
fraction of zeros comes back as the double next to it, or as the integer that
it is.  A number that evaluation itself has made of a double comes back as it
was, because the form depends on the value of the double only.  So among the
values of conditions without functions the equal ones are the same.
-/

namespace Criteria

namespace Json

/-! ## Conditions without functions -/

mutual

@[simp]
theorem functionNames_condition (value : Json) (free : value.ObjectFree) :
    (value.condition free).functionNames = [] := by
  match value with
  | .null | .bool _ | .number _ | .string _ => rfl
  | .array items => exact elementNames_conditions items free
  | .object _ => exact free.elim

theorem elementNames_conditions
    (items : List Json) (free : ItemsObjectFree items) :
    Node.elementNames (conditions items free) = [] := by
  match items with
  | [] => rfl
  | item :: items =>
      rw [conditions, Node.elementNames, functionNames_condition item,
        elementNames_conditions items, List.append_nil]

end

end Json

/-- Doubles give the number that a literal denotes. -/
theorem Literal.everyNumber_toJson (literal : Literal) :
    literal.toJson.EveryNumber Number.IsOwn := by
  cases literal with
  | number double =>
      cases double with
      | finite value =>
          rcases Double.exists_toJson_finite value with ⟨number, given, _⟩
          have own := Number.isOwn_of_toJson given
          rw [toJson, given]
          exact own
      | infinite => exact trivial
      | nan => exact trivial
  | string => exact trivial
  | boolean => exact trivial
  | null => exact trivial

namespace Evaluator

variable {evaluator : Evaluator} {context : Context}

/-- Doubles give the numbers in the value of a tree without functions. -/
theorem everyNumber_of_outcome_eq_ok
    {root : Node} (free : root.functionNames = []) {levels : Nat} {value : Json}
    (succeeded : evaluator.outcome context levels root = .ok value) :
    value.EveryNumber Number.IsOwn := by
  induction levels generalizing root value with
  | zero =>
      cases root with
      | literal literal =>
          cases succeeded
          exact literal.everyNumber_toJson
      | array => cases succeeded
      | function => cases free
  | succ levels ih =>
      cases root with
      | literal literal =>
          cases succeeded
          exact literal.everyNumber_toJson
      | function => cases free
      | array elements =>
          rcases exists_items_of_outcome_eq_ok free succeeded with
            ⟨items, rfl, evaluated⟩
          have names : Node.elementNames elements = [] := free
          clear succeeded free
          induction evaluated with
          | nil => exact trivial
          | cons first _ others =>
              rcases List.append_eq_nil_iff.mp names with
                ⟨firstFree, othersFree⟩
              exact ⟨ih firstFree first, others othersFree⟩

mutual

/-- As a condition, a value without objects has a value that is equal to it. -/
theorem deepEqual_of_outcome_condition
    (value : Json) (free : value.ObjectFree) {levels : Nat} {result : Json}
    (succeeded :
      evaluator.outcome context levels (value.condition free) = .ok result) :
    result.deepEqual value = true := by
  match value with
  | .null | .bool _ | .string _ =>
      rw [Json.condition, outcome_literal] at succeeded
      cases succeeded
      exact Json.deepEqual_refl _
  | .number number =>
      rw [Json.condition, outcome_literal, Literal.toJson] at succeeded
      rcases number.exists_toDouble_eq_finite with ⟨double, finite⟩
      rcases Double.exists_toJson_finite double with ⟨other, given, same⟩
      rw [finite, given] at succeeded
      cases succeeded
      rw [← finite] at same
      exact same
  | .array items =>
      cases levels with
      | zero => cases succeeded
      | succ levels =>
          rcases exists_items_of_outcome_eq_ok
            (Json.elementNames_conditions items free) succeeded with
            ⟨results, rfl, evaluated⟩
          exact itemsEqual_of_outcome_conditions items free evaluated
  | .object _ => exact free.elim

theorem itemsEqual_of_outcome_conditions
    (items : List Json) (free : Json.ItemsObjectFree items) {levels : Nat}
    {results : List Json}
    (evaluated :
      List.Forall₂
        (fun node item => evaluator.outcome context levels node = .ok item)
        (Json.conditions items free) results) :
    Json.itemsEqual results items = true := by
  match items with
  | [] =>
      cases evaluated
      rfl
  | item :: items =>
      cases evaluated with
      | cons first others =>
          rw [Json.itemsEqual, deepEqual_of_outcome_condition item free.1 first,
            itemsEqual_of_outcome_conditions items free.2 others, Bool.and_self]

end

end Evaluator

namespace Json

/--
Data is its own condition.  The canonical text and the compact text of a value
without objects parse, within limits that allow for the nesting and the size of
the value, as a condition whose value is equal to it; and it is the same if a
condition without functions has that value, for then no number changes its
form.
-/
theorem data_evaluates_to_itself
    {value : Json} (free : value.ObjectFree) {text : String}
    (written : text = value.canonicalText ∨ text = value.compactText)
    {limits : Limits} (shallow : value.nesting ≤ limits.maxDepth)
    (small : value.size ≤ limits.maxNodes) :
    ∃ root, parse limits text = .ok root ∧
      root.nesting = value.nesting ∧ root.nodeCount = value.size ∧
      ∀ (evaluator : Evaluator) (context : Context), ∃ result,
        (evaluator.withLimits limits).evaluate context root = .ok result ∧
        result.deepEqual value = true ∧
        ∀ (producer : Evaluator) (past : Context) (source : Node),
          source.functionNames = [] →
            producer.evaluate past source = .ok value → result = value := by
  refine ⟨value.condition free, ?_, nesting_condition value free,
    nodeCount_condition value free, fun evaluator context => ?_⟩
  · rcases written with rfl | rfl
    · exact parse_write Style.canonical_faithful free shallow small
    · exact parse_write Style.compact_faithful free shallow small
  · have noNames := functionNames_condition value free
    have within : (value.condition free).nesting ≤ limits.maxDepth :=
      nesting_condition value free ▸ shallow
    rcases Evaluator.exists_outcome_eq_ok noNames within with
      ⟨result, succeeded⟩
    have equal := Evaluator.deepEqual_of_outcome_condition value free succeeded
    refine ⟨result, succeeded, equal, ?_⟩
    intro producer past source sourceFree produced
    exact eq_of_deepEqual
      (Evaluator.everyNumber_of_outcome_eq_ok noNames succeeded)
      (Evaluator.everyNumber_of_outcome_eq_ok sourceFree produced) equal

/-- The array of one and null, which a condition without functions has. -/
theorem data_evaluates_to_itself_pair :
    ∃ root, parse ⟨1, 3⟩ "[1,null]" = .ok root ∧
      ∀ (evaluator : Evaluator) (context : Context),
        (evaluator.withLimits ⟨1, 3⟩).evaluate context root =
          .ok (.array [.number (.integer 1 (by decide)), .null]) := by
  have one : (Double.ofInt 1).toJson = .number (.integer 1 (by decide)) :=
    Double.toJson_ofInt_of_natAbs_le (by decide)
  have produced :
      Evaluator.empty.evaluate .empty
          (.array [.literal (.number (.ofInt 1)), .literal .null]) =
        .ok (.array [(Double.ofInt 1).toJson, .null]) := rfl
  rw [one] at produced
  have free :
      (array [.number (.integer 1 (by decide)), .null]).ObjectFree :=
    ⟨trivial, trivial, trivial⟩
  rcases data_evaluates_to_itself free (Or.inl (by decide : "[1,null]" = _))
      (by decide : _ ≤ (⟨1, 3⟩ : Limits).maxDepth) (by decide) with
    ⟨root, parsed, _, _, evaluates⟩
  refine ⟨root, parsed, fun evaluator context => ?_⟩
  rcases evaluates evaluator context with ⟨result, succeeded, _, same⟩
  rw [succeeded, same .empty .empty _ rfl produced]

end Json

end Criteria
