import Criteria.Proofs.Evaluation.Bindings
import Criteria.Proofs.Evaluation.Reach
import Criteria.Proofs.Node.Acceptance

/-!
# Evaluation within the nesting limit

Reading a condition and evaluating it count levels separately.  The two counts
agree: a task that is begun stands below the one that begins it, so the levels
that are left always cover the nesting that is left.  A tree that nests no
deeper than the limit is thus evaluated without ever hitting it, and a tree
without functions is evaluated with success exactly if it does not nest deeper.
-/

namespace Criteria

namespace Node

theorem greatestNesting_le
    {nodes : List Node} {bound : Nat}
    (all : ∀ node ∈ nodes, node.nesting ≤ bound) :
    greatestNesting nodes ≤ bound := by
  induction nodes with
  | nil => exact Nat.zero_le bound
  | cons node nodes ih =>
      rcases List.forall_mem_cons.mp all with ⟨first, others⟩
      exact Nat.max_le.mpr ⟨first, ih others⟩

end Node

theorem exists_of_forall₂
    {α β : Type} {related : α → β → Prop} {lefts : List α} {rights : List β}
    (all : List.Forall₂ related lefts rights) {left : α}
    (member : left ∈ lefts) :
    ∃ right, related left right := by
  induction all with
  | nil => cases member
  | @cons first other _ _ pair _ ih =>
      rcases List.mem_cons.mp member with rfl | later
      · exact ⟨other, pair⟩
      · exact ih later

namespace Evaluator

variable {evaluator : Evaluator} {context : Context} {root : Node}

/--
A tree that nests no deeper than there are levels never fails for want of
levels.
-/
theorem rootCause_ne_limitExceeded
    (calls : root.CallsBuiltins evaluator.registry) {levels : Nat}
    (shallow : root.nesting ≤ levels) {error : ConditionError}
    (failed : evaluator.outcome context levels root = .error error)
    (limit : Limit) (maximum : Nat) :
    error.rootCause ≠ .limitExceeded limit maximum := by
  intro limited
  rcases exists_origin calls failed with ⟨task, reaches, origin⟩
  have left := reaches.nesting_le shallow
  rw [limited] at origin
  cases origin with
  | tooDeep nested => exact absurd left (Nat.not_le.mpr nested)
  | own found own => exact own

/--
An array without functions that has a value has the array of the values of its
elements.
-/
theorem exists_items_of_outcome_eq_ok
    {elements : List Node} (free : (Node.array elements).functionNames = [])
    {levels : Nat} {value : Json}
    (succeeded :
      evaluator.outcome context (levels + 1) (.array elements) = .ok value) :
    ∃ items, value = .array items ∧
      List.Forall₂
        (fun node item => evaluator.outcome context levels node = .ok item)
        elements items := by
  have calls := Node.callsBuiltins_of_functionNames_eq_nil free
    evaluator.registry
  have follows : evaluator.Follows (.array elements) _ := .array elements
  rw [follows.outcome_eq calls,
    ConditionError.mapError_inside_array] at succeeded
  rcases Plan.exists_of_outcome_values_eq_ok succeeded with
    ⟨items, evaluated, finished⟩
  cases finished
  exact ⟨items, rfl, evaluated⟩

/-- A tree without functions that has a value nests no deeper than levels. -/
theorem nesting_le_of_outcome_eq_ok
    (free : root.functionNames = []) {levels : Nat} {value : Json}
    (succeeded : evaluator.outcome context levels root = .ok value) :
    root.nesting ≤ levels := by
  induction levels generalizing root value with
  | zero =>
      refine Nat.le_of_not_lt fun nested => ?_
      rw [outcome_zero nested] at succeeded
      cases succeeded
  | succ levels ih =>
      cases root with
      | literal => exact Nat.zero_le _
      | function => cases free
      | array elements =>
          rcases exists_items_of_outcome_eq_ok free succeeded with
            ⟨_, _, evaluated⟩
          refine Nat.succ_le_succ (Node.greatestNesting_le ?_)
          intro node member
          have inner : node.functionNames = [] := by
            have contains : (Node.array elements).Contains node :=
              .single member
            exact List.subset_nil.mp
              (free ▸ Node.functionNames_subset_of_contains contains)
          rcases exists_of_forall₂ evaluated member with ⟨result, succeeds⟩
          exact ih inner succeeds

/-- A tree without functions that nests no deeper than levels has a value. -/
theorem exists_outcome_eq_ok
    (free : root.functionNames = []) {levels : Nat}
    (shallow : root.nesting ≤ levels) :
    ∃ value, evaluator.outcome context levels root = .ok value := by
  cases outcome : evaluator.outcome context levels root with
  | ok value => exact ⟨value, rfl⟩
  | error error =>
      have calls := Node.callsBuiltins_of_functionNames_eq_nil free
        evaluator.registry
      rcases exists_origin calls outcome with ⟨task, reaches, origin⟩
      have contains := reaches.contains
      have left := reaches.nesting_le shallow
      generalize error.rootCause = cause at origin
      cases origin with
      | tooDeep nested => exact absurd left (Nat.not_le.mpr nested)
      | unbound =>
          have named := Node.mem_functionNames_of_contains contains
          rw [free] at named
          cases named
      | own =>
          have named := Node.mem_functionNames_of_contains contains
          rw [free] at named
          cases named

/--
The limits of reading cover evaluation: a condition that was read within limits
is never refused by them when it is evaluated, nor is any tree that nests no
deeper than the evaluator allows; and without functions it has a value exactly
if it nests no deeper.
-/
theorem evaluation_depth_suffices
    (evaluator : Evaluator) (context : Context) :
    (∀ limits text root, root.CallsBuiltins evaluator.registry →
      parse limits text = .ok root → ∀ error,
        (evaluator.withLimits limits).evaluate context root = .error error →
          ∀ limit maximum,
            error.rootCause ≠ .limitExceeded limit maximum) ∧
    (∀ root : Node, root.CallsBuiltins evaluator.registry →
      root.nesting ≤ evaluator.maxDepth → ∀ error,
        evaluator.evaluate context root = .error error →
          ∀ limit maximum,
            error.rootCause ≠ .limitExceeded limit maximum) ∧
    ∀ root : Node, root.functionNames = [] →
      ((∃ value, evaluator.evaluate context root = .ok value) ↔
        root.nesting ≤ evaluator.maxDepth) := by
  refine ⟨?_, ?_, ?_⟩
  · intro limits text root calls parsed error failed
    have within := (parse_eq_ok_iff.mp parsed).2
    have callsWithin :
        root.CallsBuiltins (evaluator.withLimits limits).registry := calls
    exact rootCause_ne_limitExceeded callsWithin within.1 failed
  · intro root calls shallow error failed
    exact rootCause_ne_limitExceeded calls shallow failed
  · intro root free
    constructor
    · rintro ⟨value, succeeded⟩
      exact nesting_le_of_outcome_eq_ok free succeeded
    · exact exists_outcome_eq_ok free

/-- One level is enough for an array, and not for an array in an array. -/
theorem evaluation_depth_suffices_brackets :
    parse ⟨1, 1⟩ "[]" = .ok (.array []) ∧
      (∀ error, (standard.withLimits ⟨1, 1⟩).evaluate .empty (.array []) =
        .error error → ∀ limit maximum,
          error.rootCause ≠ .limitExceeded limit maximum) ∧
      ¬∃ value, evaluate ⟨.builtins, 1⟩ .empty (.array [.array []]) =
        .ok value := by
  have isText : (Node.array []).document.IsText "[]".toList :=
    .padded Token.isBlanks_nil (.emptyArray Token.isBlanks_nil)
      Token.isBlanks_nil
  have parsed : parse ⟨1, 1⟩ "[]" = .ok (.array []) :=
    parse_eq_ok_iff.mpr ⟨isText, by decide, by decide⟩
  refine ⟨parsed, ?_, fun succeeded => ?_⟩
  · exact (evaluation_depth_suffices standard .empty).1 ⟨1, 1⟩ "[]" _
      (Node.callsBuiltins_builtins _) parsed
  · have nested := ((evaluation_depth_suffices ⟨.builtins, 1⟩ .empty).2.2
      (.array [.array []]) rfl).mp succeeded
    exact absurd nested (by decide)

end Evaluator

end Criteria
