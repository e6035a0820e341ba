import Criteria.Proofs.Evaluation.Alike
import Criteria.Proofs.Evaluation.Bindings

/-!
# Operands that are skipped

Conjunction and disjunction end at the first operand that settles them: one
that fails, or one whose truth is the decisive one.  What that operand comes to
is what they come to, and without such an operand the truth that is not
decisive remains.  The operands behind it are not evaluated, and neither is the
branch that a conditional does not select; so whatever stands in their place,
the outcome is the same, and so is what has been decoded of the context.
-/

namespace Criteria

namespace Builtin

/-- An outcome of an operand that no later operand can change anything about. -/
def settles (decisive : Bool) : Except ConditionError Json → Bool
  | .ok value => value.isTruthy == decisive
  | .error _ => true

/--
What a conjunction or a disjunction makes of the outcomes of its operands: the
first of them that settles it counts.
-/
def junctionOutcome (decisive : Bool)
    (outcomes : List (Except ConditionError Json)) :
    Except ConditionError Json :=
  match outcomes.find? (settles decisive) with
  | none => .ok (.bool !decisive)
  | some (.ok _) => .ok (.bool decisive)
  | some (.error error) => .error error

section

variable {answers : Node → Except ConditionError Json}
variable {root : Except ConditionError Json} {decisive : Bool}

theorem outcome_junctionPlan (nodes : List Node) :
    (junctionPlan decisive nodes).outcome answers root =
      junctionOutcome decisive (nodes.map answers) := by
  induction nodes with
  | nil => rfl
  | cons node nodes ih =>
      rw [junctionPlan, junctionOutcome, List.map_cons]
      cases answered : answers node with
      | error error =>
          rw [Plan.outcome_operand_of_error answered]
          rfl
      | ok value =>
          rw [Plan.outcome_operand_of_ok answered]
          by_cases decides : value.isTruthy = decisive
          · have settled : settles decisive (.ok value) = true :=
              beq_iff_eq.mpr decides
            rw [if_pos decides, List.find?_cons_of_pos settled]
            rfl
          · have unsettled : ¬settles decisive (.ok value) = true :=
              decides ∘ beq_iff_eq.mp
            rw [if_neg decides, ih, junctionOutcome,
              List.find?_cons_of_neg unsettled]

/-- Behind an operand that settles them, plans may differ. -/
theorem alike_junctionPlan
    {known : Node → Prop} {before after other : List Node} {operand : Node}
    (early : ∀ node ∈ before, known node) (last : known operand)
    (settled : settles decisive (answers operand) = true) :
    Plan.Alike answers (fun left right => left = right ∧ known left)
      (junctionPlan decisive (before ++ operand :: after))
      (junctionPlan decisive (before ++ operand :: other)) := by
  induction before with
  | nil =>
      refine .operand ⟨rfl, last⟩ fun value answered => ?_
      rw [answered] at settled
      have decides : value.isTruthy = decisive := beq_iff_eq.mp settled
      rw [if_pos decides, if_pos decides]
      exact .same _
  | cons node before ih =>
      rcases List.forall_mem_cons.mp early with ⟨first, others⟩
      refine .operand ⟨rfl, first⟩ fun value _ => ?_
      split
      · exact .same _
      · exact ih others

/-- Branches that the condition does not select may differ. -/
theorem alike_choicePlan_of_selected
    {known : Node → Prop} {condition : Node} (test : known condition)
    {consequence alternative otherConsequence otherAlternative : Node}
    (selected : ∀ value, answers condition = .ok value →
      (if value.isTruthy then consequence else alternative) =
        if value.isTruthy then otherConsequence else otherAlternative) :
    Plan.Alike answers (fun left right => left = right ∧ known left)
      (choicePlan [condition, consequence, alternative])
      (choicePlan [condition, otherConsequence, otherAlternative]) := by
  refine .operand ⟨rfl, test⟩ fun value answered => ?_
  have branch := selected value answered
  by_cases holds : value.isTruthy = true
  · rw [if_pos holds, if_pos holds] at branch
    rw [if_pos holds, if_pos holds, branch]
    exact .same _
  · rw [if_neg holds, if_neg holds] at branch
    rw [if_neg holds, if_neg holds, branch]
    exact .same _

end

end Builtin

namespace Evaluator

/--
Short circuit is exact.  A conjunction or a disjunction that is entered comes to
what the first operand that settles it says, with an error within the name of
the function; the operands behind that one may be any nodes at all, and so may
the branches of a conditional that its condition does not select: they change
neither the outcome nor the session that is left.
-/
theorem short_circuit_is_exact
    (evaluator : Evaluator) (levels : Nat) (session : Session) :
    (∀ name decisive,
      evaluator.registry.find? name =
          some (Builtin.junction decisive).handler →
        (∀ operands, (Node.array operands).CallsBuiltins evaluator.registry →
          (evaluator.runWithin (levels + 1) session
            (.function name (.array operands))).1 =
              (Builtin.junctionOutcome decisive (operands.map
                (evaluator.outcome session.context levels))).mapError
                  (.inFunction name)) ∧
        ∀ before operand after other,
          (Node.array (before ++ [operand])).CallsBuiltins
              evaluator.registry →
            Builtin.settles decisive
                (evaluator.outcome session.context levels operand) = true →
              evaluator.runWithin (levels + 1) session
                  (.function name (.array (before ++ operand :: after))) =
                evaluator.runWithin (levels + 1) session
                  (.function name (.array (before ++ operand :: other)))) ∧
    ∀ name condition,
      evaluator.registry.find? name = some Builtin.conditional.handler →
        condition.CallsBuiltins evaluator.registry →
          ((∀ value,
              evaluator.outcome session.context levels condition = .ok value →
                value.isTruthy = true) →
            ∀ consequence alternative other,
              evaluator.runWithin (levels + 1) session (.function name
                  (.array [condition, consequence, alternative])) =
                evaluator.runWithin (levels + 1) session (.function name
                  (.array [condition, consequence, other]))) ∧
          ((∀ value,
              evaluator.outcome session.context levels condition = .ok value →
                value.isTruthy = false) →
            ∀ consequence alternative other,
              evaluator.runWithin (levels + 1) session (.function name
                  (.array [condition, consequence, alternative])) =
                evaluator.runWithin (levels + 1) session (.function name
                  (.array [condition, other, alternative]))) := by
  refine ⟨fun name decisive found => ⟨?_, ?_⟩,
    fun name condition found calls => ⟨?_, ?_⟩⟩
  · intro operands calls
    rw [runWithin_function_outcome found calls, Builtin.plan_junction,
      Builtin.outcome_junctionPlan]
  · intro before operand after other calls settled
    apply runWithin_function_eq found
    rw [Builtin.plan_junction, Builtin.plan_junction]
    refine Builtin.alike_junctionPlan (fun node member => ?_) ?_ settled
    · exact calls.of_mem (List.mem_append_left _ member)
    · exact calls.of_mem List.mem_concat_self
  · intro selects consequence alternative other
    apply runWithin_function_eq found
    refine Builtin.alike_choicePlan_of_selected calls fun value answered => ?_
    rw [if_pos (selects value answered), if_pos (selects value answered)]
  · intro selects consequence alternative other
    apply runWithin_function_eq found
    refine Builtin.alike_choicePlan_of_selected calls fun value answered => ?_
    have differs := ne_true_of_eq_false (selects value answered)
    rw [if_neg differs, if_neg differs]

/--
A disjunction that starts with a truth leaves a context alone that does not
decode, although a look-up stands behind the truth; and so does a conditional
that has the look-up for the branch that it does not select.
-/
theorem short_circuit_is_exact_undecoded :
    Builtin.settles true
        (standard.outcome (.raw "\x7b") 1 (.literal (.boolean true))) = true ∧
      standard.runWithin 2 ⟨.raw "\x7b", []⟩ (.function "or"
          (.array [.literal (.boolean true),
            .function "context" (.array [])])) =
        (.ok (.bool true), ⟨.raw "\x7b", []⟩) ∧
      standard.outcome (.raw "\x7b") 1 (.literal (.boolean true)) =
        .ok (.bool true) ∧
      standard.runWithin 2 ⟨.raw "\x7b", []⟩ (.function "if"
          (.array [.literal (.boolean true), .literal .null,
            .function "context" (.array [])])) =
        (.ok .null, ⟨.raw "\x7b", []⟩) := by
  have settled : Builtin.settles true
      (standard.outcome (.raw "\x7b") 1 (.literal (.boolean true))) = true :=
    rfl
  have answered : standard.outcome (.raw "\x7b") 1
      (.literal (.boolean true)) = .ok (.bool true) := rfl
  have calls : ∀ node : Node, node.CallsBuiltins standard.registry :=
    Node.callsBuiltins_builtins
  rcases short_circuit_is_exact standard 1 ⟨.raw "\x7b", []⟩ with
    ⟨junctions, conditionals⟩
  rcases junctions "or" true (Registry.find?_builtins_name .disjunction) with
    ⟨_, irrelevant⟩
  rcases conditionals "if" (.literal (.boolean true))
    (Registry.find?_builtins_name .conditional) (calls _) with ⟨selected, _⟩
  refine ⟨settled, ?_, answered, ?_⟩
  · exact (irrelevant [] _ _ [] (calls _) settled).trans rfl
  · refine (selected ?_ (.literal .null) _ (.literal .null)).trans rfl
    intro value found
    cases answered.symm.trans found
    rfl

end Evaluator

end Criteria
