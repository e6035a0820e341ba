import Criteria.Proofs.Evaluation.Alike
import Criteria.Proofs.Evaluation.Bindings
import Criteria.Proofs.Json.NumberValue

/-!
# Comparisons of numbers

Five built-in functions compare two operands.  Four of them compare doubles
and accept nothing but numbers, and the fifth is deep equality of any values;
yet on numbers the five go together.  Each of them asks how the values of the
doubles of its operands stand to each other.  So they are the parts of one total
preorder, in which numbers that round to the same double are equal, and so are
both zeros.  An operand that fails makes all five fail alike.
-/

namespace Criteria

/-! ## The doubles of numbers -/

namespace Number

variable (left right : Number)

theorem lt_toDouble :
    left.toDouble.lt right.toDouble =
      decide (left.doubleValue < right.doubleValue) := by
  rcases left.exists_toDouble_eq_finite with ⟨first, leftDouble⟩
  rcases right.exists_toDouble_eq_finite with ⟨second, rightDouble⟩
  rw [doubleValue_of_toDouble leftDouble, doubleValue_of_toDouble rightDouble,
    leftDouble, rightDouble]
  exact decide_eq_decide.mpr FiniteDouble.signedValue_lt_iff.symm

theorem sameValue_eq :
    left.sameValue right =
      decide (left.doubleValue = right.doubleValue) := by
  rcases left.exists_toDouble_eq_finite with ⟨first, leftDouble⟩
  rcases right.exists_toDouble_eq_finite with ⟨second, rightDouble⟩
  rw [sameValue, doubleValue_of_toDouble leftDouble,
    doubleValue_of_toDouble rightDouble, leftDouble, rightDouble]
  exact decide_eq_decide.mpr FiniteDouble.signedValue_eq_iff.symm

theorem le_toDouble :
    left.toDouble.le right.toDouble =
      decide (left.doubleValue ≤ right.doubleValue) := by
  have equal : left.toDouble.sameValue right.toDouble =
      decide (left.doubleValue = right.doubleValue) := sameValue_eq left right
  rw [Double.le, lt_toDouble, equal, Bool.eq_iff_iff]
  simp only [Bool.or_eq_true, decide_eq_true_eq]
  exact le_iff_lt_or_eq.symm

end Number

/-! ## The five functions -/

namespace Builtin

/-- The functions that compare two operands. -/
def comparisons : List Builtin :=
  [less, equal, greater, greaterOrEqual, lessOrEqual]

/-- How values have to stand to each other for a comparison to hold. -/
def holdsBetween : Builtin → ℚ → ℚ → Bool
  | less, left, right => left < right
  | equal, left, right => left = right
  | greater, left, right => right < left
  | greaterOrEqual, left, right => right ≤ left
  | lessOrEqual, left, right => left ≤ right
  | _, _, _ => false

section

variable {left middle right : ℚ}

theorem count_holdsBetween (left right : ℚ) :
    [less.holdsBetween left right, equal.holdsBetween left right,
      greater.holdsBetween left right].count true = 1 := by
  simp only [holdsBetween]
  rcases lt_trichotomy left right with below | rfl | above
  · simp [below, below.not_gt, below.ne]
  · simp
  · simp [above, above.not_gt, above.ne']

theorem greaterOrEqual_holdsBetween (left right : ℚ) :
    greaterOrEqual.holdsBetween left right =
      !less.holdsBetween left right := by
  simp only [holdsBetween, ← decide_not, not_lt]

theorem lessOrEqual_holdsBetween (left right : ℚ) :
    lessOrEqual.holdsBetween left right =
      !greater.holdsBetween left right := by
  simp only [holdsBetween, ← decide_not, not_lt]

theorem less_trans
    (first : less.holdsBetween left middle = true)
    (second : less.holdsBetween middle right = true) :
    less.holdsBetween left right = true := by
  simp only [holdsBetween, decide_eq_true_eq] at first second ⊢
  exact lt_trans first second

theorem lessOrEqual_trans
    (first : lessOrEqual.holdsBetween left middle = true)
    (second : lessOrEqual.holdsBetween middle right = true) :
    lessOrEqual.holdsBetween left right = true := by
  simp only [holdsBetween, decide_eq_true_eq] at first second ⊢
  exact le_trans first second

end

/--
A comparison has its first operand evaluated, then, if that is a number, its
second one, and of two numbers it compares the values of their doubles.
-/
theorem plan_of_mem_comparisons
    {builtin : Builtin} (member : builtin ∈ comparisons)
    (first second : Node) :
    ∃ next, builtin.plan (.array [first, second]) = .operand first next ∧
      ∀ left : Number, ∃ last, next (.number left) = .operand second last ∧
        ∀ right : Number, last (.number right) =
          .finish (.ok (.bool
            (builtin.holdsBetween left.doubleValue right.doubleValue))) := by
  have verdict {first second : Bool} (same : first = second) :
      Plan.finish (.ok (.bool first)) = .finish (.ok (.bool second)) :=
    same ▸ rfl
  cases builtin with
  | less =>
      exact ⟨_, rfl, fun left => ⟨_, rfl, fun right =>
        verdict (left.lt_toDouble right)⟩⟩
  | equal =>
      exact ⟨_, rfl, fun left => ⟨_, rfl, fun right =>
        verdict (left.sameValue_eq right)⟩⟩
  | greater =>
      exact ⟨_, rfl, fun left => ⟨_, rfl, fun right =>
        verdict (right.lt_toDouble left)⟩⟩
  | greaterOrEqual =>
      exact ⟨_, rfl, fun left => ⟨_, rfl, fun right =>
        verdict (right.le_toDouble left)⟩⟩
  | lessOrEqual =>
      exact ⟨_, rfl, fun left => ⟨_, rfl, fun right =>
        verdict (left.le_toDouble right)⟩⟩
  | _ => exact absurd member (by decide)

end Builtin

namespace Evaluator

variable {evaluator : Evaluator}

/--
A node comes to the same whatever was evaluated before: sessions whose contexts
resolve to the same give it one outcome, and its evaluation leaves the context
resolving to what it did.
-/
def Steady (evaluator : Evaluator) (levels : Nat) (node : Node) : Prop :=
  ∀ left right : Session,
    left.context.resolve.1 = right.context.resolve.1 →
      (evaluator.runWithin levels left node).1 =
          (evaluator.runWithin levels right node).1 ∧
        (evaluator.runWithin levels left node).2.context.resolve.1 =
          left.context.resolve.1

/-- Whatever calls built-in functions only is steady. -/
theorem steady_of_callsBuiltins
    {node : Node} (calls : node.CallsBuiltins evaluator.registry)
    (levels : Nat) :
    evaluator.Steady levels node := by
  intro left right same
  have yields := yields_evaluateWithin right.context calls levels
  have leftYields := yields left same
  have rightYields := yields right rfl
  exact ⟨leftYields.1.trans rightYields.1.symm, leftYields.2.resolve_eq⟩

/-! ## What a comparison comes to -/

/-- The outcome of a function of two operands, one level above them. -/
def ofOperands (evaluator : Evaluator) (name : String) (levels : Nat)
    (session : Session) (first second : Node) : Except ConditionError Json :=
  (evaluator.runWithin (levels + 1) session
    (.function name (.array [first, second]))).1

/-- The outcome of a plan whose operands have a number of levels left. -/
def runPlan (evaluator : Evaluator) (levels : Nat) (session : Session)
    (plan : Plan) : Except ConditionError Json × Session :=
  (plan.run ⟨evaluator.evaluateWithin levels,
    evaluator.registry.contains⟩).runFrom session

section

variable {builtin : Builtin} {name : String} {levels : Nat}
variable {before between after : Session} {first second : Node}
variable {value : Json} {left right : Number} {error : ConditionError}
variable {next : Json → Plan}

theorem runPlan_operand_of_ok
    (ran : evaluator.runWithin levels before first = (.ok value, after)) :
    evaluator.runPlan levels before (.operand first next) =
      evaluator.runPlan levels after (next value) := by
  rw [runWithin] at ran
  rw [runPlan, Plan.run, Evaluation.runFrom_bind, ran]
  rfl

theorem runPlan_operand_of_error
    (ran : evaluator.runWithin levels before first = (.error error, after)) :
    evaluator.runPlan levels before (.operand first next) =
      (.error error, after) := by
  rw [runWithin] at ran
  rw [runPlan, Plan.run, Evaluation.runFrom_bind, ran]

theorem ofOperands_eq
    (found : evaluator.registry.find? name = some builtin.handler) :
    evaluator.ofOperands name levels before first second =
      (evaluator.runPlan levels before
        (builtin.plan (.array [first, second]))).1.mapError
          (.inFunction name) := by
  rw [ofOperands, runWithin, evaluateWithin_function found,
    Evaluation.runFrom_within, runPlan]
  split <;> simp_all [Except.mapError]

/-- A comparison of two numbers compares the values of their doubles. -/
theorem ofOperands_of_numbers
    (member : builtin ∈ Builtin.comparisons)
    (found : evaluator.registry.find? name = some builtin.handler)
    (leftRun : evaluator.runWithin levels before first =
      (.ok (.number left), between))
    (rightRun : evaluator.runWithin levels between second =
      (.ok (.number right), after)) :
    evaluator.ofOperands name levels before first second =
      .ok (.bool
        (builtin.holdsBetween left.doubleValue right.doubleValue)) := by
  rcases Builtin.plan_of_mem_comparisons member first second with
    ⟨next, plan, later⟩
  rcases later left with ⟨last, nextPlan, verdict⟩
  rw [ofOperands_eq found, plan, runPlan_operand_of_ok leftRun, nextPlan,
    runPlan_operand_of_ok rightRun, verdict right]
  rfl

/-- A comparison fails as its first operand. -/
theorem ofOperands_of_first
    (member : builtin ∈ Builtin.comparisons)
    (found : evaluator.registry.find? name = some builtin.handler)
    (failed : evaluator.runWithin levels before first =
      (.error error, between)) :
    evaluator.ofOperands name levels before first second =
      .error (.inFunction name error) := by
  rcases Builtin.plan_of_mem_comparisons member first second with
    ⟨next, plan, _⟩
  rw [ofOperands_eq found, plan, runPlan_operand_of_error failed]
  rfl

/-- A comparison whose first operand is a number fails as its second one. -/
theorem ofOperands_of_second
    (member : builtin ∈ Builtin.comparisons)
    (found : evaluator.registry.find? name = some builtin.handler)
    (leftRun : evaluator.runWithin levels before first =
      (.ok (.number left), between))
    (failed : evaluator.runWithin levels between second =
      (.error error, after)) :
    evaluator.ofOperands name levels before first second =
      .error (.inFunction name error) := by
  rcases Builtin.plan_of_mem_comparisons member first second with
    ⟨next, plan, later⟩
  rcases later left with ⟨last, nextPlan, _⟩
  rw [ofOperands_eq found, plan, runPlan_operand_of_ok leftRun, nextPlan,
    runPlan_operand_of_error failed]
  rfl

/--
A comparison has the root cause of the failure of its first operand, or of its
second one behind a number.
-/
theorem comparison_fails_alike
    (member : builtin ∈ Builtin.comparisons)
    (found : evaluator.registry.find? name = some builtin.handler)
    (failed : (evaluator.runWithin levels before first).1 = .error error ∨
      ∃ left between,
        evaluator.runWithin levels before first =
            (.ok (.number left), between) ∧
          (evaluator.runWithin levels between second).1 = .error error) :
    ∃ outer, evaluator.ofOperands name levels before first second =
        .error outer ∧
      outer.rootCause = error.rootCause := by
  refine ⟨.inFunction name error, ?_, rfl⟩
  rcases failed with failed | ⟨left, between, leftRun, failed⟩
  · rcases ran : evaluator.runWithin levels before first with ⟨outcome, after⟩
    rw [ran] at failed
    cases failed
    exact ofOperands_of_first member found ran
  · rcases ran : evaluator.runWithin levels between second with
      ⟨outcome, after⟩
    rw [ran] at failed
    cases failed
    exact ofOperands_of_second member found leftRun ran

/-- Outcomes are transitive if what they say is. -/
theorem trans_of_holds
    {first second third : Except ConditionError Json}
    {isFirst isSecond isThird : Bool}
    (firstIs : first = .ok (.bool isFirst))
    (secondIs : second = .ok (.bool isSecond))
    (thirdIs : third = .ok (.bool isThird))
    (transitive : isFirst = true → isSecond = true → isThird = true)
    (firstHolds : first = .ok (.bool true))
    (secondHolds : second = .ok (.bool true)) :
    third = .ok (.bool true) := by
  cases firstIs.symm.trans firstHolds
  cases secondIs.symm.trans secondHolds
  rw [thirdIs, transitive rfl rfl]

/-- Steady operands that come to numbers are compared in either order. -/
theorem ofOperands_of_steady
    (member : builtin ∈ Builtin.comparisons)
    (found : evaluator.registry.find? name = some builtin.handler)
    (firstSteady : evaluator.Steady levels first)
    (secondSteady : evaluator.Steady levels second)
    (leftRun : (evaluator.runWithin levels before first).1 =
      .ok (.number left))
    (rightRun : (evaluator.runWithin levels before second).1 =
      .ok (.number right)) :
    evaluator.ofOperands name levels before first second =
      .ok (.bool
        (builtin.holdsBetween left.doubleValue right.doubleValue)) := by
  have unchanged := (firstSteady before before rfl).2
  rcases ran : evaluator.runWithin levels before first with
    ⟨outcome, between⟩
  rw [ran] at leftRun unchanged
  cases leftRun
  have later := (secondSteady between before unchanged).1.trans rightRun
  rcases ranToo : evaluator.runWithin levels between second with
    ⟨outcome, after⟩
  rw [ranToo] at later
  cases later
  exact ofOperands_of_numbers member found ran ranToo

end

/--
The comparisons are one total preorder of numbers.  Take operands that come to
numbers, whatever is evaluated before them: the first is either less than the
second, or equal to it, or greater, and which of them the values of the doubles
say; at least is not less and at most is not greater; greater is less the other
way round; and less and at most are transitive.  And if the first operand fails,
or the first is a number and the second fails, all five comparisons fail with
the root cause of that failure.
-/
theorem comparisons_form_total_preorder
    {names : Builtin → String}
    (bound : ∀ builtin ∈ Builtin.comparisons,
      evaluator.registry.find? (names builtin) = some builtin.handler)
    (levels : Nat) (session : Session) :
    let compared (builtin : Builtin) :=
      evaluator.ofOperands (names builtin) levels session
    (∀ a b c, evaluator.Steady levels a → evaluator.Steady levels b →
        evaluator.Steady levels c → ∀ x y z : Number,
      (evaluator.runWithin levels session a).1 = .ok (.number x) →
      (evaluator.runWithin levels session b).1 = .ok (.number y) →
      (evaluator.runWithin levels session c).1 = .ok (.number z) →
        ∃ isLess isEqual isGreater : Bool,
          [isLess, isEqual, isGreater].count true = 1 ∧
          (isLess = true ↔ x.doubleValue < y.doubleValue) ∧
          (isEqual = true ↔ x.doubleValue = y.doubleValue) ∧
          compared .less a b = .ok (.bool isLess) ∧
          compared .equal a b = .ok (.bool isEqual) ∧
          compared .greater a b = .ok (.bool isGreater) ∧
          compared .greaterOrEqual a b = .ok (.bool !isLess) ∧
          compared .lessOrEqual a b = .ok (.bool !isGreater) ∧
          compared .less b a = .ok (.bool isGreater) ∧
          (compared .less a b = .ok (.bool true) →
            compared .less b c = .ok (.bool true) →
              compared .less a c = .ok (.bool true)) ∧
          (compared .lessOrEqual a b = .ok (.bool true) →
            compared .lessOrEqual b c = .ok (.bool true) →
              compared .lessOrEqual a c = .ok (.bool true))) ∧
    ∀ a b error,
      ((evaluator.runWithin levels session a).1 = .error error ∨
        ∃ x between,
          evaluator.runWithin levels session a = (.ok (.number x), between) ∧
            (evaluator.runWithin levels between b).1 = .error error) →
      ∀ builtin ∈ Builtin.comparisons, ∃ outer,
        compared builtin a b = .error outer ∧
          outer.rootCause = error.rootCause := by
  intro compared
  constructor
  · intro a b c steadyA steadyB steadyC x y z runA runB runC
    have verdict {first second : Node} {left right : Number}
        (steady : evaluator.Steady levels first)
        (steadyToo : evaluator.Steady levels second)
        (leftRun : (evaluator.runWithin levels session first).1 =
          .ok (.number left))
        (rightRun : (evaluator.runWithin levels session second).1 =
          .ok (.number right))
        (builtin : Builtin) (member : builtin ∈ Builtin.comparisons) :
        compared builtin first second =
          .ok (.bool
            (builtin.holdsBetween left.doubleValue right.doubleValue)) :=
      ofOperands_of_steady member (bound builtin member) steady steadyToo
        leftRun rightRun
    have ab := verdict steadyA steadyB runA runB
    have bc := verdict steadyB steadyC runB runC
    have ac := verdict steadyA steadyC runA runC
    refine ⟨_, _, _,
      Builtin.count_holdsBetween x.doubleValue y.doubleValue,
      decide_eq_true_iff, decide_eq_true_iff, ab .less (by decide),
      ab .equal (by decide), ab .greater (by decide), ?_, ?_, ?_, ?_, ?_⟩
    · rw [ab .greaterOrEqual (by decide),
        Builtin.greaterOrEqual_holdsBetween]
    · rw [ab .lessOrEqual (by decide), Builtin.lessOrEqual_holdsBetween]
    · exact verdict steadyB steadyA runB runA .less (by decide)
    · exact trans_of_holds (ab .less (by decide)) (bc .less (by decide))
        (ac .less (by decide)) Builtin.less_trans
    · exact trans_of_holds (ab .lessOrEqual (by decide))
        (bc .lessOrEqual (by decide)) (ac .lessOrEqual (by decide))
        Builtin.lessOrEqual_trans
  · intro a b error failed builtin member
    exact comparison_fails_alike member (bound builtin member) failed

/-- The greatest integer that is a number. -/
def greatestInteger : Number :=
  .integer (2 ^ 64 - 1) (by decide)

/-- The double that the greatest integer is rounded to, which is `2 ^ 64`. -/
def roundedUp : FiniteDouble :=
  ⟨false, 1087 * 2 ^ 52, by decide⟩

/--
The greatest integer, read from the context, equals the double that it is
rounded to and is neither below nor above it; and an unknown function as the
first operand makes all comparisons fail alike.
-/
theorem comparisons_form_total_preorder_rounded :
    let session : Session := ⟨.ofValue (.number greatestInteger), []⟩
    let greatest : Node := .function "context" (.array [])
    let rounded : Node := .literal (.number (.finite roundedUp))
    let zero : Node := .literal (.number (.finite (.zero true)))
    let unknown : Node := .function "nope" (.literal .null)
    (∀ builtin ∈ Builtin.comparisons,
        standard.registry.find? builtin.name = some builtin.handler) ∧
      (∀ node, standard.Steady 63 node) ∧
      standard.ofOperands "lt" 63 session greatest rounded =
        .ok (.bool false) ∧
      standard.ofOperands "eq" 63 session greatest rounded =
        .ok (.bool true) ∧
      standard.ofOperands "gt" 63 session greatest rounded =
        .ok (.bool false) ∧
      ∀ builtin ∈ Builtin.comparisons, ∃ outer,
        standard.ofOperands builtin.name 63 session unknown zero =
            .error outer ∧
          outer.rootCause = .unknownFunction "nope" := by
  intro session greatest rounded zero unknown
  have bound : ∀ builtin ∈ Builtin.comparisons,
      standard.registry.find? builtin.name = some builtin.handler :=
    fun builtin _ => Registry.find?_builtins_name builtin
  have steady (node : Node) : standard.Steady 63 node :=
    steady_of_callsBuiltins (Node.callsBuiltins_builtins node) 63
  have greatestRun : (standard.runWithin 63 session greatest).1 =
      .ok (.number greatestInteger) := rfl
  rcases Double.exists_toJson_finite roundedUp with ⟨up, isUp, _⟩
  have roundedRun : (standard.runWithin 63 session rounded).1 =
      .ok (.number up) := congrArg Except.ok isUp
  rcases Double.exists_toJson_finite (.zero true) with ⟨none, isNumber, _⟩
  have zeroRun : (standard.runWithin 63 session zero).1 =
      .ok (.number none) := congrArg Except.ok isNumber
  have sameValue : greatestInteger.doubleValue = up.doubleValue := by
    rw [Number.doubleValue_of_toJson isUp]
    apply Number.doubleValue_of_toDouble
    decide +kernel
  have preorder := comparisons_form_total_preorder bound 63 session
  rcases preorder.1 greatest rounded zero (steady _) (steady _) (steady _)
    _ _ _ greatestRun roundedRun zeroRun with
      ⟨isLess, isEqual, isGreater, one, _, together, less, equal, greater, _⟩
  have isTrue : isEqual = true := together.mpr sameValue
  subst isTrue
  have neither : isLess = false ∧ isGreater = false := by
    cases isLess <;> cases isGreater <;> simp at one ⊢
  rcases neither with ⟨rfl, rfl⟩
  refine ⟨bound, steady, less, equal, greater, ?_⟩
  exact preorder.2 unknown zero (.unknownFunction "nope") (Or.inl rfl)

end Evaluator

end Criteria
