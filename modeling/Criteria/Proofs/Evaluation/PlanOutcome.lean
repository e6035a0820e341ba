import Criteria.Proofs.Evaluation.Plan

/-!
# How plans turn out

Given the outcomes of the operands and what the context resolves to, a plan has
one outcome, and it gets as far as certain operands and perhaps a look-up.
What the plans of built-in functions keep to is stated once: they evaluate
their argument or its elements, only `context` looks anything up, and whatever
they fail with on their own is about the number or the type of operands.
-/

namespace Criteria

namespace Plan

/--
The value at a path into what a context resolves to, null if there is none.
-/
def valueAt
    (root : Except ConditionError Json) (path : List Json) :
    Except ConditionError Json := do
  let value ← root
  let found ← value.walk path
  return found.getD .null

/--
The outcome of a plan, given the outcomes of operands and what the context
resolves to.
-/
def outcome
    (answers : Node → Except ConditionError Json)
    (root : Except ConditionError Json) :
    Plan → Except ConditionError Json
  | .finish outcome => outcome
  | .operand node next => do
      let value ← answers node
      (next value).outcome answers root
  | .lookup path => valueAt root path

/-- A plan gets as far as having a node evaluated. -/
inductive Asks (answers : Node → Except ConditionError Json) :
    Plan → Node → Prop where
  | here {node : Node} {next : Json → Plan} :
      Asks answers (.operand node next) node
  | later {node asked : Node} {next : Json → Plan} {value : Json}
      (answered : answers node = .ok value)
      (asks : Asks answers (next value) asked) :
      Asks answers (.operand node next) asked

/-- A plan gets as far as looking a path up. -/
inductive LooksUp (answers : Node → Except ConditionError Json) :
    Plan → List Json → Prop where
  | here {path : List Json} : LooksUp answers (.lookup path) path
  | later {node : Node} {next : Json → Plan} {value : Json} {path : List Json}
      (answered : answers node = .ok value)
      (looksUp : LooksUp answers (next value) path) :
      LooksUp answers (.operand node next) path

/-- A plan ends with an error that is not the failure of an operand. -/
inductive Raises
    (answers : Node → Except ConditionError Json)
    (root : Except ConditionError Json) :
    Plan → ConditionError → Prop where
  | finish {error : ConditionError} :
      Raises answers root (.finish (.error error)) error
  | lookup {path : List Json} {error : ConditionError}
      (failed : valueAt root path = .error error) :
      Raises answers root (.lookup path) error
  | later {node : Node} {next : Json → Plan} {value : Json}
      {error : ConditionError} (answered : answers node = .ok value)
      (raises : Raises answers root (next value) error) :
      Raises answers root (.operand node next) error

section

variable {answers : Node → Except ConditionError Json}
variable {root : Except ConditionError Json}

theorem outcome_operand_of_ok
    {node : Node} {next : Json → Plan} {value : Json}
    (answered : answers node = .ok value) :
    (operand node next).outcome answers root =
      (next value).outcome answers root := by
  rw [outcome, answered]
  rfl

theorem outcome_operand_of_error
    {node : Node} {next : Json → Plan} {error : ConditionError}
    (failed : answers node = .error error) :
    (operand node next).outcome answers root = .error error := by
  rw [outcome, failed]
  rfl

/-- A plan fails as the first operand that it finds failing. -/
theorem Asks.outcome_eq_error
    {plan : Plan} {node : Node} {error : ConditionError}
    (asks : plan.Asks answers node) (failed : answers node = .error error) :
    plan.outcome answers root = .error error := by
  induction asks with
  | here => exact outcome_operand_of_error failed
  | later answered _ ih =>
      rw [outcome_operand_of_ok answered]
      exact ih failed

/-- A plan fails because an operand does, or raises the error itself. -/
theorem exists_asks_or_raises
    {plan : Plan} {error : ConditionError}
    (failed : plan.outcome answers root = .error error) :
    (∃ node, plan.Asks answers node ∧ answers node = .error error) ∨
      plan.Raises answers root error := by
  induction plan with
  | finish =>
      cases failed
      exact Or.inr .finish
  | operand node next ih =>
      cases answered : answers node with
      | error first =>
          rw [outcome_operand_of_error answered] at failed
          cases failed
          exact Or.inl ⟨node, .here, answered⟩
      | ok value =>
          rw [outcome_operand_of_ok answered] at failed
          rcases ih value failed with ⟨asked, asks, fails⟩ | raises
          · exact Or.inl ⟨asked, .later answered asks, fails⟩
          · exact Or.inr (.later answered raises)
  | lookup path => exact Or.inr (.lookup failed)

/-- A plan that looks a path up ends with what is found there. -/
theorem LooksUp.outcome_eq
    {plan : Plan} {path : List Json} (looksUp : plan.LooksUp answers path) :
    plan.outcome answers root = valueAt root path := by
  induction looksUp with
  | here => rfl
  | later answered _ ih => rw [outcome_operand_of_ok answered, ih]

/-- A plan that wants the values of nodes succeeds only if it gets them all. -/
theorem exists_of_outcome_values_eq_ok
    {nodes : List Node} {next : List Json → Plan} {value : Json}
    (succeeded : (values nodes next).outcome answers root = .ok value) :
    ∃ found,
      List.Forall₂ (fun node value => answers node = .ok value) nodes found ∧
        (next found).outcome answers root = .ok value := by
  induction nodes generalizing next with
  | nil => exact ⟨[], .nil, succeeded⟩
  | cons node nodes ih =>
      rw [values] at succeeded
      cases answered : answers node with
      | error error =>
          rw [outcome_operand_of_error answered] at succeeded
          cases succeeded
      | ok first =>
          rw [outcome_operand_of_ok answered] at succeeded
          rcases ih succeeded with ⟨found, all, succeeds⟩
          exact ⟨first :: found, .cons answered all, succeeds⟩

theorem looksUp_values_iff
    {nodes : List Node} {next : List Json → Plan} {path : List Json} :
    (values nodes next).LooksUp answers path ↔
      ∃ found,
        List.Forall₂ (fun node value => answers node = .ok value) nodes found ∧
          (next found).LooksUp answers path := by
  induction nodes generalizing next with
  | nil =>
      constructor
      · exact fun looksUp => ⟨[], .nil, looksUp⟩
      · rintro ⟨_, ⟨⟩, looksUp⟩
        exact looksUp
  | cons node nodes ih =>
      constructor
      · intro looksUp
        cases looksUp with
        | later answered looksUp =>
            rcases ih.mp looksUp with ⟨found, all, looksUp⟩
            exact ⟨_ :: found, .cons answered all, looksUp⟩
      · rintro ⟨_, _ | ⟨answered, all⟩, looksUp⟩
        exact .later answered (ih.mpr ⟨_, all, looksUp⟩)

end

end Plan

/-! ## What plans keep to -/

namespace ConditionError

/-- An error that a built-in function may raise itself. -/
def IsOwn : ConditionError → Prop
  | .arity _ _ | .typeMismatch _ | .invalidContext => True
  | _ => False

variable {error : ConditionError}

theorem IsOwn.rootCause_eq (own : error.IsOwn) :
    error.rootCause = error := by
  cases error with
  | inFunction => exact absurd own id
  | _ => rfl

theorem IsOwn.functionChain_eq (own : error.IsOwn) :
    error.functionChain = [] := by
  cases error with
  | inFunction => exact absurd own id
  | _ => rfl

end ConditionError

section

variable {error : ConditionError}

theorem Node.isOwn_of_arguments
    {argument : Node} (failed : argument.arguments = .error error) :
    error.IsOwn := by
  cases argument with
  | array => cases failed
  | literal => cases failed; trivial
  | function => cases failed; trivial

theorem Node.isOwn_of_twoArguments
    {argument : Node} (failed : argument.twoArguments = .error error) :
    error.IsOwn := by
  cases argument with
  | literal => cases failed; trivial
  | function => cases failed; trivial
  | array elements =>
      match elements with
      | [] => cases failed; trivial
      | [_] => cases failed; trivial
      | [_, _] => cases failed
      | _ :: _ :: _ :: _ => cases failed; trivial

theorem Builtin.isOwn_of_expectNumber
    {value : Json} (failed : expectNumber value = .error error) :
    error.IsOwn := by
  cases value with
  | number => cases failed
  | _ => cases failed; trivial

theorem Builtin.isOwn_of_modulus
    {number : Double} (failed : modulus number = .error error) :
    error.IsOwn := by
  unfold modulus at failed
  split at failed
  · split at failed
    · cases failed
    · cases failed; trivial
  · cases failed; trivial

theorem Json.isOwn_of_descend
    {value segment : Json} (failed : value.descend segment = .error error) :
    error.IsOwn := by
  unfold descend at failed
  split at failed
  · cases failed
  · cases failed; trivial
  · cases failed
  · cases failed; trivial
  · cases failed; trivial

theorem Json.isOwn_of_walk
    {value : Json} {path : List Json}
    (failed : value.walk path = .error error) :
    error.IsOwn := by
  induction path generalizing value with
  | nil => cases failed
  | cons segment path ih =>
      rw [walk] at failed
      cases step : value.descend segment with
      | error =>
          rw [step] at failed
          cases failed
          exact isOwn_of_descend step
      | ok found =>
          rw [step] at failed
          cases found with
          | none => cases failed
          | some next => exact ih failed

theorem Context.isOwn_of_resolve
    {context : Context} (failed : context.resolve.1 = .error error) :
    error.IsOwn := by
  unfold resolve at failed
  split at failed
  · cases failed
  · cases failed
  · split at failed
    · cases failed
    · split at failed
      · cases failed
      · split at failed
        · cases failed
        · cases failed; trivial

end

namespace Plan

/--
The operands that a plan may have evaluated and the paths that it may look up
are within bounds, and it fails with errors of its own only.
-/
def Keeps (operands : Node → Prop) (paths : List Json → Prop) : Plan → Prop
  | .finish outcome => ∀ error, outcome = .error error → error.IsOwn
  | .operand node next =>
      operands node ∧ ∀ value, (next value).Keeps operands paths
  | .lookup path => paths path

section

variable {operands : Node → Prop} {paths : List Json → Prop}
variable {answers : Node → Except ConditionError Json}

theorem keeps_ok (value : Json) :
    (finish (.ok value)).Keeps operands paths :=
  fun _ failed => nomatch failed

theorem keeps_ofExcept
    {α : Type} {result : Except ConditionError α} {next : α → Plan}
    (own : ∀ error, result = .error error → error.IsOwn)
    (later : ∀ value, result = .ok value →
      (next value).Keeps operands paths) :
    (ofExcept result next).Keeps operands paths := by
  cases result with
  | ok value => exact later value rfl
  | error error =>
      rintro _ ⟨⟩
      exact own error rfl

theorem keeps_values
    {nodes : List Node} {next : List Json → Plan}
    (within : ∀ node ∈ nodes, operands node)
    (later : ∀ found, (next found).Keeps operands paths) :
    (values nodes next).Keeps operands paths := by
  induction nodes generalizing next with
  | nil => exact later []
  | cons node nodes ih =>
      rcases List.forall_mem_cons.mp within with ⟨first, others⟩
      exact ⟨first, fun value => ih others fun found => later _⟩

/-- An array has its elements evaluated and looks nothing up. -/
theorem keeps_elements (nodes : List Node) :
    (elements nodes).Keeps (· ∈ nodes) (fun _ => False) :=
  keeps_values (fun _ member => member) fun _ => keeps_ok _

theorem Keeps.mono
    {wider : Node → Prop} {more : List Json → Prop} {plan : Plan}
    (keeps : plan.Keeps operands paths)
    (within : ∀ node, operands node → wider node)
    (along : ∀ path, paths path → more path) :
    plan.Keeps wider more := by
  induction plan with
  | finish => exact keeps
  | operand node next ih =>
      exact ⟨within node keeps.1, fun value => ih value (keeps.2 value)⟩
  | lookup path => exact along path keeps

theorem Asks.of_keeps
    {plan : Plan} {node : Node}
    (asks : plan.Asks answers node) (keeps : plan.Keeps operands paths) :
    operands node := by
  induction asks with
  | here => exact keeps.1
  | later _ _ ih => exact ih (keeps.2 _)

theorem LooksUp.of_keeps
    {plan : Plan} {path : List Json}
    (looksUp : plan.LooksUp answers path) (keeps : plan.Keeps operands paths) :
    paths path := by
  induction looksUp with
  | here => exact keeps
  | later _ _ ih => exact ih (keeps.2 _)

/-- A look-up fails with errors of its own only. -/
theorem isOwn_of_valueAt
    {root : Except ConditionError Json} {path : List Json}
    {error : ConditionError}
    (unresolved : ∀ error, root = .error error → error.IsOwn)
    (failed : valueAt root path = .error error) :
    error.IsOwn := by
  unfold valueAt at failed
  cases root with
  | error first =>
      cases failed
      exact unresolved _ rfl
  | ok value =>
      cases walked : value.walk path with
      | error first =>
          simp only [walked, bind, Except.bind] at failed
          cases failed
          exact Json.isOwn_of_walk walked
      | ok found =>
          simp only [walked, bind, Except.bind] at failed
          cases failed

/-- What a plan raises is an error of its own. -/
theorem Raises.isOwn
    {root : Except ConditionError Json} {plan : Plan} {error : ConditionError}
    (raises : plan.Raises answers root error)
    (keeps : plan.Keeps operands paths)
    (unresolved : ∀ error, root = .error error → error.IsOwn) :
    error.IsOwn := by
  induction raises with
  | finish => exact keeps _ rfl
  | lookup failed => exact isOwn_of_valueAt unresolved failed
  | later _ _ ih => exact ih (keeps.2 _)

/-- A list of values is missing because one of the nodes fails. -/
theorem exists_asks_of_values_eq_error
    {root : Except ConditionError Json} {nodes : List Node}
    {next : List Json → Plan} {error : ConditionError}
    (safe : ∀ found, (next found).outcome answers root ≠ .error error)
    (failed : (values nodes next).outcome answers root = .error error) :
    ∃ node, (values nodes next).Asks answers node ∧
      answers node = .error error := by
  induction nodes generalizing next with
  | nil => exact absurd failed (safe [])
  | cons node nodes ih =>
      rw [values] at failed
      cases answered : answers node with
      | error first =>
          rw [outcome_operand_of_error answered] at failed
          cases failed
          exact ⟨node, .here, answered⟩
      | ok value =>
          rw [outcome_operand_of_ok answered] at failed
          rcases ih (fun found => safe (value :: found)) failed with
            ⟨asked, asks, fails⟩
          exact ⟨asked, .later answered asks, fails⟩

theorem exists_asks_of_elements_eq_error
    {root : Except ConditionError Json} {nodes : List Node}
    {error : ConditionError}
    (failed : (elements nodes).outcome answers root = .error error) :
    ∃ node, (elements nodes).Asks answers node ∧
      answers node = .error error :=
  exists_asks_of_values_eq_error (fun _ => nofun) failed

/--
One plan has related outcomes for two families of operands with related
outcomes, provided that paths are looked up with related outcomes.
-/
theorem outcome_related
    {errors : ConditionError → ConditionError → Prop}
    {left right : Node → Except ConditionError Json}
    {leftRoot rightRoot : Except ConditionError Json} {plan : Plan}
    (keeps : plan.Keeps operands paths)
    (own : ∀ error : ConditionError, error.IsOwn → errors error error)
    (related : ∀ node, operands node →
      OutcomesRelated errors Eq (left node) (right node))
    (lookups : ∀ path, paths path →
      OutcomesRelated errors Eq (valueAt leftRoot path)
        (valueAt rightRoot path)) :
    OutcomesRelated errors Eq (plan.outcome left leftRoot)
      (plan.outcome right rightRoot) := by
  induction plan with
  | finish outcome =>
      cases outcome with
      | ok value => exact rfl
      | error error => exact own error (keeps error rfl)
  | operand node next ih =>
      rcases (related node keeps.1).ok_or_error with
        ⟨value, _, leftAnswer, rightAnswer, rfl⟩ |
          ⟨_, _, leftAnswer, rightAnswer, failures⟩
      · rw [outcome_operand_of_ok leftAnswer,
          outcome_operand_of_ok rightAnswer]
        exact ih value (keeps.2 value)
      · rw [outcome_operand_of_error leftAnswer,
          outcome_operand_of_error rightAnswer]
        exact failures
  | lookup path => exact lookups path keeps

/--
One plan has the same outcome for the same outcomes of operands, provided that
paths are looked up with the same outcomes.
-/
theorem outcome_congr
    {left right : Node → Except ConditionError Json}
    {leftRoot rightRoot : Except ConditionError Json} {plan : Plan}
    (keeps : plan.Keeps operands paths)
    (same : ∀ node, operands node → left node = right node)
    (lookups : ∀ path, paths path →
      valueAt leftRoot path = valueAt rightRoot path) :
    plan.outcome left leftRoot = plan.outcome right rightRoot := by
  refine (outcome_related keeps (fun _ _ => rfl) ?_ ?_).eq
  · exact fun node within => .of_eq (same node within)
  · exact fun path along => .of_eq (lookups path along)

end

end Plan

namespace Builtin

section

variable {operands : Node → Prop} {paths : List Json → Prop}

theorem keeps_everyPlan
    {nodes : List Node} (within : ∀ node ∈ nodes, operands node) :
    (everyPlan nodes).Keeps operands paths := by
  induction nodes with
  | nil => exact Plan.keeps_ok _
  | cons node nodes ih =>
      rcases List.forall_mem_cons.mp within with ⟨first, others⟩
      refine ⟨first, fun value => ?_⟩
      dsimp only
      split
      · exact ih others
      · exact Plan.keeps_ok _

theorem keeps_somePlan
    {nodes : List Node} (within : ∀ node ∈ nodes, operands node) :
    (somePlan nodes).Keeps operands paths := by
  induction nodes with
  | nil => exact Plan.keeps_ok _
  | cons node nodes ih =>
      rcases List.forall_mem_cons.mp within with ⟨first, others⟩
      refine ⟨first, fun value => ?_⟩
      dsimp only
      split
      · exact Plan.keeps_ok _
      · exact ih others

theorem keeps_valuePlan {node : Node} (within : operands node) :
    (valuePlan node).Keeps operands paths :=
  ⟨within, fun _ => Plan.keeps_ok _⟩

theorem keeps_choicePlan
    {nodes : List Node} (within : ∀ node ∈ nodes, operands node) :
    (choicePlan nodes).Keeps operands paths := by
  match nodes with
  | [condition, consequence] =>
      refine ⟨within _ (by simp), fun value => ?_⟩
      dsimp only
      split
      · exact keeps_valuePlan (within _ (by simp))
      · exact Plan.keeps_ok _
  | [condition, consequence, alternative] =>
      refine ⟨within _ (by simp), fun value => ?_⟩
      dsimp only
      split
      · exact keeps_valuePlan (within _ (by simp))
      · exact keeps_valuePlan (within _ (by simp))
  | [] => rintro _ ⟨⟩; trivial
  | [_] => rintro _ ⟨⟩; trivial
  | _ :: _ :: _ :: _ :: _ => rintro _ ⟨⟩; trivial

/-- A plan on the operands of a call keeps to them. -/
theorem keeps_withArguments
    {argument : Node} {next : List Node → Plan}
    (later : ∀ nodes, nodes = argument.children →
      (next nodes).Keeps (· ∈ argument.children) paths) :
    (Plan.ofExcept argument.arguments next).Keeps
      (· ∈ argument.children) paths := by
  refine Plan.keeps_ofExcept (fun _ => Node.isOwn_of_arguments) ?_
  intro nodes found
  exact later nodes (Node.children_of_arguments found).symm

/-- A plan on both operands of a call keeps to them. -/
theorem keeps_withTwoArguments
    {argument : Node} {next : Node × Node → Plan}
    (later : ∀ first second : Node, first ∈ argument.children →
      second ∈ argument.children →
      (next (first, second)).Keeps (· ∈ argument.children) paths) :
    (Plan.ofExcept argument.twoArguments next).Keeps
      (· ∈ argument.children) paths := by
  refine Plan.keeps_ofExcept (fun _ => Node.isOwn_of_twoArguments) ?_
  rintro ⟨first, second⟩ found
  have children := Node.children_of_twoArguments found
  exact later first second (by simp [children]) (by simp [children])

theorem keeps_comparePlan
    (holds : Double → Double → Bool) (argument : Node) :
    (comparePlan holds argument).Keeps (· ∈ argument.children) paths := by
  refine keeps_withTwoArguments fun first second firstIn secondIn => ?_
  refine ⟨firstIn, fun leftValue => ?_⟩
  refine Plan.keeps_ofExcept (fun _ => isOwn_of_expectNumber) fun left _ => ?_
  refine ⟨secondIn, fun rightValue => ?_⟩
  refine Plan.keeps_ofExcept (fun _ => isOwn_of_expectNumber) fun right _ => ?_
  exact Plan.keeps_ok _

theorem keeps_equalPlan (argument : Node) :
    (equalPlan argument).Keeps (· ∈ argument.children) paths := by
  refine keeps_withTwoArguments fun first second firstIn secondIn => ?_
  exact ⟨firstIn, fun left => ⟨secondIn, fun right => Plan.keeps_ok _⟩⟩

theorem keeps_bucketPlan (argument : Node) :
    (bucketPlan argument).Keeps (· ∈ argument.children) paths := by
  refine keeps_withTwoArguments fun first second firstIn secondIn => ?_
  refine ⟨firstIn, fun key => ⟨secondIn, fun value => ?_⟩⟩
  refine Plan.keeps_ofExcept (fun _ => isOwn_of_expectNumber) fun number _ => ?_
  refine Plan.keeps_ofExcept (fun _ => isOwn_of_modulus) fun buckets _ => ?_
  exact Plan.keeps_ok _

/--
A built-in function has its argument evaluated, or the elements of its
argument, and only `context` looks anything up.
-/
theorem keeps_plan (builtin : Builtin) (argument : Node) :
    (builtin.plan argument).Keeps (· ∈ argument :: argument.children)
      (fun _ => builtin = .context) := by
  have wider : ∀ node, node ∈ argument.children →
      node ∈ argument :: argument.children :=
    fun _ => List.mem_cons_of_mem _
  cases builtin with
  | conjunction =>
      refine (keeps_withArguments fun nodes operands => ?_).mono wider
        fun _ => id
      exact keeps_everyPlan fun node member => operands ▸ member
  | disjunction =>
      refine (keeps_withArguments fun nodes operands => ?_).mono wider
        fun _ => id
      exact keeps_somePlan fun node member => operands ▸ member
  | negation => exact ⟨List.mem_cons_self, fun value => Plan.keeps_ok _⟩
  | conditional =>
      refine (keeps_withArguments fun nodes operands => ?_).mono wider
        fun _ => id
      exact keeps_choicePlan fun node member => operands ▸ member
  | context =>
      refine (keeps_withArguments fun nodes operands => ?_).mono wider
        fun _ => id
      refine Plan.keeps_values (fun node member => operands ▸ member) ?_
      exact fun path => rfl
  | greater => exact (keeps_comparePlan _ argument).mono wider fun _ => id
  | less => exact (keeps_comparePlan _ argument).mono wider fun _ => id
  | greaterOrEqual =>
      exact (keeps_comparePlan _ argument).mono wider fun _ => id
  | lessOrEqual => exact (keeps_comparePlan _ argument).mono wider fun _ => id
  | equal => exact (keeps_equalPlan argument).mono wider fun _ => id
  | bucket => exact (keeps_bucketPlan argument).mono wider fun _ => id

end

/-- A path is looked up once all segments are evaluated, and in no other way. -/
theorem looksUp_plan_iff
    {answers : Node → Except ConditionError Json}
    {builtin : Builtin} {argument : Node} {path : List Json} :
    (builtin.plan argument).LooksUp answers path ↔
      builtin = .context ∧ ∃ segments, argument = .array segments ∧
        List.Forall₂ (fun segment value => answers segment = .ok value)
          segments path := by
  constructor
  · intro looksUp
    have isContext := looksUp.of_keeps (keeps_plan builtin argument)
    subst isContext
    refine ⟨rfl, ?_⟩
    cases argument with
    | literal => cases looksUp
    | function => cases looksUp
    | array segments =>
        rcases Plan.looksUp_values_iff.mp looksUp with ⟨found, all, ⟨⟩⟩
        exact ⟨segments, rfl, all⟩
  · rintro ⟨rfl, segments, rfl, all⟩
    exact Plan.looksUp_values_iff.mpr ⟨path, all, .here⟩

end Builtin

end Criteria
