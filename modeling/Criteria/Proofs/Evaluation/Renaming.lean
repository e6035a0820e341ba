import Criteria.Proofs.Evaluation.Reach

/-!
# Functions under other names

What a built-in function does depends on its operands but not on the names of
the functions within them, nor on its own.  So a tree and the same tree with
every function under another name come to the same outcome, provided that both
names are bound to the same built-in function: an error has the same cause, and
names the functions around it by the names that the tree has for them.
-/

namespace Criteria

namespace Node

variable (target : String → String)

mutual

/-- A tree with every function under another name. -/
def rename : Node → Node
  | .literal value => .literal value
  | .array elements => .array (renameAll elements)
  | .function name argument => .function (target name) (rename argument)

/-- Several trees with every function under another name. -/
def renameAll : List Node → List Node
  | [] => []
  | node :: nodes => rename node :: renameAll nodes

end

@[simp]
theorem renameAll_eq_map (nodes : List Node) :
    renameAll target nodes = nodes.map (rename target) := by
  induction nodes with
  | nil => rfl
  | cons node nodes ih => rw [renameAll, ih, List.map_cons]

mutual

theorem functionNames_rename :
    (node : Node) →
      (node.rename target).functionNames = node.functionNames.map target
  | .literal _ => rfl
  | .array elements => elementNames_renameAll elements
  | .function name argument =>
      congrArg (target name :: ·) (functionNames_rename argument)

theorem elementNames_renameAll :
    (nodes : List Node) →
      elementNames (renameAll target nodes) = (elementNames nodes).map target
  | [] => rfl
  | node :: nodes => by
      rw [renameAll, elementNames, elementNames, List.map_append,
        functionNames_rename node, elementNames_renameAll nodes]

end

theorem arguments_rename (argument : Node) :
    (argument.rename target).arguments =
      argument.arguments.map (List.map (rename target)) := by
  cases argument with
  | literal => rfl
  | array elements => exact congrArg _ (renameAll_eq_map target elements)
  | function => rfl

theorem twoArguments_rename (argument : Node) :
    (argument.rename target).twoArguments =
      argument.twoArguments.map
        (Prod.map (rename target) (rename target)) := by
  cases argument with
  | literal => rfl
  | function => rfl
  | array elements =>
      rw [rename, renameAll_eq_map]
      match elements with
      | [] => rfl
      | [_] => rfl
      | [_, _] => rfl
      | _ :: _ :: _ :: rest =>
          simp [twoArguments, bind, Except.bind, Except.map]

end Node

/-! ## Plans on other nodes -/

namespace Plan

/-- A plan with other nodes in place of the operands. -/
def mapNodes (replace : Node → Node) : Plan → Plan
  | .finish outcome => .finish outcome
  | .operand node next =>
      .operand (replace node) fun value => (next value).mapNodes replace
  | .lookup path => .lookup path

variable (replace : Node → Node)

theorem outcome_mapNodes
    (answers : Node → Except ConditionError Json)
    (root : Except ConditionError Json) (plan : Plan) :
    (plan.mapNodes replace).outcome answers root =
      plan.outcome (fun node => answers (replace node)) root := by
  induction plan with
  | finish => rfl
  | operand node next ih => simp only [mapNodes, outcome, ih]
  | lookup => rfl

theorem mapNodes_ofExcept
    {α : Type} (result : Except ConditionError α) (next : α → Plan) :
    (ofExcept result next).mapNodes replace =
      ofExcept result fun value => (next value).mapNodes replace := by
  cases result <;> rfl

theorem ofExcept_map
    {α β : Type} (change : α → β) (result : Except ConditionError α)
    (next : β → Plan) :
    ofExcept (result.map change) next =
      ofExcept result fun value => next (change value) := by
  cases result <;> rfl

theorem mapNodes_values (nodes : List Node) (next : List Json → Plan) :
    (values nodes next).mapNodes replace =
      values (nodes.map replace) fun found =>
        (next found).mapNodes replace := by
  induction nodes generalizing next with
  | nil => rfl
  | cons node nodes ih => simp only [values, mapNodes, ih, List.map_cons]

theorem mapNodes_elements (nodes : List Node) :
    (elements nodes).mapNodes replace = elements (nodes.map replace) :=
  mapNodes_values replace nodes _

end Plan

namespace Builtin

section

variable (replace : Node → Node)

theorem mapNodes_everyPlan (nodes : List Node) :
    (everyPlan nodes).mapNodes replace = everyPlan (nodes.map replace) := by
  induction nodes with
  | nil => rfl
  | cons node nodes ih =>
      simp only [everyPlan, Plan.mapNodes, List.map_cons]
      refine congrArg _ (funext fun value => ?_)
      split
      · exact ih
      · rfl

theorem mapNodes_somePlan (nodes : List Node) :
    (somePlan nodes).mapNodes replace = somePlan (nodes.map replace) := by
  induction nodes with
  | nil => rfl
  | cons node nodes ih =>
      simp only [somePlan, Plan.mapNodes, List.map_cons]
      refine congrArg _ (funext fun value => ?_)
      split
      · rfl
      · exact ih

theorem mapNodes_choicePlan (nodes : List Node) :
    (choicePlan nodes).mapNodes replace = choicePlan (nodes.map replace) := by
  match nodes with
  | [condition, consequence] =>
      simp only [choicePlan, Plan.mapNodes, List.map_cons, List.map_nil]
      refine congrArg _ (funext fun value => ?_)
      split <;> rfl
  | [condition, consequence, alternative] =>
      simp only [choicePlan, Plan.mapNodes, List.map_cons, List.map_nil]
      refine congrArg _ (funext fun value => ?_)
      split <;> rfl
  | [] => rfl
  | [_] => rfl
  | _ :: _ :: _ :: _ :: rest =>
      simp [choicePlan, Plan.mapNodes]

end

variable (target : String → String)

theorem mapNodes_comparePlan
    (holds : Double → Double → Bool) (argument : Node) :
    (comparePlan holds argument).mapNodes (Node.rename target) =
      comparePlan holds (argument.rename target) := by
  simp only [comparePlan, Node.twoArguments_rename, Plan.ofExcept_map,
    Plan.mapNodes_ofExcept, Plan.mapNodes, Prod.map]

theorem mapNodes_equalPlan (argument : Node) :
    (equalPlan argument).mapNodes (Node.rename target) =
      equalPlan (argument.rename target) := by
  simp only [equalPlan, Node.twoArguments_rename, Plan.ofExcept_map,
    Plan.mapNodes_ofExcept, Plan.mapNodes, Prod.map]

theorem mapNodes_bucketPlan (argument : Node) :
    (bucketPlan argument).mapNodes (Node.rename target) =
      bucketPlan (argument.rename target) := by
  simp only [bucketPlan, Node.twoArguments_rename, Plan.ofExcept_map,
    Plan.mapNodes_ofExcept, Plan.mapNodes, Prod.map]

/--
The plan of a built-in function on an argument with other names is the same
plan on operands with other names.
-/
theorem mapNodes_plan (builtin : Builtin) (argument : Node) :
    (builtin.plan argument).mapNodes (Node.rename target) =
      builtin.plan (argument.rename target) := by
  cases builtin with
  | conjunction =>
      simp only [plan, Node.arguments_rename, Plan.ofExcept_map,
        Plan.mapNodes_ofExcept, mapNodes_everyPlan]
  | disjunction =>
      simp only [plan, Node.arguments_rename, Plan.ofExcept_map,
        Plan.mapNodes_ofExcept, mapNodes_somePlan]
  | negation => rfl
  | conditional =>
      simp only [plan, Node.arguments_rename, Plan.ofExcept_map,
        Plan.mapNodes_ofExcept, mapNodes_choicePlan]
  | context =>
      simp only [plan, Node.arguments_rename, Plan.ofExcept_map,
        Plan.mapNodes_ofExcept, Plan.mapNodes_values, Plan.mapNodes]
  | greater => exact mapNodes_comparePlan target _ argument
  | less => exact mapNodes_comparePlan target _ argument
  | greaterOrEqual => exact mapNodes_comparePlan target _ argument
  | lessOrEqual => exact mapNodes_comparePlan target _ argument
  | equal => exact mapNodes_equalPlan target argument
  | bucket => exact mapNodes_bucketPlan target argument

end Builtin

/-! ## Trees under other names -/

/--
An error and the same error of a tree with other names: the cause is the same,
and the functions around it, all of them of certain names, go by other names.
-/
structure ConditionError.Renamed
    (target : String → String) (named : String → Prop)
    (error renamed : ConditionError) : Prop where
  cause : error.rootCause = renamed.rootCause
  chain_named : ∀ name ∈ error.functionChain, named name
  chain : error.functionChain.map target = renamed.functionChain

section

variable {target : String → String} {named : String → Prop}

theorem ConditionError.IsOwn.renamed
    {error : ConditionError} (own : error.IsOwn) :
    error.Renamed target named error where
  cause := rfl
  chain_named := by simp [own.functionChain_eq]
  chain := by simp [own.functionChain_eq]

theorem ConditionError.Renamed.inFunction
    {error renamed : ConditionError}
    (inner : error.Renamed target named renamed)
    {name : String} (isNamed : named name) :
    Renamed target named (.inFunction name error)
      (.inFunction (target name) renamed) where
  cause := inner.cause
  chain_named := List.forall_mem_cons.mpr ⟨isNamed, inner.chain_named⟩
  chain := congrArg (target name :: ·) inner.chain

theorem OutcomesRelated.inFunction
    {outcome renamed : Except ConditionError Json}
    (inner : OutcomesRelated (ConditionError.Renamed target named) Eq
      outcome renamed)
    {name : String} (isNamed : named name) :
    OutcomesRelated (ConditionError.Renamed target named) Eq
      (outcome.mapError (.inFunction name))
      (renamed.mapError (.inFunction (target name))) := by
  rcases inner.ok_or_error with
    ⟨_, _, rfl, rfl, values⟩ | ⟨_, _, rfl, rfl, failures⟩
  · exact values
  · exact failures.inFunction isNamed

/-- No function stands around a look-up, so it fails under any names alike. -/
theorem OutcomesRelated.lookup (context : Context) (path : List Json) :
    OutcomesRelated (ConditionError.Renamed target named) Eq
      (Plan.valueAt context.resolve.1 path)
      (Plan.valueAt context.resolve.1 path) := by
  cases found : Plan.valueAt context.resolve.1 path with
  | ok => exact rfl
  | error =>
      exact (Plan.isOwn_of_valueAt
        (fun _ => Context.isOwn_of_resolve) found).renamed

/--
A plan comes to the same outcome for the renamed operands if every one of them
does.
-/
theorem Plan.Keeps.outcome_rename
    {plan : Plan} {operands : Node → Prop}
    (keeps : plan.Keeps operands fun _ => True)
    {answers renamedAnswers : Node → Except ConditionError Json}
    (renamed : ∀ child, operands child →
      OutcomesRelated (ConditionError.Renamed target named) Eq
        (answers child) (renamedAnswers (child.rename target)))
    (context : Context) :
    OutcomesRelated (ConditionError.Renamed target named) Eq
      (plan.outcome answers context.resolve.1)
      ((plan.mapNodes (Node.rename target)).outcome renamedAnswers
        context.resolve.1) := by
  rw [Plan.outcome_mapNodes]
  exact Plan.outcome_related keeps (fun _ own => own.renamed) renamed
    fun path _ => .lookup context path

namespace Evaluator

/--
Two registries bind one name and another to the same built-in function.
-/
def BindAlike (registry other : Registry) (name otherName : String) : Prop :=
  ∃ builtin : Builtin, registry.find? name = some builtin.handler ∧
    other.find? otherName = some builtin.handler

section

variable {evaluator reference : Evaluator} {root : Node}
variable (alike : ∀ name, named name →
  BindAlike evaluator.registry reference.registry name (target name))
variable (isNamed : ∀ name ∈ root.functionNames, named name)

include alike isNamed

theorem callsBuiltins_of_bindAlike :
    root.CallsBuiltins evaluator.registry := by
  intro name called handler found
  rcases alike name (isNamed name called) with ⟨builtin, bound, _⟩
  exact ⟨builtin, trivial, Option.some.inj (found.symm.trans bound)⟩

theorem callsBuiltins_rename :
    (root.rename target).CallsBuiltins reference.registry := by
  intro otherName called handler found
  rw [Node.functionNames_rename] at called
  rcases List.mem_map.mp called with ⟨name, ownCalled, rfl⟩
  rcases alike name (isNamed name ownCalled) with ⟨builtin, _, bound⟩
  exact ⟨builtin, trivial, Option.some.inj (found.symm.trans bound)⟩

/--
A tree comes to the same outcome under other names that are bound to the same
built-in functions.
-/
theorem outcome_rename
    (sameDepth : evaluator.maxDepth = reference.maxDepth)
    (context : Context) (levels : Nat) :
    OutcomesRelated (ConditionError.Renamed target named) Eq
      (evaluator.outcome context levels root)
      (reference.outcome context levels (root.rename target)) := by
  induction levels generalizing root with
  | zero =>
      have tooDeep : ConditionError.Renamed target named
          (.limitExceeded .evaluationDepth evaluator.maxDepth)
          (.limitExceeded .evaluationDepth reference.maxDepth) :=
        ⟨by rw [sameDepth], nofun, rfl⟩
      cases root with
      | literal => exact rfl
      | array => exact tooDeep
      | function => exact tooDeep
  | succ levels ih =>
      have calls := callsBuiltins_of_bindAlike alike isNamed
      have renamedCalls := callsBuiltins_rename alike isNamed
      have below : ∀ child, root.Below child →
          OutcomesRelated (ConditionError.Renamed target named) Eq
            (evaluator.outcome context levels child)
            (reference.outcome context levels (child.rename target)) :=
        fun child below => ih fun name called => isNamed name
          (Node.functionNames_subset_of_contains below.contains called)
      cases root with
      | literal value =>
          rw [Node.rename, outcome_literal, outcome_literal]
          exact rfl
      | array elements =>
          have follows : evaluator.Follows (.array elements) _ :=
            .array elements
          have renamedFollows : reference.Follows
              ((Node.array elements).rename target) _ := .array _
          rw [follows.outcome_eq calls,
            renamedFollows.outcome_eq renamedCalls, Node.rename,
            ConditionError.mapError_inside_array,
            ConditionError.mapError_inside_array, Node.renameAll_eq_map,
            ← Plan.mapNodes_elements]
          exact follows.keeps.outcome_rename below context
      | function name argument =>
          have nameNamed : named name := isNamed name List.mem_cons_self
          rcases alike name nameNamed with ⟨builtin, bound, renamedBound⟩
          have follows : evaluator.Follows (.function name argument) _ :=
            .function bound argument
          have renamedFollows : reference.Follows
              ((Node.function name argument).rename target) _ :=
            .function renamedBound (argument.rename target)
          rw [follows.outcome_eq calls,
            renamedFollows.outcome_eq renamedCalls, ← Builtin.mapNodes_plan]
          exact (follows.keeps.outcome_rename below context).inFunction
            nameNamed

end

end Evaluator

end

end Criteria
