import Criteria.Proofs.Evaluation.Bindings
import Criteria.Proofs.Evaluation.Reach

/-!
# What an error is attributed to

An error of an evaluation carries the names of functions around its root cause.
They are the names of the functions on the path from the root of the tree down
to the node at which the error was raised, each of them once and the outermost
first; arrays on the path contribute nothing.  Whether the node itself is named
depends on the cause.  A function whose handler raises the error is, a function
without a handler is not, and neither is a node that is nested too deep, since
neither of the two was entered.
-/

namespace Criteria

namespace Node

/-- The name that a node calls, if it is a function. -/
def functionName? : Node → Option String
  | .function name _ => some name
  | _ => none

/-- The names of the functions among nodes, in the order of the nodes. -/
def calledNames (nodes : List Node) : List String :=
  nodes.filterMap functionName?

end Node

namespace ConditionError

theorem functionChain_inside (node : Node) (error : ConditionError) :
    (error.inside node).functionChain =
      Node.calledNames [node] ++ error.functionChain := by
  cases node <;> rfl

/--
On its way up an error takes on the names of the functions that it passes.
-/
theorem functionChain_insideAll (nodes : List Node) (error : ConditionError) :
    (error.insideAll nodes).functionChain =
      Node.calledNames nodes ++ error.functionChain := by
  induction nodes with
  | nil => rfl
  | cons node nodes ih =>
      calc (error.insideAll (node :: nodes)).functionChain
          = Node.calledNames [node] ++ (error.insideAll nodes).functionChain :=
            functionChain_inside node _
        _ = Node.calledNames [node] ++
              (Node.calledNames nodes ++ error.functionChain) := by rw [ih]
        _ = Node.calledNames (node :: nodes) ++ error.functionChain := by
            rw [← List.append_assoc, Node.calledNames, Node.calledNames,
              ← List.filterMap_append, List.singleton_append, Node.calledNames]

/-- An error reads as its root cause behind the names around it. -/
theorem message_eq (error : ConditionError) :
    error.message =
      String.join
          (error.functionChain.map fun name => name ++ " expression: ") ++
        error.rootCause.message := by
  induction error with
  | inFunction name source ih =>
      rw [message_inFunction, ih, rootCause_inFunction,
        functionChain_inFunction, List.map_cons, String.join_cons]
      exact String.append_assoc.symm
  | _ => simp [functionChain, rootCause]

end ConditionError

namespace Evaluator

/--
The names that an error is attributed to which a task raises, the nodes above
the task being given: the task itself counts only if it is a function whose own
handler raises the error.
-/
inductive Attributed (evaluator : Evaluator) (context : Context)
    (above : List Node) : Task → ConditionError → List String → Prop where
  | tooDeep {node : Node} (nested : 0 < node.nesting) :
      Attributed evaluator context above ⟨0, node⟩
        (.limitExceeded .evaluationDepth evaluator.maxDepth)
        (Node.calledNames above)
  | unbound {levels : Nat} {name : String} {argument : Node}
      (unbound : evaluator.registry.find? name = none) :
      Attributed evaluator context above
        ⟨levels + 1, .function name argument⟩ (.unknownFunction name)
        (Node.calledNames above)
  | own {levels : Nat} {name : String} {argument : Node} {builtin : Builtin}
      {error : ConditionError}
      (found : evaluator.registry.find? name = some builtin.handler)
      (raises : (builtin.plan argument).Raises
        (evaluator.outcome context levels) context.resolve.1 error)
      (own : error.IsOwn) :
      Attributed evaluator context above
        ⟨levels + 1, .function name argument⟩ error
        (Node.calledNames (above ++ [.function name argument]))

variable {evaluator : Evaluator} {context : Context}

/-- What a task raises is attributed to it and to the nodes above it. -/
theorem Raises.attributed
    {task : Task} {error : ConditionError}
    (raises : evaluator.Raises context task error) (above : List Node) :
    evaluator.Attributed context above task error.rootCause
      (Node.calledNames above ++ error.functionChain) := by
  cases raises with
  | tooDeep nested =>
      rw [ConditionError.functionChain, List.append_nil]
      · exact .tooDeep nested
      · exact nofun
  | unbound unbound =>
      rw [ConditionError.functionChain, List.append_nil]
      · exact .unbound unbound
      · exact nofun
  | @own levels name argument _ inner found raises =>
      have own := isOwn_of_raises raises
      have names : Node.calledNames above ++
          (ConditionError.inFunction name inner).functionChain =
            Node.calledNames (above ++ [.function name argument]) := by
        rw [ConditionError.functionChain_inFunction, own.functionChain_eq,
          Node.calledNames, Node.calledNames, List.filterMap_append]
        rfl
      rw [names, ConditionError.rootCause_inFunction, own.rootCause_eq]
      exact .own found raises own

/--
Errors are attributed to where they come from.  If a condition of built-in
functions fails, its evaluation reached a node at which the root cause was
raised, and the names that the error carries are those of the functions on a
path from the root to that node, the node included exactly if it is a function
whose handler raised the cause; and the error reads as the root cause behind
these names.
-/
theorem failure_is_attributed
    {root : Node} (calls : root.CallsBuiltins evaluator.registry)
    {error : ConditionError}
    (failed : evaluator.evaluate context root = .error error) :
    (∃ task above,
      evaluator.Reaches context ⟨evaluator.maxDepth, root⟩ task ∧
        root.Path above task.node ∧
          evaluator.Attributed context above task error.rootCause
            error.functionChain) ∧
      error.message =
        String.join
          (error.functionChain.map fun name => name ++ " expression: ") ++
            error.rootCause.message := by
  refine ⟨?_, error.message_eq⟩
  rcases exists_raised calls failed with
    ⟨task, above, inner, reaches, path, raises, rfl⟩
  refine ⟨task, above, reaches, path, ?_⟩
  rw [ConditionError.rootCause_insideAll,
    ConditionError.functionChain_insideAll]
  exact raises.attributed above

/-- A comparison that lacks its second operand, within two other functions. -/
def oneOperand : Node :=
  .function "or" (.array [.literal (.boolean false),
    .function "and" (.array [.literal (.boolean true),
      .function "eq" (.array [.literal (.number (.ofInt 1))])])])

/--
A comparison that lacks its second operand is named last, behind the functions
around it.
-/
theorem failure_is_attributed_nested :
    ∃ error, standard.evaluate .empty oneOperand = .error error ∧
      error.message = "or expression: and expression: eq expression: " ++
        "expected 2 argument(s), got 1" ∧
      ∃ task above, oneOperand.Path above task.node ∧
        standard.Attributed .empty above task (.arity (.exactly 2) 1)
          ["or", "and", "eq"] := by
  have failed : standard.evaluate .empty oneOperand =
      .error (.inFunction "or" (.inFunction "and" (.inFunction "eq"
        (.arity (.exactly 2) 1)))) := rfl
  rcases failure_is_attributed (Node.callsBuiltins_builtins _) failed with
    ⟨⟨task, above, _, path, attributed⟩, reads⟩
  exact ⟨_, failed, reads.trans (by decide), task, above, path, attributed⟩

end Evaluator

end Criteria
