import Mathlib.Data.Set.Defs
import Criteria.Proofs.Evaluation.Bindings
import Criteria.Proofs.Evaluation.Reach

/-!
# Which parts of a context a condition reads

A condition whose look-ups all start at a written-out key reads no more of the
context than the members under these keys.  Against two objects that agree on
them it comes to the same value or the same error, although further segments of
a path may be computed, even from what was looked up before.  A condition
without look-ups comes to the same against any two contexts and leaves both as
they are.
-/

namespace Criteria

namespace Node

/--
Every function of a tree that looks paths up is given an array that starts with
one of certain keys as a string literal.
-/
def ReadsOnly (keys : Set String) (registry : Registry) (root : Node) : Prop :=
  ∀ name argument, root.Contains (.function name argument) →
    registry.find? name = some Builtin.context.handler →
      ∃ key ∈ keys, ∃ segments,
        argument = .array (.literal (.string key) :: segments)

variable {registry : Registry} {root node : Node}

theorem ReadsOnly.of_contains
    {keys : Set String} (reads : root.ReadsOnly keys registry)
    (contains : root.Contains node) :
    node.ReadsOnly keys registry :=
  fun name argument within =>
    reads name argument (Relation.ReflTransGen.trans contains within)

/-- A tree that calls no function that looks paths up reads nothing. -/
theorem readsOnly_empty
    (unread : ∀ name ∈ root.functionNames,
      registry.find? name ≠ some Builtin.context.handler) :
    root.ReadsOnly ∅ registry :=
  fun name _ contains found =>
    absurd found (unread name (mem_functionNames_of_contains contains))

end Node

namespace Evaluator

open Plan (valueAt)

variable {evaluator : Evaluator} {root : Node} {left right : Context}

/-- Paths that start at a key lead to the same in objects that agree on it. -/
theorem valueAt_congr
    {leftMembers rightMembers : List (String × Json)} {key : String}
    (same : leftMembers.lookup key = rightMembers.lookup key)
    (path : List Json) :
    valueAt (.ok (.object leftMembers)) (.string key :: path) =
      valueAt (.ok (.object rightMembers)) (.string key :: path) := by
  have walks : (Json.object leftMembers).walk (.string key :: path) =
      (Json.object rightMembers).walk (.string key :: path) := by
    simp only [Json.walk, Json.descend, same]
  simp only [valueAt, bind, Except.bind, walks]

/-- A look-up that starts at a key looks up a path that starts at that key. -/
theorem outcome_context
    {context : Context} {levels : Nat} {root : Except ConditionError Json}
    {key : String} {segments : List Node} :
    (Builtin.context.plan
      (.array (.literal (.string key) :: segments))).outcome
        (evaluator.outcome context levels) root =
      (Plan.values segments fun path => .lookup (.string key :: path)).outcome
        (evaluator.outcome context levels) root :=
  Plan.outcome_operand_of_ok (outcome_literal levels (.string key))

theorem keeps_context (key : String) (segments : List Node) :
    (Plan.values segments fun path => .lookup (.string key :: path)).Keeps
      (· ∈ segments) (fun found => ∃ path, found = .string key :: path) :=
  Plan.keeps_values (fun _ member => member) fun path => ⟨path, rfl⟩

theorem below_of_mem_segments
    {name : String} {first segment : Node} {segments : List Node}
    (member : segment ∈ segments) :
    (Node.function name (.array (first :: segments))).Below segment :=
  .head (List.mem_singleton_self _)
    (.single (List.mem_cons_of_mem first member))

/--
Two contexts in which the paths that a tree may look up lead to the same give
the tree the same outcome.
-/
theorem outcome_eq_of_readsOnly
    {keys : Set String} (calls : root.CallsBuiltins evaluator.registry)
    (reads : root.ReadsOnly keys evaluator.registry)
    (agree : ∀ key ∈ keys, ∀ path,
      valueAt left.resolve.1 (.string key :: path) =
        valueAt right.resolve.1 (.string key :: path))
    (levels : Nat) :
    evaluator.outcome left levels root =
      evaluator.outcome right levels root := by
  induction levels generalizing root with
  | zero => cases root <;> rfl
  | succ levels ih =>
      have operands : ∀ child, root.Below child →
          evaluator.outcome left levels child =
            evaluator.outcome right levels child :=
        fun child below =>
          ih (calls.of_contains below.contains)
            (reads.of_contains below.contains)
      cases root with
      | literal => rfl
      | array elements =>
          have follows : evaluator.Follows (.array elements) _ :=
            .array elements
          rw [follows.outcome_eq calls, follows.outcome_eq calls]
          refine congrArg _ (Plan.outcome_congr
            (Plan.keeps_elements elements) ?_ ?_)
          · exact fun child member => operands child (.single member)
          · exact fun _ impossible => impossible.elim
      | function name argument =>
          cases found : evaluator.registry.find? name with
          | none => rw [outcome_unbound found, outcome_unbound found]
          | some handler =>
              rcases calls.handler found with ⟨builtin, _, rfl⟩
              have follows : evaluator.Follows (.function name argument) _ :=
                .function found argument
              rw [follows.outcome_eq calls, follows.outcome_eq calls]
              refine congrArg _ ?_
              by_cases isContext : builtin = .context
              · subst isContext
                rcases reads name argument .refl found with
                  ⟨key, named, segments, rfl⟩
                rw [outcome_context, outcome_context]
                refine Plan.outcome_congr
                  (keeps_context key segments) ?_ ?_
                · exact fun child member =>
                    operands child (below_of_mem_segments member)
                · rintro _ ⟨path, rfl⟩
                  exact agree key named path
              · exact Plan.outcome_congr
                  (builtin.keeps_plan_below name argument) operands
                  fun _ looksUp => absurd looksUp isContext

/-- A tree that calls no function that looks paths up needs no context. -/
theorem not_consults
    (unread : ∀ name ∈ root.functionNames,
      evaluator.registry.find? name ≠ some Builtin.context.handler)
    {context : Context} {levels : Nat} :
    ¬evaluator.Consults context ⟨levels, root⟩ := by
  rintro ⟨path, ⟨reaches, found, evaluated⟩⟩
  exact unread _ (Node.mem_functionNames_of_contains reaches.contains) found

/--
A condition is influenced by nothing in the context but the members under the
keys that it names; and if it names none, then not even by whether the context
can be decoded, which is not tried.
-/
theorem evaluate_reads_named_keys_only
    {evaluator : Evaluator} {root : Node}
    (calls : root.CallsBuiltins evaluator.registry) :
    (∀ (keys : Set String) (left right : Context) leftMembers rightMembers,
      root.ReadsOnly keys evaluator.registry →
        left.resolve.1 = .ok (.object leftMembers) →
          right.resolve.1 = .ok (.object rightMembers) →
            (∀ key ∈ keys, leftMembers.lookup key = rightMembers.lookup key) →
              evaluator.evaluate left root = evaluator.evaluate right root) ∧
    ((∀ name ∈ root.functionNames,
        evaluator.registry.find? name ≠ some Builtin.context.handler) →
      ∀ left right : Context,
        evaluator.evaluate left root = evaluator.evaluate right root ∧
          (evaluator.run left root).2.context = left ∧
            (evaluator.run right root).2.context = right) := by
  constructor
  · intro keys left right leftMembers rightMembers reads leftResolves
      rightResolves same
    refine outcome_eq_of_readsOnly calls reads ?_ evaluator.maxDepth
    intro key named path
    rw [leftResolves, rightResolves]
    exact valueAt_congr (same key named) path
  · intro unread left right
    have unchanged : ∀ context : Context,
        (evaluator.run context root).2.context = context := by
      intro context
      have yields := yields_evaluateWithin context calls
        evaluator.maxDepth ⟨context, []⟩ rfl
      exact yields.2.2 (not_consults unread)
    refine ⟨?_, unchanged left, unchanged right⟩
    refine outcome_eq_of_readsOnly calls (Node.readsOnly_empty unread) ?_
      evaluator.maxDepth
    rintro key ⟨⟩

/-- A look-up whose second segment is looked up as well. -/
def nestedLookup : Node :=
  .function "context" (.array [.literal (.string "user"),
    .function "context" (.array [.literal (.string "field")])])

/-- An object with a member that the nested look-up does not name. -/
def recordWith (other : Json) : Json :=
  .object [("field", .string "mail"), ("other", other),
    ("user", .object [("mail", .null)])]

/--
A nested look-up does not see a member that it does not name, and a negation
does not see that there is no context at all.
-/
theorem evaluate_reads_named_keys_only_nested :
    nestedLookup.CallsBuiltins Registry.builtins ∧
      nestedLookup.ReadsOnly {"field", "user"} Registry.builtins ∧
      Evaluator.standard.evaluate (.ofValue (recordWith .null)) nestedLookup =
        Evaluator.standard.evaluate (.ofValue (recordWith (.bool true)))
          nestedLookup ∧
      Evaluator.standard.evaluate (.raw "\x7b")
          (.function "not" (.literal .null)) =
        Evaluator.standard.evaluate .empty
          (.function "not" (.literal .null)) := by
  have reads :
      nestedLookup.ReadsOnly {"field", "user"} Registry.builtins := by
    intro name argument contains found
    have calls :
        "context" = name ∧ .array [.literal (.string "user"),
            .function "context" (.array [.literal (.string "field")])] =
          argument ∨
        "context" = name ∧
          .array [.literal (.string "field")] = argument := by
      simpa [nestedLookup] using contains
    rcases calls with ⟨_, rfl⟩ | ⟨_, rfl⟩
    · exact ⟨"user", Or.inr rfl, _, rfl⟩
    · exact ⟨"field", Or.inl rfl, _, rfl⟩
  have calls (node : Node) :
      node.CallsBuiltins Evaluator.standard.registry :=
    Node.callsBuiltins_builtins node
  refine ⟨calls nestedLookup, reads, ?_, ?_⟩
  · refine (evaluate_reads_named_keys_only (calls nestedLookup)).1 _ _ _ _ _
      reads rfl rfl ?_
    rintro key (rfl | rfl) <;> rfl
  · refine ((evaluate_reads_named_keys_only (calls _)).2 ?_ _ _).1
    intro name named
    rw [List.mem_singleton.mp named]
    exact mt Registry.find?_builtins_eq_context_iff.mp (by decide)

end Evaluator

end Criteria
