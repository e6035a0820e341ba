import Criteria.Proofs.Evaluation.Context
import Criteria.Proofs.Evaluation.PlanOutcome

/-!
# How far an evaluation gets

A task is a node to be evaluated with a number of levels left.  In a tree that
calls built-in functions only, every task but that of a literal follows a plan,
and it begins the tasks of the operands that the plan gets to.  Two things
follow for a whole tree.  What its evaluation comes to depends on what the
context resolves to and on nothing else of it, and the context is left
resolved exactly when a look-up is reached; this is `yields_evaluateWithin`.
And an evaluation fails exactly as some task fails that it reaches: the
failure of a task that is reached is handed on to the root
(`Reaches.outcome_eq_error`), and every failure is raised by a task that is
reached and comes up from there along a path (`exists_raised`).
-/

namespace Criteria

/-! ## Evaluations that may resolve the context -/

/--
What becomes of a context: it is resolved if the condition holds, and left
alone otherwise.
-/
def Context.ResolvedIf (reads : Prop) (before after : Context) : Prop :=
  (reads → after = before.resolve.2) ∧ (¬reads → after = before)

namespace Context.ResolvedIf

variable {reads later : Prop} {before between after : Context}

theorem resolve_eq (first : ResolvedIf reads before after) :
    after.resolve.1 = before.resolve.1 := by
  by_cases read : reads
  · rw [first.1 read, resolve_idem]
  · rw [first.2 read]

theorem trans
    (first : ResolvedIf reads before between)
    (second : ResolvedIf later between after) :
    ResolvedIf (reads ∨ later) before after := by
  by_cases read : reads
  · refine ⟨fun _ => ?_, fun neither => absurd (Or.inl read) neither⟩
    by_cases again : later
    · rw [second.1 again, first.1 read, resolve_idem]
    · rw [second.2 again, first.1 read]
  · rw [first.2 read] at second
    constructor
    · exact fun either => second.1 (either.resolve_left read)
    · exact fun neither => second.2 fun again => neither (Or.inr again)

theorem congr (first : ResolvedIf reads before after) (same : reads ↔ later) :
    ResolvedIf later before after :=
  ⟨fun read => first.1 (same.mpr read),
    fun unread => first.2 (unread ∘ same.mp)⟩

end Context.ResolvedIf

namespace Evaluation

/--
Whatever else has happened before, an evaluation has one outcome against
contexts that resolve to the same, and it resolves the context exactly if a
condition holds.
-/
def Yields {α : Type}
    (root : Except ConditionError Json) (evaluation : Evaluation α)
    (outcome : Except ConditionError α) (reads : Prop) : Prop :=
  ∀ session, session.context.resolve.1 = root →
    (evaluation.runFrom session).1 = outcome ∧
      Context.ResolvedIf reads session.context
        (evaluation.runFrom session).2.context

section

variable {α β : Type} {root : Except ConditionError Json}

theorem yields_ofExcept (outcome : Except ConditionError α) :
    (ofExcept outcome).Yields root outcome False :=
  fun _ _ => ⟨rfl, nofun, fun _ => rfl⟩

theorem yields_lookupContext (path : List Json) :
    (lookupContext path).Yields root (root >>= fun value => value.walk path)
      True := by
  intro session resolves
  refine ⟨?_, fun _ => ?_, fun unread => absurd trivial unread⟩
  · rw [runFrom_lookupContext]
    rcases found : session.context.resolve with ⟨outcome, after⟩
    rw [found] at resolves
    cases resolves
    cases outcome <;> simp [Context.lookup, found, bind, Except.bind]
  · rw [runFrom_lookupContext]
    rcases found : session.context.resolve with ⟨outcome, after⟩
    cases outcome <;> simp [Context.lookup, found]

theorem Yields.bind
    {evaluation : Evaluation α} {next : α → Evaluation β}
    {outcome : Except ConditionError α}
    {laterOutcome : α → Except ConditionError β}
    {reads : Prop} {laterReads : α → Prop}
    (first : evaluation.Yields root outcome reads)
    (later : ∀ value, outcome = .ok value →
      (next value).Yields root (laterOutcome value) (laterReads value)) :
    (evaluation >>= next).Yields root (outcome >>= laterOutcome)
      (reads ∨ ∃ value, outcome = .ok value ∧ laterReads value) := by
  intro session resolves
  rcases first session resolves with ⟨outcomes, contexts⟩
  rw [runFrom_bind]
  rcases ran : evaluation.runFrom session with ⟨found, after⟩
  rw [ran] at outcomes contexts
  simp only at outcomes contexts
  subst outcomes
  cases found with
  | error error =>
      refine ⟨rfl, contexts.congr ?_⟩
      simp
  | ok value =>
      have again : after.context.resolve.1 = root :=
        contexts.resolve_eq.trans resolves
      rcases later value rfl after again with ⟨laterOutcomes, laterContexts⟩
      refine ⟨laterOutcomes, (contexts.trans laterContexts).congr ?_⟩
      simp

theorem Yields.within
    {evaluation : Evaluation α} {outcome : Except ConditionError α}
    {reads : Prop} (first : evaluation.Yields root outcome reads)
    (name : String) :
    (evaluation.within name).Yields root
      (outcome.mapError (.inFunction name)) reads := by
  intro session resolves
  rcases first session resolves with ⟨outcomes, contexts⟩
  rw [runFrom_within]
  rcases ran : evaluation.runFrom session with ⟨found, after⟩
  rw [ran] at outcomes contexts
  simp only at outcomes
  subst outcomes
  cases found with
  | ok value => exact ⟨rfl, contexts⟩
  | error error => exact ⟨rfl, contexts⟩

theorem Yields.congr
    {evaluation : Evaluation α} {outcome : Except ConditionError α}
    {reads same : Prop} (first : evaluation.Yields root outcome reads)
    (equal : reads ↔ same) :
    evaluation.Yields root outcome same :=
  fun session resolves =>
    ⟨(first session resolves).1, (first session resolves).2.congr equal⟩

end

end Evaluation

namespace Plan

/--
A plan comes to its outcome, and resolves the context if it looks a path up or
if an operand that it gets to does.
-/
theorem yields_run
    (scope : Scope) {root : Except ConditionError Json}
    {answers : Node → Except ConditionError Json} {reads : Node → Prop}
    {operands : Node → Prop} {paths : List Json → Prop}
    {plan : Plan} (keeps : plan.Keeps operands paths)
    (evaluates : ∀ node, operands node →
      (scope.evaluate node).Yields root (answers node) (reads node)) :
    (plan.run scope).Yields root (plan.outcome answers root)
      ((∃ path, plan.LooksUp answers path) ∨
        ∃ node, plan.Asks answers node ∧ reads node) := by
  induction plan with
  | finish outcome =>
      refine (Evaluation.yields_ofExcept outcome).congr ?_
      constructor
      · exact False.elim
      · rintro (⟨_, ⟨⟩⟩ | ⟨_, ⟨⟩, _⟩)
  | lookup path =>
      have together : valueAt root path =
          (root >>= fun value => value.walk path) >>=
            fun found => .ok (found.getD .null) := by
        rw [bind_assoc]
        rfl
      rw [outcome, together]
      refine ((Evaluation.yields_lookupContext path).bind fun found _ =>
        Evaluation.yields_ofExcept (.ok (found.getD .null))).congr ?_
      exact iff_of_true (Or.inl trivial) (Or.inl ⟨path, .here⟩)
  | operand node next ih =>
      refine ((evaluates node keeps.1).bind
        fun value _ => ih value (keeps.2 value)).congr ?_
      constructor
      · rintro (read | ⟨value, answered, ⟨path, looksUp⟩ | ⟨asked, asks, read⟩⟩)
        · exact Or.inr ⟨node, .here, read⟩
        · exact Or.inl ⟨path, .later answered looksUp⟩
        · exact Or.inr ⟨asked, .later answered asks, read⟩
      · rintro (⟨path, _ | ⟨answered, looksUp⟩⟩ |
          ⟨asked, _ | ⟨answered, asks⟩, read⟩)
        · exact Or.inr ⟨_, answered, Or.inl ⟨path, looksUp⟩⟩
        · exact Or.inl read
        · exact Or.inr ⟨_, answered, Or.inr ⟨asked, asks, read⟩⟩

end Plan

/-- The plan of a function keeps to its argument and the elements of it. -/
theorem Builtin.keeps_operands
    (builtin : Builtin) (name : String) (argument : Node) :
    (builtin.plan argument).Keeps (Node.function name argument).HasOperand
      (fun _ => builtin = .context) := by
  cases argument with
  | literal value =>
      refine (builtin.keeps_plan (.literal value)).mono ?_ fun _ => id
      intro child member
      exact List.mem_singleton.mp member ▸ .argument
  | array elements =>
      refine (builtin.keeps_plan (.array elements)).mono ?_ fun _ => id
      intro child member
      rcases List.mem_cons.mp member with rfl | inner
      · exact .argument
      · exact .positional inner
  | function =>
      -- Only negation evaluates an argument that is not an array.
      cases builtin with
      | negation => exact ⟨.argument, fun value => Plan.keeps_ok _⟩
      | _ => rintro _ ⟨⟩; trivial

theorem Builtin.keeps_plan_below
    (builtin : Builtin) (name : String) (argument : Node) :
    (builtin.plan argument).Keeps (Node.function name argument).Below
      (fun _ => builtin = .context) :=
  (builtin.keeps_operands name argument).mono
    (fun _ operand => operand.below) fun _ => id

/-! ## Tasks -/

/-- A node to be evaluated with a number of levels left. -/
structure Task where
  levels : Nat
  node : Node

/-- An error as it comes out of a node: within the name of a function. -/
def ConditionError.inside : Node → ConditionError → ConditionError
  | .function name _, error => .inFunction name error
  | _, error => error

@[simp]
theorem ConditionError.rootCause_inside
    (node : Node) (error : ConditionError) :
    (error.inside node).rootCause = error.rootCause := by
  cases node <;> rfl

theorem ConditionError.mapError_inside_array
    (nodes : List Node) (outcome : Except ConditionError Json) :
    outcome.mapError (ConditionError.inside (.array nodes)) = outcome := by
  cases outcome <;> rfl

/--
An error as it comes out of nodes one after the other, the last one first.
-/
def ConditionError.insideAll
    (nodes : List Node) (error : ConditionError) : ConditionError :=
  nodes.foldr inside error

@[simp]
theorem ConditionError.rootCause_insideAll
    (nodes : List Node) (error : ConditionError) :
    (error.insideAll nodes).rootCause = error.rootCause := by
  induction nodes with
  | nil => rfl
  | cons node nodes ih => exact (rootCause_inside node _).trans ih

theorem Except.exists_of_mapError_eq_error
    {ε δ α : Type} {outcome : Except ε α} {rename : ε → δ} {error : δ}
    (failed : outcome.mapError rename = .error error) :
    ∃ inner, outcome = .error inner ∧ rename inner = error := by
  cases outcome with
  | ok => cases failed
  | error inner =>
      cases failed
      exact ⟨inner, rfl, rfl⟩

namespace Evaluator

section

variable (evaluator : Evaluator) (context : Context)

/-- The outcome of a node when a number of levels is left. -/
def outcome (levels : Nat) (node : Node) : Except ConditionError Json :=
  ((evaluator.evaluateWithin levels node).runFrom ⟨context, []⟩).1

/-- The plan that the evaluation of a node follows. -/
inductive Follows : Node → Plan → Prop where
  | array (nodes : List Node) : Follows (.array nodes) (.elements nodes)
  | function {name : String} {builtin : Builtin}
      (found : evaluator.registry.find? name = some builtin.handler)
      (argument : Node) :
      Follows (.function name argument) (builtin.plan argument)

/-- The evaluation of one task gets as far as another, one level down. -/
inductive Begins : Task → Task → Prop where
  | intro {levels : Nat} {node child : Node} {plan : Plan}
      (follows : evaluator.Follows node plan)
      (asks : plan.Asks (evaluator.outcome context levels) child) :
      Begins ⟨levels + 1, node⟩ ⟨levels, child⟩

/-- The evaluation of one task gets as far as another. -/
def Reaches : Task → Task → Prop :=
  Relation.ReflTransGen (evaluator.Begins context)

/--
The evaluation of a task gets as far as looking a path up: it reaches a function
that looks paths up, and all segments of the path have values.
-/
inductive LooksUp (task : Task) : List Json → Prop where
  | intro {levels : Nat} {name : String} {segments : List Node}
      {path : List Json}
      (reaches : evaluator.Reaches context task
        ⟨levels + 1, .function name (.array segments)⟩)
      (found : evaluator.registry.find? name = some Builtin.context.handler)
      (evaluated : List.Forall₂ (fun segment value =>
        evaluator.outcome context levels segment = .ok value) segments path) :
      LooksUp task path

/-- The evaluation of a task gets as far as needing the value of the context. -/
def Consults (task : Task) : Prop :=
  ∃ path, evaluator.LooksUp context task path

/-- A task fails by itself and not as one that it begins. -/
inductive Raises : Task → ConditionError → Prop where
  | tooDeep {node : Node} (nested : 0 < node.nesting) :
      Raises ⟨0, node⟩ (.limitExceeded .evaluationDepth evaluator.maxDepth)
  | unbound {levels : Nat} {name : String} {argument : Node}
      (unbound : evaluator.registry.find? name = none) :
      Raises ⟨levels + 1, .function name argument⟩ (.unknownFunction name)
  | own {levels : Nat} {name : String} {argument : Node} {builtin : Builtin}
      {error : ConditionError}
      (found : evaluator.registry.find? name = some builtin.handler)
      (raises : (builtin.plan argument).Raises
        (evaluator.outcome context levels) context.resolve.1 error) :
      Raises ⟨levels + 1, .function name argument⟩ (.inFunction name error)

/-- An error that arises at a task itself and not below it. -/
inductive FailsAt : Task → ConditionError → Prop where
  | tooDeep {node : Node} (nested : 0 < node.nesting) :
      FailsAt ⟨0, node⟩ (.limitExceeded .evaluationDepth evaluator.maxDepth)
  | unbound {levels : Nat} {name : String} {argument : Node}
      (unbound : evaluator.registry.find? name = none) :
      FailsAt ⟨levels + 1, .function name argument⟩ (.unknownFunction name)
  | own {levels : Nat} {name : String} {argument : Node} {builtin : Builtin}
      {error : ConditionError}
      (found : evaluator.registry.find? name = some builtin.handler)
      (own : error.IsOwn) :
      FailsAt ⟨levels + 1, .function name argument⟩ error

end

section

variable {evaluator : Evaluator} {context : Context}

theorem Follows.keeps_operands
    {node : Node} {plan : Plan} (follows : evaluator.Follows node plan) :
    plan.Keeps node.HasOperand (fun _ => True) := by
  cases follows with
  | array nodes =>
      exact (Plan.keeps_elements nodes).mono
        (fun child member => .element member) fun _ => False.elim
  | function found argument =>
      exact (Builtin.keeps_operands _ _ argument).mono (fun _ => id)
        fun _ _ => trivial

theorem Follows.keeps
    {node : Node} {plan : Plan} (follows : evaluator.Follows node plan) :
    plan.Keeps node.Below (fun _ => True) :=
  follows.keeps_operands.mono (fun _ operand => operand.below) fun _ => id

/-- What is begun stands below what began it. -/
theorem Begins.below
    {task later : Task} (begins : evaluator.Begins context task later) :
    task.node.Below later.node := by
  cases begins with
  | intro follows asks => exact asks.of_keeps follows.keeps

/--
A path leads down from a task to what it begins; on its way up along the path
an error is put within the name of the function that began it, if it is one.
-/
theorem Begins.exists_path
    {task later : Task} (begins : evaluator.Begins context task later) :
    ∃ above, task.node.Path above later.node ∧
      ∀ error : ConditionError,
        error.insideAll above = error.inside task.node := by
  cases begins with
  | @intro _ node child _ follows asks =>
      have operand := asks.of_keeps follows.keeps_operands
      cases operand with
      | element member =>
          exact ⟨_, .down member (.here child), fun _ => rfl⟩
      | argument =>
          have hasArgument := List.mem_singleton_self child
          exact ⟨_, .down hasArgument (.here child), fun _ => rfl⟩
      | @positional name elements _ member =>
          have hasArgument := List.mem_singleton_self (Node.array elements)
          exact ⟨_, .down hasArgument (.down member (.here child)),
            fun _ => rfl⟩

/-- Where the levels left cover the nesting, they do so one level down. -/
theorem Begins.nesting_le
    {task later : Task} (begins : evaluator.Begins context task later)
    (enough : task.node.nesting ≤ task.levels) :
    later.node.nesting ≤ later.levels := by
  have nested := begins.below.nesting_lt
  cases begins with
  | intro follows asks =>
      simp only at nested enough ⊢
      omega

theorem Reaches.contains
    {task later : Task} (reaches : evaluator.Reaches context task later) :
    task.node.Contains later.node := by
  induction reaches with
  | refl => exact .refl
  | tail _ begins ih => exact ih.trans begins.below.contains

theorem Reaches.nesting_le
    {task later : Task} (reaches : evaluator.Reaches context task later)
    (enough : task.node.nesting ≤ task.levels) :
    later.node.nesting ≤ later.levels := by
  induction reaches with
  | refl => exact enough
  | tail _ begins ih => exact begins.nesting_le ih

/-! ## What evaluations come to -/

theorem consults_iff {levels : Nat} {node : Node} :
    evaluator.Consults context ⟨levels + 1, node⟩ ↔
      ∃ plan, evaluator.Follows node plan ∧
        ((∃ path, plan.LooksUp (evaluator.outcome context levels) path) ∨
          ∃ child, plan.Asks (evaluator.outcome context levels) child ∧
            evaluator.Consults context ⟨levels, child⟩) := by
  constructor
  · rintro ⟨path, ⟨reaches, found, evaluated⟩⟩
    rcases Relation.ReflTransGen.cases_head reaches with
      equal | ⟨_, begins, rest⟩
    · cases equal
      exact ⟨_, .function found _, Or.inl ⟨path,
        Builtin.looksUp_plan_iff.mpr ⟨rfl, _, rfl, evaluated⟩⟩⟩
    · cases begins with
      | intro follows asks =>
          have looksUp := LooksUp.intro rest found evaluated
          exact ⟨_, follows, Or.inr ⟨_, asks, path, looksUp⟩⟩
  · rintro ⟨plan, follows, ⟨path, looksUp⟩ | ⟨child, asks, path, looksUp⟩⟩
    · cases follows with
      | array nodes =>
          exact absurd (looksUp.of_keeps (Plan.keeps_elements nodes)) id
      | function found argument =>
          rcases Builtin.looksUp_plan_iff.mp looksUp with
            ⟨rfl, segments, rfl, evaluated⟩
          exact ⟨path, .intro .refl found evaluated⟩
    · cases looksUp with
      | intro reaches found evaluated =>
          have further := Relation.ReflTransGen.head
            (Begins.intro follows asks) reaches
          exact ⟨path, .intro further found evaluated⟩

section

variable {node : Node} {levels : Nat}
variable (operands : ∀ child, node.Below child →
  (evaluator.evaluateWithin levels child).Yields context.resolve.1
    (evaluator.outcome context levels child)
    (evaluator.Consults context ⟨levels, child⟩))

include operands

/-- The evaluation of a node follows its plan. -/
theorem Follows.yields
    {plan : Plan} (follows : evaluator.Follows node plan) :
    (evaluator.evaluateWithin (levels + 1) node).Yields context.resolve.1
      ((plan.outcome (evaluator.outcome context levels)
        context.resolve.1).mapError (.inside node))
      ((∃ path, plan.LooksUp (evaluator.outcome context levels) path) ∨
        ∃ child, plan.Asks (evaluator.outcome context levels) child ∧
          evaluator.Consults context ⟨levels, child⟩) := by
  have ran := Plan.yields_run
    ⟨evaluator.evaluateWithin levels, evaluator.registry.contains⟩
    follows.keeps operands
  cases follows with
  | array nodes =>
      rw [Plan.run_elements] at ran
      rw [ConditionError.mapError_inside_array, evaluateWithin]
      exact ran
  | function found argument =>
      rw [evaluateWithin, Registry.invoke, found]
      simp only [Builtin.handler_eq_run]
      exact ran.within _

/--
The outcome of a node that follows a plan is that of the plan, within the name
of the function.
-/
theorem Follows.outcome_eq_of_yields
    {plan : Plan} (follows : evaluator.Follows node plan) :
    evaluator.outcome context (levels + 1) node =
      (plan.outcome (evaluator.outcome context levels)
        context.resolve.1).mapError (.inside node) :=
  (follows.yields operands ⟨context, []⟩ rfl).1

/-- A node that follows a plan resolves the context if it gets to need it. -/
theorem Follows.yields_consults
    {plan : Plan} (follows : evaluator.Follows node plan) :
    (evaluator.evaluateWithin (levels + 1) node).Yields context.resolve.1
      (evaluator.outcome context (levels + 1) node)
      (evaluator.Consults context ⟨levels + 1, node⟩) := by
  intro session resolves
  rcases follows.yields operands session resolves with ⟨outcomes, reads⟩
  rw [← follows.outcome_eq_of_yields operands] at outcomes
  refine ⟨outcomes, fun consults => ?_, fun unread => ?_⟩
  · rcases consults_iff.mp consults with ⟨_, also, needed⟩
    exact (also.yields operands session resolves).2.1 needed
  · exact reads.2 fun needed =>
      unread (consults_iff.mpr ⟨plan, follows, needed⟩)

end

theorem not_consults_literal {levels : Nat} {value : Literal} :
    ¬evaluator.Consults context ⟨levels, .literal value⟩ := by
  rintro ⟨path, ⟨reaches, found, evaluated⟩⟩
  rcases Relation.ReflTransGen.cases_head reaches with equal | ⟨_, ⟨⟨⟩, _⟩, _⟩
  cases equal

theorem not_consults_zero {node : Node} :
    ¬evaluator.Consults context ⟨0, node⟩ := by
  rintro ⟨path, ⟨reaches, found, evaluated⟩⟩
  rcases Relation.ReflTransGen.cases_head reaches with equal | ⟨_, ⟨⟩, _⟩
  cases equal

/-- A function without a handler is not carried out at all. -/
theorem not_consults_unbound
    {levels : Nat} {name : String} {argument : Node}
    (unbound : evaluator.registry.find? name = none) :
    ¬evaluator.Consults context ⟨levels + 1, .function name argument⟩ := by
  intro consults
  rcases consults_iff.mp consults with ⟨_, ⟨⟩ | ⟨found, _⟩, _⟩
  rw [unbound] at found
  cases found

/--
A tree that calls built-in functions only comes to one outcome, whatever has
happened to the context before, and resolves the context exactly if it gets as
far as needing its value.
-/
theorem yields_evaluateWithin
    (context : Context) {node : Node}
    (calls : node.CallsBuiltins evaluator.registry) (levels : Nat) :
    (evaluator.evaluateWithin levels node).Yields context.resolve.1
      (evaluator.outcome context levels node)
      (evaluator.Consults context ⟨levels, node⟩) := by
  induction levels generalizing node with
  | zero =>
      cases node with
      | literal value =>
          exact (Evaluation.yields_ofExcept (.ok value.toJson)).congr
            (iff_of_false id not_consults_literal)
      | array elements =>
          exact (Evaluation.yields_ofExcept (.error _)).congr
            (iff_of_false id not_consults_zero)
      | function name argument =>
          exact (Evaluation.yields_ofExcept (.error _)).congr
            (iff_of_false id not_consults_zero)
  | succ levels ih =>
      have operands : ∀ child, node.Below child →
          (evaluator.evaluateWithin levels child).Yields context.resolve.1
            (evaluator.outcome context levels child)
            (evaluator.Consults context ⟨levels, child⟩) :=
        fun child below => ih (calls.of_contains below.contains)
      cases node with
      | literal value =>
          exact (Evaluation.yields_ofExcept (.ok value.toJson)).congr
            (iff_of_false id not_consults_literal)
      | array elements =>
          exact (Follows.array elements).yields_consults operands
      | function name argument =>
          cases found : evaluator.registry.find? name with
          | some handler =>
              rcases calls.handler found with ⟨builtin, _, rfl⟩
              exact (Follows.function found argument).yields_consults operands
          | none =>
              have thrown : evaluator.evaluateWithin (levels + 1)
                  (.function name argument) =
                    Evaluation.ofExcept (.error (.unknownFunction name)) := by
                rw [evaluateWithin, Registry.invoke, found]
                rfl
              rw [outcome, thrown]
              exact (Evaluation.yields_ofExcept _).congr
                (iff_of_false id (not_consults_unbound found))

section

variable {node : Node} (calls : node.CallsBuiltins evaluator.registry)

include calls

/-- The outcome of a node by the plan that its evaluation follows. -/
theorem Follows.outcome_eq
    {plan : Plan} (follows : evaluator.Follows node plan) (levels : Nat) :
    evaluator.outcome context (levels + 1) node =
      (plan.outcome (evaluator.outcome context levels)
        context.resolve.1).mapError (.inside node) :=
  follows.outcome_eq_of_yields fun _ below =>
    yields_evaluateWithin context (calls.of_contains below.contains) levels

end

@[simp]
theorem outcome_literal (levels : Nat) (value : Literal) :
    evaluator.outcome context levels (.literal value) = .ok value.toJson := by
  cases levels <;> rfl

theorem outcome_zero {node : Node} (nested : 0 < node.nesting) :
    evaluator.outcome context 0 node =
      .error (.limitExceeded .evaluationDepth evaluator.maxDepth) := by
  cases node with
  | literal => simp [Node.nesting] at nested
  | array => rfl
  | function => rfl

theorem outcome_unbound
    {name : String} (unbound : evaluator.registry.find? name = none)
    (levels : Nat) (argument : Node) :
    evaluator.outcome context (levels + 1) (.function name argument) =
      .error (.unknownFunction name) := by
  rw [outcome, evaluateWithin, Registry.invoke, unbound]
  rfl

/-! ## Where failures come from and where they go -/

/-- The failure of a task that is begun is handed on. -/
theorem Begins.outcome_eq_error
    {task later : Task} (begins : evaluator.Begins context task later)
    (calls : task.node.CallsBuiltins evaluator.registry)
    {error : ConditionError}
    (failed : evaluator.outcome context later.levels later.node =
      .error error) :
    evaluator.outcome context task.levels task.node =
      .error (error.inside task.node) := by
  cases begins with
  | intro follows asks =>
      rw [follows.outcome_eq calls, asks.outcome_eq_error failed]
      rfl

/-- The failure of a task that is reached is that of the whole. -/
theorem Reaches.outcome_eq_error
    {task later : Task} (reaches : evaluator.Reaches context task later)
    (calls : task.node.CallsBuiltins evaluator.registry)
    {error : ConditionError}
    (failed : evaluator.outcome context later.levels later.node =
      .error error) :
    ∃ outer, evaluator.outcome context task.levels task.node = .error outer ∧
      outer.rootCause = error.rootCause := by
  induction reaches generalizing error with
  | refl => exact ⟨error, failed, rfl⟩
  | tail rest begins ih =>
      have inner := calls.of_contains (Reaches.contains rest)
      rcases ih (begins.outcome_eq_error inner failed) with ⟨outer, fails, same⟩
      rw [ConditionError.rootCause_inside] at same
      exact ⟨outer, fails, same⟩

/-- A look-up that is reached fails if the context does not resolve. -/
theorem LooksUp.outcome_eq_error
    {task : Task} {path : List Json}
    (looksUp : evaluator.LooksUp context task path)
    (calls : task.node.CallsBuiltins evaluator.registry)
    {error : ConditionError} (unresolved : context.resolve.1 = .error error) :
    ∃ outer, evaluator.outcome context task.levels task.node = .error outer ∧
      outer.rootCause = error.rootCause := by
  cases looksUp with
  | @intro levels name segments _ reaches found evaluated =>
      have inner := calls.of_contains reaches.contains
      have planned := Builtin.looksUp_plan_iff.mpr ⟨rfl, _, rfl, evaluated⟩
      have follows : evaluator.Follows (.function name (.array segments)) _ :=
        .function found (.array segments)
      have failed : evaluator.outcome context (levels + 1)
          (.function name (.array segments)) =
            .error (.inFunction name error) := by
        rw [follows.outcome_eq inner, planned.outcome_eq, unresolved]
        rfl
      have handedOn := reaches.outcome_eq_error calls failed
      exact handedOn

/-- What a built-in function raises is an error of its own. -/
theorem isOwn_of_raises
    {levels : Nat} {builtin : Builtin} {argument : Node}
    {error : ConditionError}
    (raises : (builtin.plan argument).Raises
      (evaluator.outcome context levels) context.resolve.1 error) :
    error.IsOwn :=
  raises.isOwn (builtin.keeps_plan argument) fun _ => Context.isOwn_of_resolve

theorem Raises.failsAt
    {task : Task} {error : ConditionError}
    (raises : evaluator.Raises context task error) :
    evaluator.FailsAt task error.rootCause := by
  cases raises with
  | tooDeep nested => exact .tooDeep nested
  | unbound unbound => exact .unbound unbound
  | own found raises =>
      have own := isOwn_of_raises raises
      rw [ConditionError.rootCause_inFunction, own.rootCause_eq]
      exact .own found own

/-- A task fails as one that it begins, or by itself. -/
theorem exists_begins_or_raises
    {levels : Nat} {node : Node} {error : ConditionError}
    (calls : node.CallsBuiltins evaluator.registry)
    (failed : evaluator.outcome context (levels + 1) node = .error error) :
    (∃ child inner,
      evaluator.Begins context ⟨levels + 1, node⟩ ⟨levels, child⟩ ∧
        evaluator.outcome context levels child = .error inner ∧
          inner.inside node = error) ∨
      evaluator.Raises context ⟨levels + 1, node⟩ error := by
  cases node with
  | literal value =>
      rw [outcome_literal] at failed
      cases failed
  | array elements =>
      have follows : evaluator.Follows (.array elements) _ := .array elements
      rw [follows.outcome_eq calls,
        ConditionError.mapError_inside_array] at failed
      rcases Plan.exists_asks_of_elements_eq_error failed with
        ⟨child, asks, fails⟩
      exact Or.inl ⟨child, error, .intro follows asks, fails, rfl⟩
  | function name argument =>
      cases found : evaluator.registry.find? name with
      | none =>
          rw [outcome_unbound found] at failed
          cases failed
          exact Or.inr (.unbound found)
      | some handler =>
          rcases calls.handler found with ⟨builtin, _, rfl⟩
          have follows : evaluator.Follows (.function name argument) _ :=
            .function found argument
          rw [follows.outcome_eq calls] at failed
          rcases Except.exists_of_mapError_eq_error failed with
            ⟨inner, fails, rfl⟩
          rcases Plan.exists_asks_or_raises fails with
            ⟨child, asks, childFails⟩ | raises
          · exact Or.inl ⟨child, inner, .intro follows asks, childFails, rfl⟩
          · exact Or.inr (.own found raises)

/--
Every failure is raised by a task that is reached, and has come up from there
along a path.
-/
theorem exists_raised
    {levels : Nat} {node : Node} {error : ConditionError}
    (calls : node.CallsBuiltins evaluator.registry)
    (failed : evaluator.outcome context levels node = .error error) :
    ∃ task above inner, evaluator.Reaches context ⟨levels, node⟩ task ∧
      node.Path above task.node ∧ evaluator.Raises context task inner ∧
        inner.insideAll above = error := by
  induction levels generalizing node error with
  | zero =>
      by_cases nested : 0 < node.nesting
      · rw [outcome_zero nested] at failed
        cases failed
        exact ⟨⟨0, node⟩, [], _, .refl, .here node, .tooDeep nested, rfl⟩
      · cases node with
        | literal value =>
            rw [outcome_literal] at failed
            cases failed
        | array => simp [Node.nesting] at nested
        | function => simp [Node.nesting] at nested
  | succ levels ih =>
      rcases exists_begins_or_raises calls failed with
        ⟨child, first, begins, fails, rfl⟩ | atOnce
      · have below := calls.of_contains begins.below.contains
        rcases ih below fails with
          ⟨task, beneath, inner, reaches, path, raises, rfl⟩
        rcases begins.exists_path with ⟨above, down, within⟩
        refine ⟨task, above ++ beneath, inner, .head begins reaches,
          down.trans path, raises, ?_⟩
        rw [ConditionError.insideAll, List.foldr_append]
        exact within _
      · exact ⟨⟨levels + 1, node⟩, [], error, .refl, .here node, atOnce, rfl⟩

/-- Every failure starts at a task that is reached. -/
theorem exists_origin
    {levels : Nat} {node : Node} {error : ConditionError}
    (calls : node.CallsBuiltins evaluator.registry)
    (failed : evaluator.outcome context levels node = .error error) :
    ∃ task, evaluator.Reaches context ⟨levels, node⟩ task ∧
      evaluator.FailsAt task error.rootCause := by
  rcases exists_raised calls failed with
    ⟨task, above, inner, reaches, _, raises, rfl⟩
  rw [ConditionError.rootCause_insideAll]
  exact ⟨task, reaches, raises.failsAt⟩

end

end Evaluator

end Criteria
