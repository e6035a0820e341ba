import Criteria.Proofs.Evaluation.Bindings
import Criteria.Proofs.Evaluation.CutShort
import Criteria.Proofs.Evaluation.Occurrence
import Criteria.Evaluation.Custom

/-!
# What recorders see of an evaluation

A recorder is a handler that evaluates its argument once, records a mark of the
call and the value, and answers with the value; a mark may be the value alone,
or tell which call was invoked.  In a tree of built-in functions
and recorders the recorders that are invoked make up a part of the recorders of
the tree in post-order: no operand is evaluated twice or before one further to
the left.  `Recording.Records` says so of an evaluation whose candidates are
given in order; the plans of the built-in functions scan their operands from
left to right, and so an evaluation that follows a plan keeps to the candidates
of the operands.
-/

namespace Criteria

/--
Evaluates the argument, records a mark of the call and the value, and answers
with the value.
-/
def Handler.recordingAs (mark : Call → Json → Json) : Handler :=
  fun scope call => do
    let value ← scope.evaluate call.argument
    Evaluation.note (mark call value)
    return value

/-- The recorder whose mark is the value itself. -/
theorem Handler.recordingAs_value :
    recordingAs (fun _ value => value) = recording :=
  rfl

theorem Handler.relays_recordingAs (mark : Call → Json → Json) :
    (recordingAs mark).Relays := by
  intro cause narrow wide call _ evaluates
  have argument : (Node.function call.name call.argument).Below call.argument :=
    .single List.mem_cons_self
  exact (evaluates _ argument).bind fun _ => .same _

/--
What recorders make of their calls, which values are right for a call, and what
the context resolves to.
-/
structure Recording where
  mark : Call → Json → Json
  valid : Call → Json → Prop
  resolved : Except ConditionError Json

namespace Recording

variable {recording : Recording} {complete : Prop}

/--
Since a session some of the candidates have been invoked, in order and each at
most once, and their marks recorded; all of them if this is to be complete.
-/
def Noted (recording : Recording) (complete : Prop) (candidates : List Call)
    (before after : Session) : Prop :=
  ∃ invoked : List (Call × Json),
    (invoked.map Prod.fst).Sublist candidates ∧
    (complete → invoked.map Prod.fst = candidates) ∧
    (∀ pair ∈ invoked, recording.valid pair.1 pair.2) ∧
    after.recorded = before.recorded ++
      invoked.map fun pair => recording.mark pair.1 pair.2

namespace Noted

variable {before between after : Session} {candidates later : List Call}

theorem none (same : after.recorded = before.recorded) :
    recording.Noted complete [] before after :=
  ⟨[], List.nil_sublist _, fun _ => rfl, nofun, by simp [same]⟩

theorem trans
    (first : recording.Noted complete candidates before between)
    (second : recording.Noted complete later between after) :
    recording.Noted complete (candidates ++ later) before after := by
  rcases first with ⟨invoked, among, all, valid, recorded⟩
  rcases second with ⟨others, amongLater, allLater, validLater, recordedLater⟩
  refine ⟨invoked ++ others, ?_, ?_, ?_, ?_⟩
  · rw [List.map_append]
    exact among.append amongLater
  · intro whole
    rw [List.map_append, all whole, allLater whole]
  · exact List.forall_mem_append.mpr ⟨valid, validLater⟩
  · rw [recordedLater, recorded, List.map_append, List.append_assoc]

/-- Fewer candidates are some of more. -/
theorem widen
    (noted : recording.Noted complete candidates before after)
    (partly : ¬ complete) (more : candidates.Sublist later) :
    recording.Noted complete later before after := by
  rcases noted with ⟨invoked, among, _, valid, recorded⟩
  exact ⟨invoked, among.trans more, fun whole => absurd whole partly, valid,
    recorded⟩

end Noted

/--
From sessions whose context resolves as given, an evaluation has one outcome,
leaves the context resolving to the same, and has noted candidates.  If it is to
be complete, it succeeds.
-/
def Records {α : Type} (recording : Recording) (complete : Prop)
    (evaluation : Evaluation α) (candidates : List Call) : Prop :=
  ∃ outcome : Except ConditionError α,
    (complete → ∃ value, outcome = .ok value) ∧
    ∀ session, session.context.resolve.1 = recording.resolved →
      ∃ after, evaluation.runFrom session = (outcome, after) ∧
        after.context.resolve.1 = recording.resolved ∧
        recording.Noted complete candidates session after

namespace Records

variable {α β : Type} {candidates later : List Call}

theorem pure (value : α) :
    recording.Records complete (Pure.pure value) [] :=
  ⟨.ok value, fun _ => ⟨value, rfl⟩,
    fun session resolves => ⟨session, rfl, resolves, .none rfl⟩⟩

theorem ofExcept (partly : ¬ complete) (outcome : Except ConditionError α) :
    recording.Records complete (Evaluation.ofExcept outcome) [] :=
  ⟨outcome, fun whole => absurd whole partly,
    fun session resolves => ⟨session, rfl, resolves, .none rfl⟩⟩

theorem lookupContext (partly : ¬ complete) (path : List Json) :
    recording.Records complete (Evaluation.lookupContext path) [] := by
  refine ⟨recording.resolved >>= fun value => value.walk path,
    fun whole => absurd whole partly, fun session resolves => ?_⟩
  rcases Evaluation.yields_lookupContext path session resolves with
    ⟨outcome, contexts⟩
  exact ⟨_, Prod.ext outcome rfl, contexts.resolve_eq.trans resolves,
    .none rfl⟩

theorem note {call : Call} {value : Json}
    (valid : recording.valid call value) :
    recording.Records complete
      (Evaluation.note (recording.mark call value)) [call] :=
  ⟨.ok (), fun _ => ⟨(), rfl⟩, fun _ resolves =>
    ⟨_, rfl, resolves, [(call, value)], .refl _, fun _ => rfl,
      List.forall_mem_singleton.mpr valid, rfl⟩⟩

/--
Candidates of the first evaluation come before those of the second, which only
has to be considered for the value that the first one has.
-/
theorem bind
    {evaluation : Evaluation α} {next : α → Evaluation β}
    (first : recording.Records complete evaluation candidates)
    (second : ∀ value,
      (∀ session, session.context.resolve.1 = recording.resolved →
        (evaluation.runFrom session).1 = .ok value) →
      recording.Records complete (next value) later) :
    recording.Records complete (evaluation >>= next) (candidates ++ later) := by
  rcases first with ⟨outcome, succeeds, runs⟩
  cases outcome with
  | error error =>
      have partly : ¬ complete := fun whole => nomatch succeeds whole
      refine ⟨.error error, fun whole => absurd whole partly, ?_⟩
      intro session resolves
      rcases runs session resolves with ⟨after, ran, again, noted⟩
      refine ⟨after, ?_, again,
        noted.widen partly (List.sublist_append_left _ _)⟩
      rw [Evaluation.runFrom_bind, ran]
  | ok value =>
      have happens : ∀ session,
          session.context.resolve.1 = recording.resolved →
            (evaluation.runFrom session).1 = .ok value := by
        intro session resolves
        rcases runs session resolves with ⟨after, ran, _⟩
        rw [ran]
      rcases second value happens with ⟨outcome, succeeds, runsOn⟩
      refine ⟨outcome, succeeds, fun session resolves => ?_⟩
      rcases runs session resolves with ⟨between, ran, again, noted⟩
      rcases runsOn between again with ⟨after, ranOn, still, others⟩
      refine ⟨after, ?_, still, noted.trans others⟩
      rw [Evaluation.runFrom_bind, ran]
      exact ranOn

theorem within
    {evaluation : Evaluation α}
    (first : recording.Records complete evaluation candidates)
    (name : String) :
    recording.Records complete (evaluation.within name) candidates := by
  rcases first with ⟨outcome, succeeds, runs⟩
  refine ⟨outcome.mapError (.inFunction name), fun whole => ?_, ?_⟩
  · rcases succeeds whole with ⟨value, rfl⟩
    exact ⟨value, rfl⟩
  · intro session resolves
    rcases runs session resolves with ⟨after, ran, again, noted⟩
    refine ⟨after, ?_, again, noted⟩
    rw [Evaluation.runFrom_within, ran]
    cases outcome <;> rfl

/-- What is complete is complete under a stronger condition. -/
theorem weaken
    {evaluation : Evaluation α} {stronger : Prop}
    (records : recording.Records complete evaluation candidates)
    (implies : stronger → complete) :
    recording.Records stronger evaluation candidates := by
  rcases records with ⟨outcome, succeeds, runs⟩
  refine ⟨outcome, fun whole => succeeds (implies whole), ?_⟩
  intro session resolves
  rcases runs session resolves with
    ⟨after, ran, again, invoked, among, all, valid, recorded⟩
  exact ⟨after, ran, again, invoked, among, fun whole => all (implies whole),
    valid, recorded⟩

theorem widen
    {evaluation : Evaluation α}
    (records : recording.Records complete evaluation candidates)
    (partly : ¬ complete) (more : candidates.Sublist later) :
    recording.Records complete evaluation later := by
  rcases records with ⟨outcome, succeeds, runs⟩
  refine ⟨outcome, succeeds, fun session resolves => ?_⟩
  rcases runs session resolves with ⟨after, ran, again, noted⟩
  exact ⟨after, ran, again, noted.widen partly more⟩

/-- Items that are evaluated in order have their candidates in order. -/
theorem mapM
    {items : List α} {evaluate : α → Evaluation β} {among : α → List Call}
    (each : ∀ item ∈ items,
      recording.Records complete (evaluate item) (among item)) :
    recording.Records complete (items.mapM evaluate)
      (items.flatMap among) := by
  induction items with
  | nil =>
      rw [List.mapM_nil]
      exact .pure []
  | cons item items ih =>
      rcases List.forall_mem_cons.mp each with ⟨first, others⟩
      rw [List.mapM_cons, List.flatMap_cons]
      refine first.bind fun value _ => ?_
      have rest := (ih others).bind fun values _ =>
        .pure (value :: values)
      rwa [List.append_nil] at rest

end Records

theorem records_recordingAs
    {scope : Scope} {call : Call} {candidates : List Call}
    (argument : recording.Records complete (scope.evaluate call.argument)
      candidates)
    (valid : ∀ value,
      (∀ session, session.context.resolve.1 = recording.resolved →
        ((scope.evaluate call.argument).runFrom session).1 = .ok value) →
      recording.valid call value) :
    recording.Records complete
      (Handler.recordingAs recording.mark scope call)
      (candidates ++ [call]) := by
  refine argument.bind fun value happens => ?_
  exact (Records.note (valid value happens)).bind fun _ _ => .pure value

end Recording

/-! ## Plans scan their operands -/

/-- A plan has some of the nodes evaluated, from left to right, each once. -/
inductive Plan.Scans : List Node → Plan → Prop where
  | finish (nodes : List Node) (outcome : Except ConditionError Json) :
      Scans nodes (.finish outcome)
  | lookup (nodes : List Node) (path : List Json) :
      Scans nodes (.lookup path)
  | operand {node : Node} {nodes : List Node} {next : Json → Plan}
      (later : ∀ value, Scans nodes (next value)) :
      Scans (node :: nodes) (.operand node next)
  | skip {node : Node} {nodes : List Node} {plan : Plan}
      (scans : Scans nodes plan) :
      Scans (node :: nodes) plan

namespace Plan

/-- A plan that scans nodes notes candidates of theirs, in order. -/
theorem Scans.records_run
    {recording : Recording} {complete : Prop} (partly : ¬ complete)
    {scope : Scope} {among : Node → List Call}
    {nodes : List Node} {plan : Plan} (scans : plan.Scans nodes)
    (evaluates : ∀ node ∈ nodes,
      recording.Records complete (scope.evaluate node) (among node)) :
    recording.Records complete (plan.run scope) (nodes.flatMap among) := by
  induction scans with
  | finish nodes outcome =>
      exact (Recording.Records.ofExcept partly outcome).widen partly
        (List.nil_sublist _)
  | lookup nodes path =>
      have looked : recording.Records complete
          (Evaluation.lookupContext path) [] := .lookupContext partly path
      refine (looked.bind fun value _ =>
        .pure (value.getD .null)).widen partly ?_
      exact List.nil_sublist _
  | operand _ ih =>
      rcases List.forall_mem_cons.mp evaluates with ⟨first, others⟩
      rw [List.flatMap_cons]
      exact first.bind fun value _ => ih value others
  | skip _ ih =>
      rcases List.forall_mem_cons.mp evaluates with ⟨_, others⟩
      rw [List.flatMap_cons]
      exact (ih others).widen partly (List.sublist_append_right _ _)

theorem scans_ofExcept
    {α : Type} {result : Except ConditionError α} {next : α → Plan}
    {nodes : List Node}
    (later : ∀ value, result = .ok value → (next value).Scans nodes) :
    (ofExcept result next).Scans nodes := by
  cases result with
  | ok value => exact later value rfl
  | error error => exact .finish nodes (.error error)

theorem scans_values
    {next : List Json → Plan} (later : ∀ found, (next found).Scans [])
    (nodes : List Node) :
    (values nodes next).Scans nodes := by
  induction nodes generalizing next with
  | nil => exact later []
  | cons node nodes ih =>
      exact .operand fun value => ih fun found => later (value :: found)

end Plan

namespace Builtin

theorem scans_everyPlan (nodes : List Node) :
    (everyPlan nodes).Scans nodes := by
  induction nodes with
  | nil => exact .finish [] _
  | cons node nodes ih =>
      refine .operand fun value => ?_
      split
      · exact ih
      · exact .finish nodes _

theorem scans_somePlan (nodes : List Node) : (somePlan nodes).Scans nodes := by
  induction nodes with
  | nil => exact .finish [] _
  | cons node nodes ih =>
      refine .operand fun value => ?_
      split
      · exact .finish nodes _
      · exact ih

theorem scans_valuePlan (node : Node) (nodes : List Node) :
    (valuePlan node).Scans (node :: nodes) :=
  .operand fun value => .finish nodes (.ok value)

/-- Of both branches one is skipped. -/
theorem scans_choicePlan (nodes : List Node) :
    (choicePlan nodes).Scans nodes := by
  match nodes with
  | [condition, consequence] =>
      refine .operand fun value => ?_
      split
      · exact scans_valuePlan consequence []
      · exact .finish _ _
  | [condition, consequence, alternative] =>
      refine .operand fun value => ?_
      split
      · exact scans_valuePlan consequence [alternative]
      · exact .skip (scans_valuePlan alternative [])
  | [] => exact .finish _ _
  | [_] => exact .finish _ _
  | _ :: _ :: _ :: _ :: _ => exact .finish _ _

theorem scans_withTwoArguments
    {elements : List Node} {next : Node × Node → Plan}
    (later : ∀ first second, (next (first, second)).Scans [first, second]) :
    (Plan.ofExcept (Node.array elements).twoArguments next).Scans elements := by
  refine Plan.scans_ofExcept fun (first, second) found => ?_
  have operands : elements = [first, second] :=
    Node.children_of_twoArguments found
  rw [operands]
  exact later first second

theorem scans_comparePlan
    (holds : Double → Double → Bool) (elements : List Node) :
    (comparePlan holds (.array elements)).Scans elements := by
  refine scans_withTwoArguments fun first second => .operand fun leftValue => ?_
  refine Plan.scans_ofExcept fun left _ => .operand fun rightValue => ?_
  exact Plan.scans_ofExcept fun right _ => .finish [] _

theorem scans_equalPlan (elements : List Node) :
    (equalPlan (.array elements)).Scans elements :=
  scans_withTwoArguments fun _ _ =>
    .operand fun _ => .operand fun _ => .finish [] _

theorem scans_bucketPlan (elements : List Node) :
    (bucketPlan (.array elements)).Scans elements := by
  refine scans_withTwoArguments fun first second => ?_
  refine .operand fun key => .operand fun value => ?_
  refine Plan.scans_ofExcept fun number _ => ?_
  exact Plan.scans_ofExcept fun buckets _ => .finish [] _

/-- All built-in functions but negation scan the elements of an array. -/
theorem scans_plan_array
    {builtin : Builtin} (other : builtin ≠ .negation) (elements : List Node) :
    (builtin.plan (.array elements)).Scans elements := by
  cases builtin with
  | negation => exact absurd rfl other
  | conjunction => exact scans_everyPlan elements
  | disjunction => exact scans_somePlan elements
  | conditional => exact scans_choicePlan elements
  | context => exact Plan.scans_values (fun path => .lookup [] path) elements
  | greater => exact scans_comparePlan _ elements
  | less => exact scans_comparePlan _ elements
  | greaterOrEqual => exact scans_comparePlan _ elements
  | lessOrEqual => exact scans_comparePlan _ elements
  | equal => exact scans_equalPlan elements
  | bucket => exact scans_bucketPlan elements

/-- Without an array they scan nothing, since they fail at once. -/
theorem scans_plan_of_not_array
    {builtin : Builtin} (other : builtin ≠ .negation) {argument : Node}
    (single : ∀ elements, argument ≠ .array elements) :
    (builtin.plan argument).Scans [] := by
  cases argument with
  | array elements => exact absurd rfl (single elements)
  | literal value =>
      cases builtin with
      | negation => exact absurd rfl other
      | _ => exact .finish [] _
  | function name inner =>
      cases builtin with
      | negation => exact absurd rfl other
      | _ => exact .finish [] _

/--
A built-in function scans its argument as a whole, or else the elements of its
argument.
-/
theorem scans_plan (builtin : Builtin) (argument : Node) :
    (builtin.plan argument).Scans [argument] ∨
      ∃ elements, argument = .array elements ∧
        (builtin.plan argument).Scans elements := by
  by_cases negates : builtin = .negation
  · subst negates
    exact Or.inl (.operand fun _ => .finish [] _)
  · by_cases isArray : ∃ elements, argument = .array elements
    · rcases isArray with ⟨elements, rfl⟩
      exact Or.inr ⟨elements, rfl, scans_plan_array negates elements⟩
    · have single := not_exists.mp isArray
      exact Or.inl (.skip (scans_plan_of_not_array negates single))

end Builtin

/-! ## Trees with recorders -/

namespace Node

/--
A tree whose functions under certain names are recorders, all of one mark, and
whose other functions are built-in functions as far as they are bound.
-/
structure CallsRecorders (mark : Call → Json → Json) (records : String → Bool)
    (registry : Registry) (node : Node) : Prop where
  recorders : ∀ name ∈ node.functionNames, records name = true →
    registry.find? name = some (.recordingAs mark)
  builtins : ∀ name ∈ node.functionNames, records name = false → ∀ handler,
    registry.find? name = some handler →
      ∃ builtin : Builtin, handler = builtin.handler

/-- A tree of recorders that needs no more levels than there are. -/
def RecordsThroughout (records : String → Bool) (levels : Nat) (node : Node) :
    Prop :=
  (∀ name ∈ node.functionNames, records name = true) ∧ node.nesting ≤ levels

variable {mark : Call → Json → Json} {records : String → Bool}
variable {registry : Registry} {root node : Node}

theorem CallsRecorders.of_contains
    (calls : root.CallsRecorders mark records registry)
    (contains : root.Contains node) :
    node.CallsRecorders mark records registry :=
  have subset := functionNames_subset_of_contains contains
  ⟨fun name named => calls.recorders name (subset named),
    fun name named => calls.builtins name (subset named)⟩

theorem CallsRecorders.callsRelaying
    (calls : root.CallsRecorders mark records registry) :
    root.CallsRelaying registry := by
  intro name named handler found
  cases picked : records name with
  | true =>
      cases (calls.recorders name named picked).symm.trans found
      exact Handler.relays_recordingAs mark
  | false =>
      rcases calls.builtins name named picked handler found with ⟨builtin, rfl⟩
      exact builtin.relays

/-- One recorder beside the built-in functions. -/
theorem callsRecorders_add
    (mark : Call → Json → Json) (recorder : String) (node : Node) :
    node.CallsRecorders mark (· == recorder)
      (Registry.builtins.add recorder (.recordingAs mark)) := by
  constructor
  · intro name _ picked
    rw [beq_iff_eq.mp picked]
    exact Registry.find?_add_self _ _ _
  · intro name _ other handler found
    rw [Registry.find?_add_of_ne (beq_eq_false_iff_ne.mp other)] at found
    rcases Registry.find?_builtins_eq_some_iff.mp found with ⟨builtin, _, rfl⟩
    exact ⟨builtin, rfl⟩

theorem RecordsThroughout.of_hasChild
    {levels : Nat} (throughout : root.RecordsThroughout records (levels + 1))
    (hasChild : root.HasChild node) :
    node.RecordsThroughout records levels := by
  have subset := functionNames_subset_of_contains
    (Relation.ReflTransGen.single hasChild)
  refine ⟨fun name named => throughout.1 name (subset named), ?_⟩
  exact Nat.le_of_lt_succ (Nat.lt_of_lt_of_le hasChild.nesting_lt throughout.2)

end Node

namespace Evaluator

/-- What recorders record when a context is evaluated against. -/
def recording (evaluator : Evaluator) (context : Context)
    (mark : Call → Json → Json) : Recording :=
  ⟨mark, fun call value => evaluator.evaluate context call.argument = .ok value,
    context.resolve.1⟩

variable {evaluator : Evaluator} {context : Context}
variable {mark : Call → Json → Json} {records : String → Bool}

/-- What a recorder below the root records is the value of its argument. -/
theorem valid_of_happens
    {name : String} {argument : Node}
    (calls : argument.CallsRecorders mark records evaluator.registry)
    {levels : Nat} (within : levels ≤ evaluator.maxDepth) {value : Json}
    (happens : ∀ session, session.context.resolve.1 =
        (evaluator.recording context mark).resolved →
      ((evaluator.evaluateWithin levels argument).runFrom session).1 =
        .ok value) :
    (evaluator.recording context mark).valid ⟨name, argument⟩ value :=
  outcome_eq_ok_of_le calls.callsRelaying within (happens ⟨context, []⟩ rfl)

theorem records_throw
    {recording : Recording} {complete : Prop} (partly : ¬ complete)
    (error : ConditionError) (candidates : List Call) :
    recording.Records complete (throw error : Evaluation Json) candidates := by
  have failed : recording.Records complete
      (Evaluation.ofExcept (.error error) : Evaluation Json) [] :=
    .ofExcept partly (.error error)
  exact failed.widen partly (List.nil_sublist _)

/--
With some levels left the evaluation of a node notes its recorders in
post-order, and all of them if it is made of recorders throughout.
-/
def NotesRecorders (evaluator : Evaluator) (context : Context)
    (mark : Call → Json → Json) (records : String → Bool) (levels : Nat)
    (node : Node) : Prop :=
  (evaluator.recording context mark).Records
    (node.RecordsThroughout records levels)
    (evaluator.evaluateWithin levels node) (node.chosenCalls records)

section

variable {levels : Nat} {name : String} {argument : Node}
variable (calls : (Node.function name argument).CallsRecorders mark records
  evaluator.registry)
variable (below : ∀ node, (Node.function name argument).Below node →
  evaluator.NotesRecorders context mark records levels node)

include calls below

/-- A recorder records after whatever is recorded in its argument. -/
theorem notesRecorders_recorder
    (within : levels ≤ evaluator.maxDepth) (picked : records name = true) :
    evaluator.NotesRecorders context mark records (levels + 1)
      (.function name argument) := by
  have hasArgument : (Node.function name argument).HasChild argument :=
    List.mem_cons_self
  have found := calls.recorders name List.mem_cons_self picked
  have inner := Recording.Records.weaken (below argument (.single hasArgument))
    fun throughout => Node.RecordsThroughout.of_hasChild throughout hasArgument
  rw [NotesRecorders, evaluateWithin, Registry.invoke, found,
    Node.chosenCalls_function, picked]
  refine (Recording.records_recordingAs inner
    fun value happens => ?_).within name
  exact valid_of_happens (calls.of_contains (.single hasArgument)) within
    happens

/-- A built-in function leaves recording to its operands. -/
theorem notesRecorders_builtin (picked : records name = false) :
    evaluator.NotesRecorders context mark records (levels + 1)
      (.function name argument) := by
  have partly :
      ¬(Node.function name argument).RecordsThroughout records
        (levels + 1) := by
    rintro ⟨all, _⟩
    cases picked.symm.trans (all name List.mem_cons_self)
  have inner : ∀ node, (Node.function name argument).Below node →
      (evaluator.recording context mark).Records
        ((Node.function name argument).RecordsThroughout records (levels + 1))
        ((evaluator.scope levels).evaluate node) (node.chosenCalls records) :=
    fun node stands => Recording.Records.weaken (below node stands)
      fun whole => absurd whole partly
  have operands : (Node.function name argument).chosenCalls records =
      argument.chosenCalls records := by
    rw [Node.chosenCalls_function, picked]
    exact List.append_nil _
  rw [NotesRecorders, operands]
  cases found : evaluator.registry.find? name with
  | none =>
      rw [evaluateWithin, Registry.invoke]
      simp only [found]
      exact records_throw partly _ _
  | some handler =>
      rcases calls.builtins name List.mem_cons_self picked handler found with
        ⟨builtin, rfl⟩
      rw [evaluateWithin_function found]
      refine Recording.Records.within ?_ name
      -- An array is no recorder itself: its elements have all the candidates.
      rcases builtin.scans_plan argument with scans | ⟨elements, rfl, scans⟩
      · have whole := inner argument (.single List.mem_cons_self)
        have noted := scans.records_run partly
          (List.forall_mem_singleton.mpr whole)
        rwa [List.flatMap_singleton] at noted
      · rw [Node.chosenCalls_array]
        refine scans.records_run partly fun node member => ?_
        exact inner node (.head List.mem_cons_self (.single member))

end

/-- Every evaluation notes recorders in post-order. -/
theorem notesRecorders
    {node : Node} (calls : node.CallsRecorders mark records evaluator.registry)
    {levels : Nat} (within : levels ≤ evaluator.maxDepth) :
    evaluator.NotesRecorders context mark records levels node := by
  induction levels generalizing node with
  | zero =>
      cases node with
      | literal value => exact .pure value.toJson
      | array => exact records_throw (fun whole => nomatch whole.2) _ _
      | function => exact records_throw (fun whole => nomatch whole.2) _ _
  | succ levels ih =>
      have fewer := Nat.le_of_succ_le within
      have below : ∀ child, node.Below child →
          evaluator.NotesRecorders context mark records levels child :=
        fun child stands => ih (calls.of_contains stands.contains) fewer
      cases node with
      | literal value => exact .pure value.toJson
      | array elements =>
          rw [NotesRecorders, evaluateWithin, Node.chosenCalls_array]
          have items := Recording.Records.mapM fun node member =>
            Recording.Records.weaken (below node (.single member))
              fun throughout =>
                Node.RecordsThroughout.of_hasChild throughout member
          have gathered := items.bind fun found _ => .pure (Json.array found)
          rwa [List.append_nil] at gathered
      | function name argument =>
          cases picked : records name with
          | true => exact notesRecorders_recorder calls below fewer picked
          | false => exact notesRecorders_builtin calls below picked

end Evaluator

/--
Pairs whose first halves are the images of some items, in order, are themselves
images of pairs with these items.
-/
theorem exists_pairs_of_sublist
    {α β γ : Type} {image : α → β} {pairs : List (β × γ)} {items : List α}
    (among : (pairs.map Prod.fst).Sublist (items.map image)) :
    ∃ lifted : List (α × γ), (lifted.map Prod.fst).Sublist items ∧
      lifted.map (Prod.map image id) = pairs := by
  rcases List.sublist_map_iff.mp among with ⟨chosen, sublist, same⟩
  have lengths : chosen.length = pairs.length := by
    simpa using (congrArg List.length same).symm
  refine ⟨chosen.zip (pairs.map Prod.snd), ?_, ?_⟩
  · rwa [List.map_fst_zip (by simp [lengths])]
  · rw [← List.zip_map, List.map_id, ← same]
    exact (List.zip_of_prod rfl rfl).symm

namespace Evaluator

/--
Recorders are invoked at most once each and in the post-order of their places,
and each records the value of its own argument; in a tree of literals, arrays
and recorders that nests no deeper than allowed, all of them are invoked.
-/
theorem recorders_run_in_postorder
    {mark : Call → Json → Json} {records : String → Bool}
    {evaluator : Evaluator} {root : Node}
    (calls : root.CallsRecorders mark records evaluator.registry)
    (context : Context) :
    (∀ place call, ⟨place, call⟩ ∈ root.occurrences records ↔
      records call.name = true ∧
        root.at? place = some (.function call.name call.argument)) ∧
    (root.occurrences records).Pairwise
      (fun first second => Precedes first.place second.place) ∧
    ∃ invoked : List (Occurrence × Json),
      (invoked.map Prod.fst).Sublist (root.occurrences records) ∧
      (invoked.map fun pair => pair.1.place).Nodup ∧
      (∀ pair ∈ invoked,
        evaluator.evaluate context pair.1.call.argument = .ok pair.2) ∧
      (evaluator.run context root).2.recorded =
        invoked.map (fun pair => mark pair.1.call pair.2) ∧
      ((∀ name ∈ root.functionNames, records name = true) →
        root.nesting ≤ evaluator.maxDepth →
          invoked.map Prod.fst = root.occurrences records) := by
  refine ⟨fun _ _ => Node.mem_occurrences, Node.pairwise_occurrences root, ?_⟩
  have noted : evaluator.NotesRecorders context mark records
      evaluator.maxDepth root := notesRecorders calls (Nat.le_refl _)
  rcases noted with ⟨outcome, _, runs⟩
  rcases runs ⟨context, []⟩ rfl with
    ⟨after, ran, _, invoked, among, all, valid, recorded⟩
  rcases exists_pairs_of_sublist among with ⟨lifted, sublist, rfl⟩
  refine ⟨lifted, sublist, ?_, ?_, ?_, fun only shallow => ?_⟩
  · have places : (lifted.map fun pair => pair.1.place) =
        (lifted.map Prod.fst).map Occurrence.place := List.map_map.symm
    rw [places]
    exact (Node.nodup_places root).sublist (sublist.map _)
  · exact fun pair member => valid _ (List.mem_map_of_mem member)
  · have ended : (evaluator.run context root).2 = after := congrArg Prod.snd ran
    rw [ended, recorded, List.map_map]
    rfl
  · refine sublist.eq_of_length ?_
    simpa [Node.chosenCalls] using congrArg List.length (all ⟨only, shallow⟩)

/-- A recorder around a recorder comes after it, and before a later element. -/
theorem recorders_run_in_postorder_nested :
    ∃ invoked : List (Occurrence × Json),
      (run ⟨Registry.builtins.add "rec" .recording, 3⟩ .empty
        (.array [.function "rec" (.function "rec" (.literal .null)),
          .function "rec" (.literal (.boolean true))])).2.recorded =
        invoked.map Prod.snd ∧
      invoked.map (fun pair => pair.1.place) = [[0, 0], [0], [1]] := by
  have calls : (Node.array
      [.function "rec" (.function "rec" (.literal .null)),
        .function "rec" (.literal (.boolean true))]).CallsRecorders
      (fun _ value => value) (· == "rec")
      (Evaluator.mk (Registry.builtins.add "rec" .recording) 3).registry := by
    rw [← Handler.recordingAs_value]
    exact Node.callsRecorders_add _ "rec" _
  rcases recorders_run_in_postorder calls .empty with
    ⟨_, _, invoked, _, _, _, recorded, all⟩
  have whole := all (by decide) (by decide)
  refine ⟨invoked, recorded, ?_⟩
  have places := congrArg (List.map Occurrence.place) whole
  rw [List.map_map] at places
  exact places

end Evaluator

end Criteria
