import Mathlib.Data.Set.Card
import Criteria.Evaluation.Custom
import Criteria.Proofs.Evaluation.Alike
import Criteria.Proofs.Evaluation.Bindings
import Criteria.Proofs.Text.ByteOrder

/-!
# Where handlers come from

A registry changes by handlers that are added and by aliases, which give the
handler of one name to another name as well.  The last change that binds a name
decides what the name stands for.  An alias takes over the handler that its
source has at that moment, so what becomes of the source later does not matter;
an alias of an unknown name changes nothing.  The provenance of a handler
follows aliases back to the change that added it, or to the registry as it was
at first, while errors bear the name that a function was called by.
-/

namespace Criteria

namespace Registry

/-! ## Changes -/

/-- A change to a registry. -/
inductive Change where
  | add (name : String) (handler : Handler)
  /-- Gives the handler of one name to another name as well. -/
  | share (source name : String)

namespace Change

/-- The name that a change is to bind. -/
def name : Change → String
  | .add name _ => name
  | .share _ name => name

/-- The handler that a change has for its name in the registry that it meets. -/
def handler? (registry : Registry) : Change → Option Handler
  | .add _ handler => some handler
  | .share source _ => registry.find? source

/-- A change binds a name in the registry that it meets. -/
def Binds (change : Change) (registry : Registry) (name : String) : Prop :=
  change.name = name ∧ (change.handler? registry).isSome = true

end Change

/-- The registry after a change. -/
def apply (registry : Registry) : Change → Registry
  | .add name handler => registry.add name handler
  | .share source name => (registry.addAlias? source name).getD registry

/-- The registry after changes, one after the other. -/
def applyAll (registry : Registry) (changes : List Change) : Registry :=
  changes.foldl apply registry

/-- Some of the changes binds a name when its turn comes. -/
def Rebinds (registry : Registry) (changes : List Change) (name : String) :
    Prop :=
  ∃ front change back, changes = front ++ change :: back ∧
    change.Binds (registry.applyAll front) name

/--
Where the handler comes from that a name has after changes: from the registry
at first, or from the last change that binds the name, which is an addition, or
an alias of a name that had the handler in front of that change.
-/
inductive Provenance (initial : Registry) :
    List Change → String → Handler → Prop where
  | initially {changes : List Change} {name : String} {handler : Handler}
      (found : initial.find? name = some handler)
      (last : ¬initial.Rebinds changes name) :
      Provenance initial changes name handler
  | added {front back : List Change} {name : String} {handler : Handler}
      (last : ¬(initial.applyAll (front ++ [.add name handler])).Rebinds
        back name) :
      Provenance initial (front ++ .add name handler :: back) name handler
  | shared {front back : List Change} {source name : String}
      {handler : Handler}
      (before : Provenance initial front source handler)
      (last : ¬(initial.applyAll (front ++ [.share source name])).Rebinds
        back name) :
      Provenance initial (front ++ .share source name :: back) name handler

variable {registry initial : Registry} {change : Change}
  {changes front back : List Change} {name : String} {handler : Handler}

theorem applyAll_append (registry : Registry) (front back : List Change) :
    registry.applyAll (front ++ back) =
      (registry.applyAll front).applyAll back :=
  List.foldl_append

theorem applyAll_append_singleton
    (registry : Registry) (changes : List Change) (change : Change) :
    registry.applyAll (changes ++ [change]) =
      (registry.applyAll changes).apply change :=
  applyAll_append registry changes [change]

theorem applyAll_append_cons
    (registry : Registry) (front back : List Change) (change : Change) :
    registry.applyAll (front ++ change :: back) =
      (registry.applyAll (front ++ [change])).applyAll back := by
  rw [← applyAll_append, List.append_assoc, List.singleton_append]

/-! ## One change -/

/-- A change that has a handler adds it, and any other changes nothing. -/
theorem apply_eq (registry : Registry) (change : Change) :
    registry.apply change =
      ((change.handler? registry).map (registry.add change.name)).getD
        registry := by
  cases change <;> rfl

theorem apply_of_handler?_eq_some
    (has : change.handler? registry = some handler) :
    registry.apply change = registry.add change.name handler := by
  rw [apply_eq, has]
  rfl

theorem apply_of_handler?_eq_none (has : change.handler? registry = none) :
    registry.apply change = registry := by
  rw [apply_eq, has]
  rfl

/-- What a change binds a name to is found under that name. -/
theorem find?_apply_of_binds (binds : change.Binds registry name) :
    (registry.apply change).find? name = change.handler? registry := by
  rcases binds with ⟨rfl, has⟩
  rcases Option.isSome_iff_exists.mp has with ⟨handler, has⟩
  rw [apply_of_handler?_eq_some has, find?_add_self, has]

/-- A change leaves the names alone that it does not bind. -/
theorem find?_apply_of_not_binds (alone : ¬change.Binds registry name) :
    (registry.apply change).find? name = registry.find? name := by
  cases has : change.handler? registry with
  | none => rw [apply_of_handler?_eq_none has]
  | some handler =>
      have different : name ≠ change.name := fun same =>
        alone ⟨same.symm, by rw [has]; rfl⟩
      rw [apply_of_handler?_eq_some has, find?_add_of_ne different]

/-! ## Many changes -/

theorem not_rebinds_nil : ¬registry.Rebinds [] name := by
  rintro ⟨front, change, back, split, _⟩
  exact List.append_ne_nil_of_right_ne_nil front (List.cons_ne_nil _ _)
    split.symm

theorem rebinds_append_singleton :
    registry.Rebinds (changes ++ [change]) name ↔
      registry.Rebinds changes name ∨
        change.Binds (registry.applyAll changes) name := by
  constructor
  · rintro ⟨front, found, back, split, binds⟩
    rcases List.eq_nil_or_concat' back with rfl | ⟨later, last, rfl⟩
    · rcases List.append_inj' split rfl with ⟨rfl, same⟩
      cases same
      exact Or.inr binds
    · rw [← List.cons_append, ← List.append_assoc] at split
      rcases List.append_inj' split rfl with ⟨rfl, _⟩
      exact Or.inl ⟨front, found, later, rfl, binds⟩
  · rintro (⟨front, found, back, rfl, binds⟩ | binds)
    · refine ⟨front, found, back ++ [change], ?_, binds⟩
      rw [List.append_assoc, List.cons_append]
    · exact ⟨changes, change, [], rfl, binds⟩

/-- A name that no change binds keeps its handler. -/
theorem find?_applyAll_of_not_rebinds (alone : ¬registry.Rebinds changes name) :
    (registry.applyAll changes).find? name = registry.find? name := by
  induction changes using List.reverseRecOn with
  | nil => rfl
  | append_singleton earlier change ih =>
      rw [rebinds_append_singleton, not_or] at alone
      rw [applyAll_append_singleton, find?_apply_of_not_binds alone.2,
        ih alone.1]

/-! ## Provenance -/

/-- A change that does not bind a name leaves its provenance alone. -/
theorem Provenance.append_singleton
    (provenance : initial.Provenance changes name handler)
    (alone : ¬change.Binds (initial.applyAll changes) name) :
    initial.Provenance (changes ++ [change]) name handler := by
  cases provenance with
  | initially found last =>
      exact .initially found (mt rebinds_append_singleton.mp
        (not_or.mpr ⟨last, alone⟩))
  | added last =>
      rw [applyAll_append_cons] at alone
      rw [List.append_assoc, List.cons_append]
      exact .added (mt rebinds_append_singleton.mp
        (not_or.mpr ⟨last, alone⟩))
  | shared before last =>
      rw [applyAll_append_cons] at alone
      rw [List.append_assoc, List.cons_append]
      exact .shared before (mt rebinds_append_singleton.mp
        (not_or.mpr ⟨last, alone⟩))

theorem provenance_of_find?
    (found : (initial.applyAll changes).find? name = some handler) :
    initial.Provenance changes name handler := by
  induction changes using List.reverseRecOn generalizing name with
  | nil => exact .initially found not_rebinds_nil
  | append_singleton earlier change ih =>
      rw [applyAll_append_singleton] at found
      by_cases binds : change.Binds (initial.applyAll earlier) name
      · rw [find?_apply_of_binds binds] at found
        cases change with
        | add added given =>
            cases binds.1
            cases found
            exact .added not_rebinds_nil
        | share source added =>
            cases binds.1
            exact .shared (ih found) not_rebinds_nil
      · rw [find?_apply_of_not_binds binds] at found
        exact (ih found).append_singleton binds

theorem Provenance.find?_eq_some
    (provenance : initial.Provenance changes name handler) :
    (initial.applyAll changes).find? name = some handler := by
  induction provenance with
  | initially found last => rw [find?_applyAll_of_not_rebinds last, found]
  | added last =>
      rw [applyAll_append_cons, find?_applyAll_of_not_rebinds last,
        applyAll_append_singleton]
      exact find?_apply_of_binds ⟨rfl, rfl⟩
  | @shared front back source name handler before last ih =>
      have binds : (Change.share source name).Binds
          (initial.applyAll front) name :=
        ⟨rfl, Option.isSome_iff_exists.mpr ⟨handler, ih⟩⟩
      rw [applyAll_append_cons, find?_applyAll_of_not_rebinds last,
        applyAll_append_singleton, find?_apply_of_binds binds]
      exact ih

/-- The handler of a name after changes is the one with that provenance. -/
theorem find?_applyAll_eq_some_iff :
    (initial.applyAll changes).find? name = some handler ↔
      initial.Provenance changes name handler :=
  ⟨provenance_of_find?, Provenance.find?_eq_some⟩

/-! ## Names -/

theorem contains_iff_mem_names :
    registry.contains name = true ↔ name ∈ registry.names :=
  Entries.lookup_isSome_iff

theorem mem_names_iff :
    name ∈ registry.names ↔ ∃ handler, registry.find? name = some handler := by
  rw [← contains_iff_mem_names, contains, Option.isSome_iff_exists]

/-- The names after changes are those at first and those that were bound. -/
theorem mem_names_applyAll :
    name ∈ (initial.applyAll changes).names ↔
      name ∈ initial.names ∨ initial.Rebinds changes name := by
  induction changes using List.reverseRecOn with
  | nil => exact (or_iff_left not_rebinds_nil).symm
  | append_singleton earlier change ih =>
      rw [applyAll_append_singleton, rebinds_append_singleton, ← or_assoc, ← ih]
      by_cases binds : change.Binds (initial.applyAll earlier) name
      · have bound :
            name ∈ ((initial.applyAll earlier).apply change).names := by
          rw [← contains_iff_mem_names, contains, find?_apply_of_binds binds]
          exact binds.2
        exact iff_of_true bound (Or.inr binds)
      · rw [or_iff_left binds, mem_names_iff, mem_names_iff,
          find?_apply_of_not_binds binds]

/-- Names are in the order of their bytes, so that none is repeated. -/
theorem pairwise_names (registry : Registry) :
    registry.names.Pairwise fun first second =>
      bytesOfText first < bytesOfText second :=
  List.pairwise_map.mpr (registry.ordered.imp bytesOfText_lt_iff.mpr)

theorem size_eq_ncard (registry : Registry) :
    registry.size = {name | name ∈ registry.names}.ncard := by
  have distinct : registry.names.Nodup := registry.ordered.nodup_keys
  rw [← List.coe_toFinset, Set.ncard_coe_finset,
    List.toFinset_card_of_nodup distinct]
  exact (List.length_map Prod.fst).symm

/-- Sharing the handler of an unknown name changes nothing. -/
theorem apply_share_of_unknown
    {source : String} (unknown : source ∉ registry.names) (name : String) :
    registry.apply (.share source name) = registry := by
  apply apply_of_handler?_eq_none
  rw [← contains_iff_mem_names, contains, Bool.not_eq_true,
    Option.isSome_eq_false_iff, Option.isNone_iff_eq_none] at unknown
  exact unknown

end Registry

namespace Evaluator

variable {evaluator : Evaluator} {name : String} {handler : Handler}

/-- A function runs the handler that is bound to its name, within that name. -/
theorem runWithin_of_find?
    (found : evaluator.registry.find? name = some handler)
    {levels : Nat} {session after : Session} {argument : Node}
    {outcome : Except ConditionError Json}
    (ran : (handler ⟨evaluator.evaluateWithin levels,
      evaluator.registry.contains⟩ ⟨name, argument⟩).runFrom session =
        (outcome, after)) :
    evaluator.runWithin (levels + 1) session (.function name argument) =
      (outcome.mapError (.inFunction name), after) := by
  rw [runWithin, evaluateWithin, Registry.invoke, found]
  simp only [Evaluation.runFrom_within, ran]
  cases outcome <;> rfl

theorem runWithin_of_unknown
    (unknown : name ∉ evaluator.registry.names)
    (levels : Nat) (session : Session) (argument : Node) :
    evaluator.runWithin (levels + 1) session (.function name argument) =
      (.error (.unknownFunction name), session) := by
  have unbound : evaluator.registry.find? name = none := by
    simpa [Registry.mem_names_iff, Option.eq_none_iff_forall_ne_some]
      using unknown
  rw [runWithin, evaluateWithin, Registry.invoke, unbound]
  rfl

end Evaluator

namespace Registry

/--
A registry is a map in which the last change of a name counts and aliases keep
what they found.  After any changes to any registry, be it empty or that of the
built-in functions, the names stand in the order of their bytes, and are those
at first and those that were bound since; an alias of an unknown name changes
nothing.  A name stands for the handler of its provenance: calling it runs that
handler, whose errors are put within the name that was called, and calling any
other name fails.
-/
theorem last_binding_counts (initial : Registry) (changes : List Change) :
    ((initial.applyAll changes).names.Pairwise fun first second =>
        bytesOfText first < bytesOfText second) ∧
      (∀ name, name ∈ (initial.applyAll changes).names ↔
        name ∈ initial.names ∨ initial.Rebinds changes name) ∧
      (initial.applyAll changes).size =
        {name | name ∈ initial.names ∨ initial.Rebinds changes name}.ncard ∧
      (∀ name, (initial.applyAll changes).contains name = true ↔
        ∃ handler, (initial.applyAll changes).find? name = some handler) ∧
      (∀ source name, source ∉ (initial.applyAll changes).names →
        initial.applyAll (changes ++ [.share source name]) =
          initial.applyAll changes) ∧
      (∀ name handler,
        (initial.applyAll changes).find? name = some handler ↔
          initial.Provenance changes name handler) ∧
      ∀ (evaluator : Evaluator),
        evaluator.registry = initial.applyAll changes →
          ∀ (name : String) (argument : Node) (levels : Nat)
            (session : Session),
            (∀ handler, initial.Provenance changes name handler →
              ∀ outcome after,
                (handler ⟨evaluator.evaluateWithin levels,
                    evaluator.registry.contains⟩
                      ⟨name, argument⟩).runFrom session =
                    (outcome, after) →
                  evaluator.runWithin (levels + 1) session
                      (.function name argument) =
                    (outcome.mapError (.inFunction name), after)) ∧
              (name ∉ (initial.applyAll changes).names →
                evaluator.runWithin (levels + 1) session
                    (.function name argument) =
                  (.error (.unknownFunction name), session)) := by
  refine ⟨pairwise_names _, fun _ => mem_names_applyAll, ?_,
    fun _ => ?_, fun source name unknown => ?_,
    fun _ _ => find?_applyAll_eq_some_iff, ?_⟩
  · rw [size_eq_ncard]
    simp only [mem_names_applyAll]
  · rw [contains_iff_mem_names, mem_names_iff]
  · rw [applyAll_append_singleton, apply_share_of_unknown unknown]
  · intro evaluator made name argument levels session
    refine ⟨fun handler provenance outcome after ran => ?_, fun unknown => ?_⟩
    · have found : evaluator.registry.find? name = some handler := by
        rw [made]
        exact provenance.find?_eq_some
      exact Evaluator.runWithin_of_find? found ran
    · rw [← made] at unknown
      exact Evaluator.runWithin_of_unknown unknown levels session argument

/--
The built-in functions with another name for conjunction, whose own name is then
given to a handler that fails and shared once more.
-/
def reboundConjunction : List Change :=
  [.share "and" "all", .add "and" (Handler.failure "boom"),
    .share "nope" "none", .share "and" "both"]

/-- The first alias still stands for conjunction, the last one for a failure. -/
theorem last_binding_counts_reboundConjunction :
    builtins.Provenance reboundConjunction "all"
        Builtin.conjunction.handler ∧
      "none" ∉ (builtins.applyAll reboundConjunction).names ∧
      (⟨builtins.applyAll reboundConjunction, 1⟩ : Evaluator).runWithin 1
          ⟨.empty, []⟩ (.function "both" (.literal .null)) =
        (.error (.inFunction "both" (.typeMismatch (.described "boom"))),
          ⟨.empty, []⟩) := by
  rcases last_binding_counts builtins reboundConjunction with
    ⟨_, _, _, _, _, provenance, runs⟩
  refine ⟨(provenance _ _).mp rfl, by decide, ?_⟩
  exact (runs ⟨_, 1⟩ rfl "both" (.literal .null) 0 ⟨.empty, []⟩).1
    (Handler.failure "boom") ((provenance _ _).mp rfl) _ _ rfl

end Registry

end Criteria
