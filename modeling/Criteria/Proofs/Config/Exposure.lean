import Criteria.Config.Basic
import Criteria.Proofs.Evaluation.Bindings
import Criteria.Proofs.Evaluation.Renaming

/-!
# What a configuration exposes

A configuration that validates binds every name that it exposes to the built-in
function that the name leads to, and no other name to anything.  Conditions of
exposed names therefore mean what they mean with the built-in names in their
place, and a condition fails for want of a function exactly if it gets as far as
one whose name is not exposed.
-/

namespace Criteria.Config

/-- A name with an entry in the function map that the whitelist keeps. -/
def Exposes (config : Config) (name : String) : Prop :=
  name ∈ Entries.keys config.effectiveMap ∧ config.isKept name = true

instance (config : Config) (name : String) : Decidable (config.Exposes name) :=
  inferInstanceAs (Decidable (_ ∧ _))

/-- The built-in name that an exposed name leads to. -/
def target (config : Config) (name : String) : String :=
  (config.effectiveMap.lookup name).getD name

/-- The handlers of the exposed names that are kept. -/
def exposedHandlers (config : Config) : List (String × Handler) :=
  (config.effectiveMap.filter fun entry => config.isKept entry.1).filterMap
    fun entry => (Builtin.ofName? entry.2).map fun builtin =>
      (entry.1, builtin.handler)

/-- The evaluator that a configuration describes, should it be valid. -/
def evaluator (config : Config) : Evaluator :=
  (Evaluator.ofRegistry (.ofList config.exposedHandlers)).withLimits
    config.limits

variable {config : Config} {name : String}

/-- A name leads to the target of its one entry. -/
theorem target_of_mem
    {builtinName : String}
    (member : (name, builtinName) ∈ config.effectiveMap) :
    config.target name = builtinName := by
  have distinct := config.ordered_effectiveMap.nodup_keys
  rw [target, (Entries.lookup_eq_some_iff distinct).mpr member,
    Option.getD_some]

/-- In a valid configuration every entry leads to a built-in function. -/
theorem isSome_ofName?_of_validate
    (valid : config.validate = .ok ()) {entry : String × String}
    (member : entry ∈ config.effectiveMap) :
    (Builtin.ofName? entry.2).isSome = true := by
  have noneBad : config.badTarget? = none := by
    cases bad : config.badTarget? with
    | none => rfl
    | some violation =>
        rw [validate, violation?, bad] at valid
        cases valid
  have good := List.find?_eq_none.mp (Option.map_eq_none_iff.mp noneBad)
  simpa [Option.isSome_iff_ne_none] using good entry member

theorem isSome_ofName?_of_kept (valid : config.validate = .ok ()) :
    ∀ entry ∈ config.effectiveMap.filter fun entry => config.isKept entry.1,
      (Builtin.ofName? entry.2).isSome = true :=
  fun _ member =>
    isSome_ofName?_of_validate valid (List.mem_filter.mp member).1

/-- Entries that lead to built-in functions are all bound. -/
theorem mapM_boundHandler
    {entries : List (String × String)}
    (known : ∀ entry ∈ entries, (Builtin.ofName? entry.2).isSome = true) :
    entries.mapM boundHandler = .ok (entries.filterMap fun entry =>
      (Builtin.ofName? entry.2).map fun builtin =>
        (entry.1, builtin.handler)) := by
  induction entries with
  | nil => rfl
  | cons entry entries ih =>
      rcases List.forall_mem_cons.mp known with ⟨first, others⟩
      rcases Option.isSome_iff_exists.mp first with ⟨builtin, named⟩
      have bound : boundHandler entry = .ok (entry.1, builtin.handler) := by
        rw [boundHandler, Registry.find?_builtins, named, Option.map_some]
      rw [List.mapM_cons, bound, ih others, List.filterMap_cons, named]
      rfl

/-- What validation accepts can be built. -/
theorem buildEvaluator_of_validate (valid : config.validate = .ok ()) :
    config.buildEvaluator = .ok config.evaluator := by
  rw [buildEvaluator, valid, mapM_boundHandler (isSome_ofName?_of_kept valid)]
  rfl

theorem ordered_exposedHandlers (config : Config) :
    Entries.Ordered config.exposedHandlers := by
  apply (config.ordered_effectiveMap.filter _).filterMap
  intro first second below firstBound firstIs secondBound secondIs
  rcases Option.map_eq_some_iff.mp firstIs with ⟨_, _, rfl⟩
  rcases Option.map_eq_some_iff.mp secondIs with ⟨_, _, rfl⟩
  exact below

/-- The evaluator has the exposed handlers in their order. -/
theorem entries_evaluator (config : Config) :
    config.evaluator.registry.entries = config.exposedHandlers :=
  (Registry.entries_ofList _).trans config.ordered_exposedHandlers.ofList_eq

/-- What the evaluator of a valid configuration binds a name to. -/
theorem find?_evaluator (valid : config.validate = .ok ()) (name : String) :
    config.evaluator.registry.find? name =
      if config.isKept name then
        ((config.effectiveMap.lookup name).bind
          Builtin.ofName?).map Builtin.handler
      else none := by
  rw [Registry.find?, entries_evaluator, exposedHandlers,
    Entries.lookup_filterMap Builtin.handler (isSome_ofName?_of_kept valid),
    Entries.lookup_filter]
  split <;> rfl

/-- An exposed name is bound to the built-in function that it leads to. -/
theorem find?_evaluator_of_exposes
    (valid : config.validate = .ok ()) (exposed : config.Exposes name) :
    ∃ builtin : Builtin, builtin.name = config.target name ∧
      config.evaluator.registry.find? name = some builtin.handler := by
  cases leads : config.effectiveMap.lookup name with
  | none => exact absurd exposed.1 (Entries.lookup_eq_none_iff.mp leads)
  | some builtinName =>
      have member := Entries.mem_of_lookup leads
      rcases Option.isSome_iff_exists.mp
        (isSome_ofName?_of_validate valid member) with ⟨builtin, named⟩
      refine ⟨builtin, ?_, ?_⟩
      · rw [target, leads]
        exact Builtin.ofName?_eq_some_iff.mp named
      · rw [find?_evaluator valid, if_pos exposed.2, leads, Option.bind_some,
          named, Option.map_some]

/-- A name that is not exposed is not bound, not even that of a built-in. -/
theorem find?_evaluator_of_not_exposes
    (valid : config.validate = .ok ()) (hidden : ¬config.Exposes name) :
    config.evaluator.registry.find? name = none := by
  rw [find?_evaluator valid]
  split
  · rename_i kept
    have absent : name ∉ Entries.keys config.effectiveMap :=
      fun inMap => hidden ⟨inMap, kept⟩
    rw [Entries.lookup_eq_none_iff.mpr absent]
    rfl
  · rfl

theorem callsBuiltins_evaluator
    (valid : config.validate = .ok ()) (root : Node) :
    root.CallsBuiltins config.evaluator.registry := by
  intro name _ handler found
  by_cases exposed : config.Exposes name
  · rcases find?_evaluator_of_exposes valid exposed with ⟨builtin, _, bound⟩
    exact ⟨builtin, trivial, Option.some.inj (found.symm.trans bound)⟩
  · rw [find?_evaluator_of_not_exposes valid exposed] at found
    cases found

/-- Exposed names are bound as the built-in names that they lead to. -/
theorem bindAlike_evaluator
    (valid : config.validate = .ok ()) (exposed : config.Exposes name) :
    Evaluator.BindAlike config.evaluator.registry Registry.builtins name
      (config.target name) := by
  rcases find?_evaluator_of_exposes valid exposed with ⟨builtin, leads, bound⟩
  exact ⟨builtin, bound, leads ▸ Registry.find?_builtins_name builtin⟩

/-- An evaluation fails for want of a function when it gets to a hidden name. -/
theorem unknownFunction_iff
    (valid : config.validate = .ok ()) (context : Context) (root : Node)
    (name : String) :
    (∃ error, config.evaluator.evaluate context root = .error error ∧
        error.rootCause = .unknownFunction name) ↔
      ∃ levels argument, ¬config.Exposes name ∧
        config.evaluator.Reaches context ⟨config.evaluator.maxDepth, root⟩
          ⟨levels + 1, .function name argument⟩ := by
  have calls := callsBuiltins_evaluator valid root
  constructor
  · rintro ⟨error, failed, cause⟩
    rcases Evaluator.exists_origin calls failed with ⟨task, reaches, origin⟩
    rw [cause] at origin
    cases origin with
    | @unbound levels _ argument unbound =>
        refine ⟨levels, argument, fun exposed => ?_, reaches⟩
        rcases find?_evaluator_of_exposes valid exposed with ⟨_, _, bound⟩
        rw [unbound] at bound
        cases bound
    | own found own => exact absurd own id
  · rintro ⟨levels, argument, hidden, reaches⟩
    exact reaches.outcome_eq_error calls
      (Evaluator.outcome_unbound (find?_evaluator_of_not_exposes valid hidden)
        levels argument)

/--
Renaming and hiding keep meaning.  With the evaluator of a valid configuration,
a condition of exposed names comes to the same value as with the built-in names
that they lead to, or fails for the same cause within functions whose exposed
names lead to those of the other failure; and a condition fails for want of a
function exactly if its evaluation reaches a function of that name which is not
exposed.
-/
theorem buildEvaluator_keeps_meaning (valid : config.validate = .ok ()) :
    ∃ evaluator, config.buildEvaluator = .ok evaluator ∧
      (∀ (context : Context) (root : Node),
        (∀ name ∈ root.functionNames, config.Exposes name) →
          OutcomesRelated
            (ConditionError.Renamed config.target config.Exposes) Eq
            (evaluator.evaluate context root)
            ((Evaluator.standard.withLimits config.limits).evaluate context
              (root.rename config.target))) ∧
      ∀ (context : Context) (root : Node) (name : String),
        (∃ error, evaluator.evaluate context root = .error error ∧
            error.rootCause = .unknownFunction name) ↔
          ∃ levels argument, ¬config.Exposes name ∧
            evaluator.Reaches context ⟨evaluator.maxDepth, root⟩
              ⟨levels + 1, .function name argument⟩ := by
  refine ⟨config.evaluator, buildEvaluator_of_validate valid, ?_,
    unknownFunction_iff valid⟩
  intro context root exposed
  have alike : ∀ name, config.Exposes name →
      Evaluator.BindAlike config.evaluator.registry
        (Evaluator.standard.withLimits config.limits).registry name
        (config.target name) :=
    fun _ => bindAlike_evaluator valid
  exact Evaluator.outcome_rename alike exposed rfl context
    config.limits.maxDepth

/--
The names of conjunction and disjunction exchanged, of which only `and`, the
name of disjunction, is kept.
-/
def swapped : Config :=
  ⟨["and"], [("and", "or"), ("or", "and")], .standard, by decide⟩

/--
Under exchanged names `and` asks for some operand, and `or` is unknown although
it is the name of a built-in function.
-/
theorem buildEvaluator_keeps_meaning_swapped :
    swapped.validate = .ok () ∧
      ∃ evaluator, swapped.buildEvaluator = .ok evaluator ∧
        evaluator.evaluate .empty (.function "and"
          (.array [.literal (.boolean false), .literal (.boolean true)])) =
            .ok (.bool true) ∧
        ∃ error, evaluator.evaluate .empty (.function "or" (.array [])) =
            .error error ∧
          error.rootCause = .unknownFunction "or" := by
  have valid : swapped.validate = .ok () := by decide
  have leads : swapped.target "and" = "or" := by decide
  rcases buildEvaluator_keeps_meaning valid with
    ⟨evaluator, built, renames, hides⟩
  refine ⟨valid, evaluator, built, ?_, ?_⟩
  · have related := renames .empty (.function "and"
      (.array [.literal (.boolean false), .literal (.boolean true)]))
        fun name named => List.mem_singleton.mp named ▸ by decide
    simp only [Node.rename, Node.renameAll, leads] at related
    exact related.eq_ok
  · rw [buildEvaluator_of_validate valid] at built
    cases built
    exact (hides .empty (.function "or" (.array [])) "or").mpr
      ⟨63, .array [], by decide, .refl⟩

end Criteria.Config
