import Mathlib.Data.Option.Basic
import Criteria.Proofs.Config.Exposure
import Criteria.Proofs.Text.ByteOrder

/-!
# What configurations are accepted

A configuration is refused for the first rule that it breaks: targets come
before the whitelist and the whitelist before the limits, targets are taken in
the order of the exposed names and whitelisted names as they stand.  Building an
evaluator looks targets up again and could fail there, but never does once
validation has succeeded; the names that it then binds are those of the function
map that the whitelist keeps, which is all of them if nothing is whitelisted.
-/

namespace Criteria

/-- A built-in function goes by a name. -/
def Builtin.IsName (name : String) : Prop :=
  ∃ builtin : Builtin, builtin.name = name

theorem Builtin.isSome_ofName?_iff {name : String} :
    (ofName? name).isSome = true ↔ IsName name := by
  rw [Option.isSome_iff_exists]
  exact exists_congr fun _ => ofName?_eq_some_iff

/-- In key order the entry found first has the least key of those that pass. -/
theorem Entries.Ordered.find?_eq_some_iff
    {α : Type} {entries : List (String × α)} (ordered : Ordered entries)
    {passes : String × α → Bool} {entry : String × α} :
    entries.find? passes = some entry ↔
      entry ∈ entries ∧ passes entry = true ∧
        ∀ other ∈ entries, other.1 < entry.1 → passes other = false := by
  rw [List.find?_eq_some_iff_append]
  constructor
  · rintro ⟨found, front, back, rfl, none⟩
    refine ⟨List.mem_append_right front List.mem_cons_self, found, ?_⟩
    rcases List.pairwise_append.mp ordered with ⟨_, behind, _⟩
    intro other member less
    rcases List.mem_append.mp member with inFront | inBack
    · simpa using none other inFront
    · rcases List.mem_cons.mp inBack with rfl | later
      · exact absurd less (String.lt_irrefl _)
      · exact absurd less
          (String.lt_asymm ((List.pairwise_cons.mp behind).1 other later))
  · rintro ⟨member, found, least⟩
    rcases List.append_of_mem member with ⟨front, back, rfl⟩
    rcases List.pairwise_append.mp ordered with ⟨_, _, below⟩
    refine ⟨found, front, back, rfl, fun other inFront => ?_⟩
    have less := below other inFront entry List.mem_cons_self
    simpa using least other (List.mem_append_left _ inFront) less

namespace Config

/-- Every target of the function map is the name of a built-in function. -/
def TargetsKnown (config : Config) : Prop :=
  ∀ entry ∈ config.effectiveMap, Builtin.IsName entry.2

/-- Every whitelisted name has an entry in the function map. -/
def NamesExposed (config : Config) : Prop :=
  ∀ name ∈ config.whitelist, name ∈ Entries.keys config.effectiveMap

/-- The rule that a configuration breaks first. -/
inductive BreaksFirst (config : Config) : ConfigError → Prop where
  /--
  Of the names that lead to no built-in function this has the least bytes.
  -/
  | target {name target : String}
      (leads : (name, target) ∈ config.effectiveMap)
      (unknown : ¬Builtin.IsName target)
      (least : ∀ entry ∈ config.effectiveMap,
        bytesOfText entry.1 < bytesOfText name → Builtin.IsName entry.2) :
      BreaksFirst config (.unknownTarget name target)
  /-- The whitelisted names in front of this one are all exposed. -/
  | name {front back : List String} {name : String}
      (targets : config.TargetsKnown)
      (listed : config.whitelist = front ++ name :: back)
      (exposed : ∀ earlier ∈ front,
        earlier ∈ Entries.keys config.effectiveMap)
      (absent : name ∉ Entries.keys config.effectiveMap) :
      BreaksFirst config (.notExposed name)
  | maxDepth
      (targets : config.TargetsKnown) (names : config.NamesExposed)
      (zero : config.limits.maxDepth = 0) :
      BreaksFirst config (.zeroLimit .maxDepth)
  | maxNodes
      (targets : config.TargetsKnown) (names : config.NamesExposed)
      (positive : 0 < config.limits.maxDepth)
      (zero : config.limits.maxNodes = 0) :
      BreaksFirst config (.zeroLimit .maxNodes)

variable {config : Config} {error : ConfigError}

/-! ## The function map in force -/

/-- Without a function map the built-in functions go by their own names. -/
theorem mem_effectiveMap_iff {name target : String} :
    (name, target) ∈ config.effectiveMap ↔
      if config.functionMap = [] then name = target ∧ Builtin.IsName target
      else (name, target) ∈ config.functionMap := by
  have distinct : (Entries.keys (Builtin.all.map fun builtin =>
      (builtin.name, builtin.name))).Nodup := by decide
  have complete (builtin : Builtin) : builtin ∈ Builtin.all := by
    cases builtin <;> decide
  simp only [effectiveMap, List.isEmpty_iff]
  split
  · rw [identityMap, ← Entries.lookup_eq_some_iff
        (Entries.ordered_ofList _).nodup_keys,
      Entries.lookup_ofList_eq_some_iff distinct, List.mem_map]
    constructor
    · rintro ⟨builtin, _, same⟩
      cases same
      exact ⟨rfl, builtin, rfl⟩
    · rintro ⟨rfl, builtin, rfl⟩
      exact ⟨builtin, complete builtin, rfl⟩
  · rfl

/-! ## One rule at a time -/

theorem badTarget?_eq_none_iff :
    config.badTarget? = none ↔ config.TargetsKnown := by
  rw [badTarget?, Option.map_eq_none_iff, List.find?_eq_none]
  refine forall₂_congr fun entry _ => ?_
  rw [← Builtin.isSome_ofName?_iff, Option.isNone_iff_eq_none,
    Option.isSome_iff_ne_none]

theorem badTarget?_eq_some_iff :
    config.badTarget? = some error ↔
      ∃ name target, error = .unknownTarget name target ∧
        (name, target) ∈ config.effectiveMap ∧ ¬Builtin.IsName target ∧
        ∀ entry ∈ config.effectiveMap,
          bytesOfText entry.1 < bytesOfText name → Builtin.IsName entry.2 := by
  have unknown_iff (target : String) :
      (Builtin.ofName? target).isNone = true ↔ ¬Builtin.IsName target := by
    rw [← Builtin.isSome_ofName?_iff, Bool.not_eq_true,
      Option.isSome_eq_false_iff]
  rw [badTarget?, Option.map_eq_some_iff]
  simp only [config.ordered_effectiveMap.find?_eq_some_iff,
    bytesOfText_lt_iff, ← Bool.not_eq_true, unknown_iff, not_not]
  constructor
  · rintro ⟨entry, first, rfl⟩
    exact ⟨entry.1, entry.2, rfl, first⟩
  · rintro ⟨name, target, rfl, first⟩
    exact ⟨(name, target), first, rfl⟩

theorem badName?_eq_none_iff :
    config.badName? = none ↔ config.NamesExposed := by
  rw [badName?, Option.map_eq_none_iff, List.find?_eq_none]
  refine forall₂_congr fun name _ => ?_
  rw [Option.isNone_iff_eq_none, Entries.lookup_eq_none_iff, not_not]

theorem badName?_eq_some_iff :
    config.badName? = some error ↔
      ∃ front name back, error = .notExposed name ∧
        config.whitelist = front ++ name :: back ∧
        (∀ earlier ∈ front, earlier ∈ Entries.keys config.effectiveMap) ∧
        name ∉ Entries.keys config.effectiveMap := by
  rw [badName?, Option.map_eq_some_iff]
  simp only [List.find?_eq_some_iff_append, Option.isNone_iff_eq_none,
    Entries.lookup_eq_none_iff, Option.not_isNone, Entries.lookup_isSome_iff]
  constructor
  · rintro ⟨name, ⟨absent, front, back, listed, exposed⟩, rfl⟩
    exact ⟨front, name, back, rfl, listed, exposed, absent⟩
  · rintro ⟨front, name, back, rfl, listed, exposed, absent⟩
    exact ⟨name, ⟨absent, front, back, listed, exposed⟩, rfl⟩

theorem badLimit?_eq_none_iff :
    config.badLimit? = none ↔
      0 < config.limits.maxDepth ∧ 0 < config.limits.maxNodes := by
  simp only [badLimit?, Nat.pos_iff_ne_zero]
  split_ifs with noDepth noNodes <;> simp [*]

theorem badLimit?_eq_some_iff :
    config.badLimit? = some error ↔
      (error = .zeroLimit .maxDepth ∧ config.limits.maxDepth = 0) ∨
      (error = .zeroLimit .maxNodes ∧ 0 < config.limits.maxDepth ∧
        config.limits.maxNodes = 0) := by
  simp only [badLimit?, Nat.pos_iff_ne_zero]
  split_ifs with noDepth noNodes <;> simp [*, eq_comm]

/-! ## All rules -/

theorem validate_eq_ok_iff :
    config.validate = .ok () ↔
      config.TargetsKnown ∧ config.NamesExposed ∧
        0 < config.limits.maxDepth ∧ 0 < config.limits.maxNodes := by
  have accepted : config.validate = .ok () ↔ config.violation? = none := by
    rw [validate]
    cases config.violation? <;> simp
  rw [accepted, violation?, Option.orElse_eq_none, Option.orElse_eq_none,
    badTarget?_eq_none_iff, badName?_eq_none_iff, badLimit?_eq_none_iff]

/-- A configuration is refused for the rule that it breaks first. -/
theorem validate_eq_error_iff :
    config.validate = .error error ↔ config.BreaksFirst error := by
  have refused :
      config.validate = .error error ↔ config.violation? = some error := by
    rw [validate]
    cases config.violation? <;> simp
  rw [refused, violation?, Option.orElse_eq_some, Option.orElse_eq_some,
    badTarget?_eq_some_iff, badTarget?_eq_none_iff,
    badName?_eq_some_iff, badName?_eq_none_iff, badLimit?_eq_some_iff]
  constructor
  · rintro (⟨name, target, rfl, leads, unknown, least⟩ | ⟨targets,
      ⟨front, name, back, rfl, listed, exposed, absent⟩ | ⟨names,
        ⟨rfl, zero⟩ | ⟨rfl, positive, zero⟩⟩⟩)
    · exact .target leads unknown least
    · exact .name targets listed exposed absent
    · exact .maxDepth targets names zero
    · exact .maxNodes targets names positive zero
  · intro breaks
    cases breaks with
    | target leads unknown least =>
        exact Or.inl ⟨_, _, rfl, leads, unknown, least⟩
    | name targets listed exposed absent =>
        exact Or.inr ⟨targets,
          Or.inl ⟨_, _, _, rfl, listed, exposed, absent⟩⟩
    | maxDepth targets names zero =>
        exact Or.inr ⟨targets, Or.inr ⟨names, Or.inl ⟨rfl, zero⟩⟩⟩
    | maxNodes targets names positive zero =>
        exact Or.inr ⟨targets, Or.inr ⟨names, Or.inr ⟨rfl, positive, zero⟩⟩⟩

/-- Building an evaluator fails exactly as validation does. -/
theorem buildEvaluator_eq_error_iff :
    config.buildEvaluator = .error error ↔ config.validate = .error error := by
  cases outcome : config.validate with
  | ok =>
      rw [buildEvaluator_of_validate outcome]
      exact ⟨nofun, nofun⟩
  | error violation =>
      rw [buildEvaluator, outcome, Except.error.injEq]
      exact Iff.of_eq (Except.error.injEq violation error)

/-! ## The names of the evaluator -/

theorem isKept_iff {name : String} :
    config.isKept name = true ↔
      config.whitelist = [] ∨ name ∈ config.whitelist := by
  rw [isKept, Bool.or_eq_true, List.isEmpty_iff, List.contains_iff_mem]

theorem keys_exposedHandlers (valid : config.validate = .ok ()) :
    Entries.keys config.exposedHandlers =
      (Entries.keys config.effectiveMap).filter config.isKept := by
  have bound : ∀ entry ∈ config.effectiveMap.filter
      fun entry => config.isKept entry.1,
        ((Builtin.ofName? entry.2).map
          fun builtin => (entry.1, builtin.handler)).map Prod.fst =
            some entry.1 := by
    intro entry member
    rcases Option.isSome_iff_exists.mp
      (isSome_ofName?_of_kept valid entry member) with ⟨builtin, named⟩
    rw [named]
    rfl
  rw [exposedHandlers, Entries.keys, List.map_filterMap,
    List.filterMap_congr bound, List.filterMap_eq_map', Entries.keys,
    List.filter_map]
  rfl

/-- The evaluator has the exposed names that are kept, in their order. -/
theorem names_evaluator (valid : config.validate = .ok ()) :
    config.evaluator.registry.names =
      (Entries.keys config.effectiveMap).filter config.isKept := by
  rw [Registry.names, entries_evaluator, keys_exposedHandlers valid]

/-! ## Acceptance and exposure -/

/--
Acceptance and exposure are exact.  Building an evaluator fails exactly as
validation does; validation succeeds exactly if every target is the name of a
built-in function, every whitelisted name is exposed and both limits are
positive, and is refused for the first rule that is broken otherwise.  The
evaluator then has the names of the function map, all of them or those that are
whitelisted, and each is bound to the built-in function that it leads to.
-/
theorem acceptance_is_exact (config : Config) :
    (∀ name target, (name, target) ∈ config.effectiveMap ↔
      if config.functionMap = [] then name = target ∧ Builtin.IsName target
      else (name, target) ∈ config.functionMap) ∧
      (∀ error, config.buildEvaluator = .error error ↔
        config.validate = .error error) ∧
      (config.validate = .ok () ↔
        (∀ entry ∈ config.effectiveMap, Builtin.IsName entry.2) ∧
          (∀ name ∈ config.whitelist,
            name ∈ Entries.keys config.effectiveMap) ∧
          0 < config.limits.maxDepth ∧ 0 < config.limits.maxNodes) ∧
      (∀ error, config.validate = .error error ↔
        config.BreaksFirst error) ∧
      (config.validate = .ok () →
        ∃ evaluator, config.buildEvaluator = .ok evaluator ∧
          evaluator.maxDepth = config.limits.maxDepth ∧
          evaluator.registry.names =
            (Entries.keys config.effectiveMap).filter
              (fun name => config.whitelist = [] ∨ name ∈ config.whitelist) ∧
          ∀ entry ∈ config.effectiveMap,
            config.whitelist = [] ∨ entry.1 ∈ config.whitelist →
              ∃ builtin : Builtin, builtin.name = entry.2 ∧
                evaluator.registry.find? entry.1 = some builtin.handler) := by
  refine ⟨fun _ _ => mem_effectiveMap_iff,
    fun _ => buildEvaluator_eq_error_iff, validate_eq_ok_iff,
    fun _ => validate_eq_error_iff, fun valid => ?_⟩
  refine ⟨config.evaluator, buildEvaluator_of_validate valid, rfl, ?_, ?_⟩
  · rw [names_evaluator valid]
    refine List.filter_congr fun name _ => ?_
    rw [Bool.eq_iff_iff, isKept_iff, decide_eq_true_iff]
  · intro entry member kept
    have exposed : config.Exposes entry.1 :=
      ⟨List.mem_map_of_mem member, isKept_iff.mpr kept⟩
    rcases find?_evaluator_of_exposes valid exposed with
      ⟨builtin, leads, bound⟩
    rw [target_of_mem member] at leads
    exact ⟨builtin, leads, bound⟩

/-- Conjunction and equality renamed, of which equality is whitelisted twice. -/
def listedTwice : Config :=
  ⟨["same", "same"], [("all", "and"), ("same", "eq")], .standard, by decide⟩

/-- A name that is whitelisted twice is bound once. -/
theorem acceptance_is_exact_listedTwice :
    listedTwice.validate = .ok () ∧
      ∃ evaluator, listedTwice.buildEvaluator = .ok evaluator ∧
        evaluator.registry.names = ["same"] ∧
        ∃ builtin : Builtin, builtin.name = "eq" ∧
          evaluator.registry.find? "same" = some builtin.handler := by
  have valid : listedTwice.validate = .ok () := by decide
  rcases acceptance_is_exact listedTwice with ⟨_, _, _, _, exposes⟩
  rcases exposes valid with ⟨evaluator, built, _, names, binds⟩
  refine ⟨valid, evaluator, built, ?_, ?_⟩
  · rw [names]
    decide
  · exact binds ("same", "eq") (by decide) (by decide)

end Config

end Criteria
