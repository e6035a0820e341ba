import Criteria.Evaluation.Builtin

/-!
# Configurations

A configuration says which built-in functions conditions may use, under which
names, and how large conditions may grow.  The function map leads from exposed
names to built-in names; without a map every built-in function goes by its own
name.  A whitelist, unless it is empty, keeps some of the exposed names only.
-/

namespace Criteria

/-- The limits that a configuration sets. -/
inductive LimitField where
  | maxDepth
  | maxNodes
  deriving DecidableEq

/-- The name of a limit in a configuration. -/
def LimitField.name : LimitField → String
  | .maxDepth => "max_depth"
  | .maxNodes => "max_nodes"

/-- Why a configuration cannot be used. -/
inductive ConfigError where
  | unreadable
  | malformed
  | unknownTarget (name target : String)
  | notExposed (name : String)
  | zeroLimit (limit : LimitField)
  deriving DecidableEq

/--
The wording of a configuration error.  The path of a file that cannot be read is
left out, and so is what the system or the YAML parser has to say about it.
-/
def ConfigError.message : ConfigError → String
  | .unreadable => "failed to read config"
  | .malformed => "invalid config"
  | .unknownTarget name target =>
      "function map points to unavailable function: " ++ quoteString name ++
        " -> " ++ quoteString target
  | .notExposed name =>
      "whitelisted function " ++ quoteString name ++
        " is not exposed by the function map"
  | .zeroLimit limit => "limit " ++ limit.name ++ " must be greater than zero"

/-- A configuration, with its function map in the order of the exposed names. -/
structure Config where
  whitelist : List String
  functionMap : List (String × String)
  limits : Limits
  functionMap_ordered : Entries.Ordered functionMap
  deriving DecidableEq

namespace Config

/-- The configuration that holds when nothing is configured. -/
def standard : Config :=
  ⟨[], [], Limits.standard, Entries.ordered_nil⟩

/--
The configuration with a function map given entry by entry; the last entry of a
name counts.
-/
def ofEntries
    (whitelist : List String) (entries : List (String × String))
    (limits : Limits) :
    Config :=
  ⟨whitelist, Entries.ofList entries, limits, Entries.ordered_ofList entries⟩

/-- Every built-in function under its own name. -/
def identityMap : List (String × String) :=
  Entries.ofList (Builtin.all.map fun builtin => (builtin.name, builtin.name))

/-- The map from exposed names to built-in names that is in force. -/
def effectiveMap (config : Config) : List (String × String) :=
  if config.functionMap.isEmpty then identityMap else config.functionMap

/-- The first exposed name whose target is no built-in function. -/
def badTarget? (config : Config) : Option ConfigError :=
  (config.effectiveMap.find? fun entry => (Builtin.ofName? entry.2).isNone).map
    fun entry => .unknownTarget entry.1 entry.2

/-- The first whitelisted name that is not exposed. -/
def badName? (config : Config) : Option ConfigError :=
  (config.whitelist.find? fun name =>
    (config.effectiveMap.lookup name).isNone).map .notExposed

/-- The first limit that is zero. -/
def badLimit? (config : Config) : Option ConfigError :=
  if config.limits.maxDepth = 0 then some (.zeroLimit .maxDepth)
  else if config.limits.maxNodes = 0 then some (.zeroLimit .maxNodes)
  else none

/--
The first rule that a configuration breaks: targets, then the whitelist, then
limits.
-/
def violation? (config : Config) : Option ConfigError :=
  config.badTarget? <|> config.badName? <|> config.badLimit?

/-- Refuses a configuration that breaks a rule. -/
def validate (config : Config) : Except ConfigError Unit :=
  match config.violation? with
  | some violation => .error violation
  | none => .ok ()

/-- Whether the whitelist keeps a name. -/
def isKept (config : Config) (name : String) : Bool :=
  config.whitelist.isEmpty || config.whitelist.contains name

/-- What an entry of the function map binds its name to. -/
def boundHandler (entry : String × String) :
    Except ConfigError (String × Handler) :=
  match Registry.builtins.find? entry.2 with
  | some handler => .ok (entry.1, handler)
  | none => .error (.unknownTarget entry.1 entry.2)

/-- The evaluator that a configuration describes. -/
def buildEvaluator (config : Config) : Except ConfigError Evaluator := do
  config.validate
  let handlers ←
    (config.effectiveMap.filter fun entry => config.isKept entry.1).mapM
      boundHandler
  return (Evaluator.ofRegistry (.ofList handlers)).withLimits config.limits

theorem ordered_effectiveMap (config : Config) :
    Entries.Ordered config.effectiveMap := by
  rw [effectiveMap]
  split
  · exact Entries.ordered_ofList _
  · exact config.functionMap_ordered

end Config

end Criteria
