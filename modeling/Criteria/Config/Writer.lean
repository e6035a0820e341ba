import Criteria.Config.Basic
import Criteria.Yaml.Writer

/-!
# Writing configurations

The configuration in force as a YAML text: the whitelist, the function map
with every exposed name, and the two limits.
-/

namespace Criteria.Config

/-- The lines of the whitelist. -/
def writeWhitelist : List String → List Char
  | [] => "  func_whitelist: []\n".toList
  | names => "  func_whitelist:\n".toList ++ names.flatMap (Yaml.writeItem 2)

/-- The lines of the function map. -/
def writeMap (entries : List (String × String)) : List Char :=
  "  func_map:\n".toList ++
    entries.flatMap fun (name, target) => Yaml.writeEntry 4 name target

/-- The line of a limit. -/
def writeLimit (limit : LimitField) (value : Nat) : List Char :=
  "  ".toList ++ limit.name.toList ++ ": ".toList ++
    decimalDigits value ++ ['\n']

/-- The configuration in force as a text. -/
def toYaml (config : Config) : String :=
  String.ofList <|
    "evaluator:\n".toList ++ writeWhitelist config.whitelist ++
      writeMap config.effectiveMap ++
      "limits:\n".toList ++ writeLimit .maxDepth config.limits.maxDepth ++
      writeLimit .maxNodes config.limits.maxNodes

end Criteria.Config
