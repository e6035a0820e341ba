import Criteria.Config.Basic
import Criteria.Storage
import Criteria.Text.Bytes
import Criteria.Yaml.Reader
import Criteria.Yaml.Scalar

/-!
# Reading configurations

A configuration is a YAML mapping.  The entries `evaluator` and `limits` are
mappings again; unknown entries are ignored, and a known entry may occur only
once.  In the function map, whose keys are free, the last entry of a key
counts.  A text of nothing but white space is the standard configuration.
-/

namespace Criteria.Config

/-- The value of an entry that may occur at most once. -/
def single? (key : String) (entries : List (String × Yaml)) :
    Option (Option Yaml) :=
  match Yaml.valuesOf key entries with
  | [] => some none
  | [value] => some (some value)
  | _ => none

/--
Reads an entry that may occur at most once, with the value it has when it is
missing.
-/
def readEntry? {α : Type} (key : String) (missing : α) (read : Yaml → Option α)
    (entries : List (String × Yaml)) : Option α := do
  match ← single? key entries with
  | none => return missing
  | some value => read value

/-- A sequence of scalars as a list of names. -/
def readNames? (document : Yaml.Document) (node : Yaml) :
    Option (List String) := do
  (← document.items? node).mapM document.text?

/-- A mapping from scalars to scalars, entry by entry. -/
def readMap? (document : Yaml.Document) (node : Yaml) :
    Option (List (String × String)) := do
  (← document.entries? node).mapM fun (key, target) =>
    (document.text? target).map fun target => (key, target)

/--
Whether a scalar may be read as an integer: it is plain, or a literal block with
that tag.
-/
def mayBeInteger (style : ScalarStyle) (tag : Option String) : Bool :=
  style = .plain || (style = .literal && tag == some "tag:yaml.org,2002:int")

/-- An unsigned integer of 64 bits. -/
def readLimit? (document : Yaml.Document) (node : Yaml) : Option Nat :=
  match document.resolve? node with
  | some (.scalar style tag text) =>
      if mayBeInteger style tag then
        (Yaml.readUnsigned? text.toList).filter (· < 2 ^ 64)
      else none
  | _ => none

/-- The two limits; one that is not given is the standard one. -/
def readLimits? (document : Yaml.Document) (node : Yaml) : Option Limits := do
  let entries ← document.entries? node
  let maxDepth ←
    readEntry? "max_depth" Limits.standard.maxDepth (readLimit? document)
      entries
  let maxNodes ←
    readEntry? "max_nodes" Limits.standard.maxNodes (readLimit? document)
      entries
  return ⟨maxDepth, maxNodes⟩

/-- The whitelist and the entries of the function map. -/
def readFunctions? (document : Yaml.Document) (node : Yaml) :
    Option (List String × List (String × String)) := do
  let entries ← document.entries? node
  let whitelist ← readEntry? "func_whitelist" [] (readNames? document) entries
  let mapped ← readEntry? "func_map" [] (readMap? document) entries
  return (whitelist, mapped)

/-- The configuration that a document describes. -/
def ofYaml? (document : Yaml.Document) : Option Config := do
  let entries ← document.entries? document.root
  let (whitelist, mapped) ←
    readEntry? "evaluator" ([], []) (readFunctions? document) entries
  let limits ←
    readEntry? "limits" Limits.standard (readLimits? document) entries
  return .ofEntries whitelist mapped limits

/-- The configuration that a text describes. -/
def ofText (text : String) : Except ConfigError Config :=
  if isBlankText text.toList then .ok standard
  else
    match (Yaml.read? text).bind ofYaml? with
    | some config => .ok config
    | none => .error .malformed

/-- The configuration that the bytes of a file describe; they must be UTF-8. -/
def ofBytes (bytes : List UInt8) : Except ConfigError Config :=
  match textOfBytes? bytes with
  | some text => ofText text
  | none => .error .unreadable

/--
The configuration in what is found under a path; a missing file configures
nothing.
-/
def load : Stored → Except ConfigError Config
  | .missing => .ok standard
  | .file bytes => ofBytes bytes
  | .directory | .inaccessible => .error .unreadable

end Criteria.Config
