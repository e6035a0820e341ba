import Criteria.Entries
import Criteria.Evaluation.Context
import Criteria.Node.Arguments

/-!
# Handlers and registries

A function of a condition is carried out by the handler registered under its
name.  A handler receives the argument unevaluated and decides itself which
parts of it to evaluate, so that operands that are not needed are left alone.
It runs within an `Evaluation`: it may fail, it may resolve the context, and
it may record values for whoever watches.
-/

namespace Criteria

/--
What an evaluation carries along: the context, and the values recorded so far in
order.
-/
structure Session where
  context : Context
  recorded : List Json

/--
A computation within an evaluation; what was decoded or recorded stays after a
failure.
-/
abbrev Evaluation (α : Type) :=
  ExceptT ConditionError (StateM Session) α

namespace Evaluation

/-- Runs a computation from a session. -/
def runFrom {α : Type} (session : Session) (evaluation : Evaluation α) :
    Except ConditionError α × Session :=
  (ExceptT.run evaluation).run session

/-- The outcome of a step that neither resolves the context nor records. -/
def ofExcept {α : Type} (outcome : Except ConditionError α) : Evaluation α :=
  ExceptT.mk fun session => (outcome, session)

/-- The value of the context. -/
def resolveContext : Evaluation Json :=
  ExceptT.mk fun session =>
    let (outcome, context) := session.context.resolve
    (outcome, { session with context })

/-- The value at the end of a path into the context. -/
def lookupContext (path : List Json) : Evaluation (Option Json) :=
  ExceptT.mk fun session =>
    let (outcome, context) := session.context.lookup path
    (outcome, { session with context })

/-- Records a value. -/
def note (value : Json) : Evaluation Unit :=
  ExceptT.mk fun session =>
    (.ok (), { session with recorded := session.recorded ++ [value] })

/-- The errors of a computation, each within the name of a function. -/
def within {α : Type} (name : String) (evaluation : Evaluation α) :
    Evaluation α :=
  ExceptT.mk fun session =>
    match evaluation.runFrom session with
    | (.ok value, after) => (.ok value, after)
    | (.error error, after) => (.error (.inFunction name error), after)

end Evaluation

/-- What a handler can do with the condition around it. -/
structure Scope where
  /-- Evaluates a node one level deeper. -/
  evaluate : Node → Evaluation Json
  /-- Whether a name has a handler. -/
  isDefined : String → Bool

/-- Evaluates nodes in order, up to the first failure. -/
def Scope.evaluateAll (scope : Scope) (nodes : List Node) :
    Evaluation (List Json) :=
  nodes.mapM scope.evaluate

/-- A function node: the name it is called by and its argument. -/
structure Call where
  name : String
  argument : Node

/-- The rule that carries out a function. -/
abbrev Handler :=
  Scope → Call → Evaluation Json

/-- Handlers under their names, in increasing order of the names. -/
structure Registry where
  entries : List (String × Handler)
  ordered : Entries.Ordered entries

namespace Registry

/-- A registry without handlers. -/
def empty : Registry :=
  ⟨[], Entries.ordered_nil⟩

/-- Registers a handler, in place of the one that had its name. -/
def add (registry : Registry) (name : String) (handler : Handler) : Registry :=
  ⟨Entries.insert name handler registry.entries,
    registry.ordered.insert name handler⟩

/-- The handler of a name. -/
def find? (registry : Registry) (name : String) : Option Handler :=
  registry.entries.lookup name

/-- Whether a name has a handler. -/
def contains (registry : Registry) (name : String) : Bool :=
  (registry.find? name).isSome

/-- Registers the handler that one name has now under another name as well. -/
def addAlias? (registry : Registry) (source name : String) : Option Registry :=
  (registry.find? source).map fun handler => registry.add name handler

/-- The names that have a handler, in increasing order. -/
def names (registry : Registry) : List String :=
  Entries.keys registry.entries

/-- The number of handlers. -/
def size (registry : Registry) : Nat :=
  registry.entries.length

/-- Whether there is no handler. -/
def isEmpty (registry : Registry) : Bool :=
  registry.entries.isEmpty

/--
The registry of handlers given with their names; of a repeated name the last
counts.
-/
def ofList (handlers : List (String × Handler)) : Registry :=
  handlers.foldl
    (fun registry (name, handler) => registry.add name handler) empty

/-- A registry as text: its names in quotes. -/
def describe (registry : Registry) : String :=
  "Registry \x7b handlers: [" ++
    ", ".intercalate (registry.names.map quoteString) ++ "] \x7d"

/--
Carries out a function; the errors of its handler are put within its name.
-/
def invoke (registry : Registry) (scope : Scope) (call : Call) :
    Evaluation Json :=
  match registry.find? call.name with
  | none => throw (.unknownFunction call.name)
  | some handler => (handler scope call).within call.name

@[simp]
theorem find?_add_self
    (registry : Registry) (name : String) (handler : Handler) :
    (registry.add name handler).find? name = some handler :=
  Entries.lookup_insert_self name handler registry.entries

theorem find?_add_of_ne
    {name wanted : String} (different : wanted ≠ name)
    (registry : Registry) (handler : Handler) :
    (registry.add name handler).find? wanted = registry.find? wanted :=
  Entries.lookup_insert_of_ne different handler registry.entries

end Registry

end Criteria
