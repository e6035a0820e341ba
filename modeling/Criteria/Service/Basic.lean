import Criteria.Config.Basic
import Criteria.Json.Writer
import Criteria.Node.Parser
import Criteria.Service.Message

/-!
# Answering messages

A service pairs an evaluator with the limits that conditions are read under.
Whatever goes wrong with a condition becomes part of the answer, so that every
message has one.
-/

namespace Criteria

/-- An evaluator, and the limits that conditions are read under. -/
structure Service where
  evaluator : Evaluator
  limits : Limits

/-- The answer to a message: an error text beside null, or a value. -/
structure Answer where
  error : Option String
  result : Json

namespace Answer

/-- The answer that an outcome amounts to. -/
def ofOutcome : Except ConditionError Json → Answer
  | .ok value => ⟨none, value⟩
  | .error error => ⟨some error.message, .null⟩

/-- An answer as a JSON value. -/
def toJson (answer : Answer) : Json :=
  .object [("error", (answer.error.map Json.string).getD .null),
    ("result", answer.result)]

/-- An answer as one line of text, without its line feed. -/
def line (answer : Answer) : String :=
  answer.toJson.compactText

end Answer

/-- The context that a message carries. -/
def Message.contextOf (message : Message) : Context :=
  match message.context with
  | some text => .raw text
  | none => .empty

namespace Service

/-- The service with all built-in functions under the standard limits. -/
def standard : Service :=
  ⟨Evaluator.standard, Limits.standard⟩

/-- The service that a configuration describes. -/
def ofConfig (config : Config) : Except ConfigError Service := do
  return ⟨← config.buildEvaluator, config.limits⟩

/-- The outcome of a condition, given as text, against a context. -/
def outcome (service : Service) (context : Context) (condition : String) :
    Except ConditionError Json := do
  service.evaluator.evaluate context (← parse service.limits condition)

/-- The answer to a message. -/
def answer (service : Service) (message : Message) : Answer :=
  .ofOutcome (service.outcome message.contextOf message.condition)

end Service

end Criteria
