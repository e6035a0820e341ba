import Criteria.Service.Basic

/-!
# Batches

A batch is a stream of messages with blanks between them at most.  Each is
answered on a line of its own.  The first bytes that are no message abort the
batch; the answers to the messages in front of them stay.
-/

namespace Criteria

/--
The messages at the head of a stream, and whether nothing but blanks is left
behind them.
-/
structure MessageStream where
  messages : List Message
  isComplete : Bool

/-- Reads messages up to the first fault; `bound` limits their number. -/
def MessageStream.readUpTo : (bound : Nat) → List UInt8 → MessageStream
  | 0, bytes => ⟨[], (skipBlankBytes bytes).isEmpty⟩
  | bound + 1, bytes =>
      if (skipBlankBytes bytes).isEmpty then ⟨[], true⟩
      else
        match Message.read bytes with
        | .error _ => ⟨[], false⟩
        | .ok (message, rest) =>
            let later := readUpTo bound rest
            ⟨message :: later.messages, later.isComplete⟩

/-- The messages of a stream of bytes; each takes up at least one. -/
def MessageStream.ofBytes (bytes : List UInt8) : MessageStream :=
  readUpTo bytes.length bytes

/--
What came of a batch: a line for each message answered, and whether it was
aborted.
-/
structure BatchReport where
  lines : List String
  aborted : Bool

namespace BatchReport

/-- How many messages a batch processed, unless it was aborted. -/
def processed? (report : BatchReport) : Option Nat :=
  if report.aborted then none else some report.lines.length

/-- The lines of a report, each with its line feed. -/
def text (report : BatchReport) : String :=
  String.join (report.lines.map fun line => line ++ "\n")

end BatchReport

/-- Answers the messages of a stream of bytes. -/
def Service.runBatch (service : Service) (bytes : List UInt8) : BatchReport :=
  let stream := MessageStream.ofBytes bytes
  ⟨stream.messages.map fun message => (service.answer message).line,
    !stream.isComplete⟩

end Criteria
