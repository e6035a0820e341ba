import Criteria.Config.Reader
import Criteria.Config.Writer
import Criteria.Node.Tree
import Criteria.Service.Arguments
import Criteria.Service.Batch
import Criteria.Service.Buffer

/-!
# Running commands

Every command first loads and validates the configuration.  A batch then opens
its input before its output, so that a missing input leaves the output alone,
and writes a file through a buffer.
A run is described over whatever provides files and the standard input: the
operating system, or a directory held as a value.
-/

namespace Criteria

/-- What a run needs around it. -/
structure Environment (m : Type → Type) where
  /-- What is found under a path. -/
  find : String → m Stored
  /-- All bytes of the standard input. -/
  standardInput : m (List UInt8)
  /-- Empties a file or creates it; tells whether that was possible. -/
  create : String → m Bool
  /-- Puts bytes at the end of a file that was created before. -/
  append : String → List UInt8 → m Unit

/-- What came of a run; the output is what went to the standard output. -/
structure RunReport where
  exitCode : Nat
  output : String
  message : Option String

namespace RunReport

/-- A run that succeeded. -/
def success (output : String) : RunReport :=
  ⟨0, output, none⟩

/-- A run that failed before it wrote anything. -/
def failure (message : String) : RunReport :=
  ⟨1, "", some message⟩

/-- A run that did not start because its arguments were misused. -/
def misuse : RunReport :=
  ⟨2, "", some <|
    "usage: criteria [-c FILE] " ++
      "batch [-i FILE] [-o FILE] | config | tree CONDITION"⟩

end RunReport

/--
The text and the exit code of a batch whose lines go to the standard output.
-/
def BatchReport.toRunReport (report : BatchReport) (output : String) :
    RunReport :=
  if report.aborted then ⟨1, output, some "malformed message"⟩
  else .success output

/--
The bytes of a file that was opened; what is no file breaks a batch off at once.
-/
def Service.runBatchOn (service : Service) : Option (List UInt8) → BatchReport
  | some bytes => service.runBatch bytes
  | none => ⟨[], true⟩

/-- The configuration under a path, once it is validated. -/
def Config.loadValid (stored : Stored) : Except ConfigError Config := do
  let config ← load stored
  config.validate
  return config

namespace Environment

variable {m : Type → Type} [Monad m]

/-- Whether an endpoint can be read from. -/
def opens (environment : Environment m) : Endpoint → m Bool
  | .standard => return true
  | .file path => return (← environment.find path).opens

/-- Whether an endpoint can be written to; a file is emptied by that. -/
def creates (environment : Environment m) : Endpoint → m Bool
  | .standard => return true
  | .file path => environment.create path

/-- All bytes of an endpoint. -/
def readAll (environment : Environment m) : Endpoint → m (Option (List UInt8))
  | .standard => return some (← environment.standardInput)
  | .file path => return (← environment.find path).bytes?

/-- Puts a line into a file. -/
def putLine (environment : Environment m) (path : String) (buffer : FileBuffer)
    (line : String) : m FileBuffer := do
  let buffer ← buffer.put (environment.append path) (bytesOfText line)
  buffer.put (environment.append path) (bytesOfText "\n")

/-- Writes lines into a file that was created before, and closes it. -/
def writeLines
    (environment : Environment m) (path : String) (lines : List String) :
    m Unit := do
  let buffer ← lines.foldlM (environment.putLine path) .empty
  discard (buffer.flush (environment.append path))

/--
Hands the lines of a batch to an endpoint, be the batch aborted behind them or
not.
-/
def deliver (environment : Environment m) (report : BatchReport) :
    Endpoint → m RunReport
  | .standard => return report.toRunReport report.text
  | .file path => do
      environment.writeLines path report.lines
      return report.toRunReport ""

/-- The message about an endpoint that cannot be opened. -/
def cannotOpen (role : String) : Endpoint → RunReport
  | .standard => .failure ("unable to open " ++ role)
  | .file path => .failure ("unable to open " ++ role ++ " file " ++ path)

/-- Runs a batch between two endpoints. -/
def runBatch
    (environment : Environment m) (service : Service)
    (input output : Endpoint) :
    m RunReport := do
  if ← environment.opens input then
    if ← environment.creates output then
      let bytes ← environment.readAll input
      environment.deliver (service.runBatchOn bytes) output
    else
      return cannotOpen "output" output
  else
    return cannotOpen "input" input

/-- Runs a command under a valid configuration. -/
def runCommand (environment : Environment m) (config : Config) :
    Command → m RunReport
  | .config => return .success config.toYaml
  | .tree condition =>
      match parse config.limits condition with
      | .ok root => return .success root.render
      | .error error => return .failure error.message
  | .batch input output =>
      match Service.ofConfig config with
      | .ok service => environment.runBatch service input output
      | .error error => return .failure error.message

/-- Runs an invocation. -/
def runInvocation (environment : Environment m) (invocation : Invocation) :
    m RunReport := do
  match Config.loadValid (← environment.find invocation.configPath) with
  | .ok config => environment.runCommand config invocation.command
  | .error error => return .failure error.message

/-- Runs the command line that arguments spell. -/
def run (environment : Environment m) (arguments : List String) : m RunReport :=
  match Invocation.ofArguments? arguments with
  | some invocation => environment.runInvocation invocation
  | none => return .misuse

end Environment

/-- The environment of a directory and the bytes of the standard input. -/
def Directory.environment (standardInput : List UInt8) :
    Environment (StateM Directory) where
  find path := do return (← get).find path
  standardInput := return standardInput
  create path := do
    match (← get).write? path [] with
    | some directory =>
        set directory
        return true
    | none => return false
  append path bytes :=
    modify fun directory => (directory.append? path bytes).getD directory

/-- The report of a run in a directory, and the directory afterwards. -/
def Directory.run (directory : Directory) (standardInput : List UInt8)
    (arguments : List String) : RunReport × Directory :=
  ((environment standardInput).run arguments).run directory

end Criteria
