/-!
# Arguments of the command line

The command comes first, apart from settings, which take a value each:
`--word VALUE`, `--word=VALUE`, `-l VALUE`, `-lVALUE` and `-l=VALUE`.  A value
that is an argument of its own may not start with a dash unless it is nothing
else.  The configuration may be set in front of the command or behind it, and
the latter counts; nothing may be set twice on one side.  Behind two dashes
every argument is an operand.
-/

namespace Criteria

/-- What can be set. -/
inductive Setting where
  | config
  | input
  | output
  deriving DecidableEq

/-- Where a batch reads from or writes to. -/
inductive Endpoint where
  | standard
  | file (path : String)
  deriving DecidableEq

/-- What can be asked for. -/
inductive Command where
  | batch (input output : Endpoint)
  | config
  | tree (condition : String)
  deriving DecidableEq

/-- A command and the path of the configuration. -/
structure Invocation where
  configPath : String
  command : Command
  deriving DecidableEq

/-- The path of the configuration unless another is set. -/
def standardConfigPath : String := "conditiond.yaml"

/-- A lone dash stands for the standard stream. -/
def Endpoint.ofArgument (argument : String) : Endpoint :=
  if argument = "-" then .standard else .file argument

namespace Setting

/-- The word of a setting. -/
def word : Setting → String
  | config => "config"
  | input => "input"
  | output => "output"

/-- The letter of a setting. -/
def letter : Setting → Char
  | config => 'c'
  | input => 'i'
  | output => 'o'

/--
Whether a setting may have a value: only the path of a configuration may not be
empty.
-/
def allows (setting : Setting) (value : String) : Bool :=
  setting ≠ .config || !value.isEmpty

end Setting

namespace Invocation

/-- The values set so far. -/
abbrev Settings := List (Setting × String)

/-- What the arguments go on with. -/
inductive Head where
  | finished
  | assignment (setting : Setting) (value : String) (rest : List String)
  | operand (text : String) (rest : List String)
  /-- Nothing but operands follow. -/
  | operands (rest : List String)
  | misused

/--
Whether an argument may be a value or an operand: it does not start with a dash,
or is one.
-/
def isPlain (argument : String) : Bool :=
  argument.toList.head? ≠ some '-' || argument = "-"

/-- A setting whose value is the next argument. -/
def Head.ofNext (setting : Setting) : List String → Head
  | value :: rest =>
      if isPlain value && setting.allows value then
        .assignment setting value rest
      else .misused
  | [] => .misused

/-- A setting whose value is attached to it. -/
def Head.ofAttached
    (setting : Setting) (value : List Char) (rest : List String) : Head :=
  if setting.allows (String.ofList value) then
    .assignment setting (String.ofList value) rest
  else .misused

/-- A setting named by its word, behind the two dashes. -/
def Head.ofWord
    (allowed : List Setting) (text : List Char) (rest : List String) : Head :=
  match allowed.find?
      fun setting => setting.word.toList == text.takeWhile (· != '=') with
  | none => .misused
  | some setting =>
      match text.dropWhile (· != '=') with
      | [] => ofNext setting rest
      | _ :: value => ofAttached setting value rest

/-- A setting named by its letter, behind the dash. -/
def Head.ofLetter (allowed : List Setting) (letter : Char) (text : List Char)
    (rest : List String) : Head :=
  match allowed.find? fun setting => setting.letter == letter with
  | none => .misused
  | some setting =>
      match text with
      | [] => ofNext setting rest
      | '=' :: value => ofAttached setting value rest
      | value => ofAttached setting value rest

/-- What the arguments go on with, when some settings are allowed. -/
def Head.ofArguments (allowed : List Setting) : List String → Head
  | [] => .finished
  | argument :: rest =>
      match argument.toList with
      | ['-', '-'] => .operands rest
      | '-' :: '-' :: word => ofWord allowed word rest
      | '-' :: letter :: text => ofLetter allowed letter text rest
      | _ => .operand argument rest

/-- Reads the arguments behind a command; `bound` limits the number of steps. -/
def readRest?
    (allowed : List Setting) (settings : Settings) (operands : List String) :
    (bound : Nat) → List String → Option (Settings × List String)
  | 0, _ => none
  | bound + 1, arguments =>
      match Head.ofArguments allowed arguments with
      | .finished => some (settings, operands)
      | .assignment setting value rest =>
          if (settings.lookup setting).isSome then none
          else
            readRest? allowed ((setting, value) :: settings) operands bound rest
      | .operand text rest =>
          readRest? allowed settings (operands ++ [text]) bound rest
      | .operands rest => some (settings, operands ++ rest)
      | .misused => none

/-- The settings and operands behind a command. -/
def settingsOf? (allowed : List Setting) (arguments : List String) :
    Option (Settings × List String) :=
  readRest? allowed [] [] (arguments.length + 1) arguments

/-- The endpoint that a setting names; by default the standard stream. -/
def endpointOf (setting : Setting) (settings : Settings) : Endpoint :=
  match settings.lookup setting with
  | some value => .ofArgument value
  | none => .standard

/-- A command and the settings behind it. -/
def readCommand? (name : String) (arguments : List String) :
    Option (Command × Settings) :=
  match name with
  | "batch" =>
      match settingsOf? [.config, .input, .output] arguments with
      | some (settings, []) =>
          some
            (.batch (endpointOf .input settings) (endpointOf .output settings),
              settings)
      | _ => none
  | "config" =>
      match settingsOf? [.config] arguments with
      | some (settings, []) => some (.config, settings)
      | _ => none
  | "tree" =>
      match settingsOf? [.config] arguments with
      | some (settings, [condition]) => some (.tree condition, settings)
      | _ => none
  | _ => none

/--
The invocation that a command and its settings make, beside the path set in
front of it.
-/
def ofCommand?
    (inFront : Option String) (name : String) (arguments : List String) :
    Option Invocation :=
  (readCommand? name arguments).map fun (command, settings) =>
    ⟨((settings.lookup .config).orElse fun _ => inFront).getD
      standardConfigPath, command⟩

/-- The invocation that arguments spell; none if they are misused. -/
def ofArguments? (arguments : List String) : Option Invocation :=
  match Head.ofArguments [.config] arguments with
  | .assignment _ path rest =>
      match Head.ofArguments [.config] rest with
      | .operand name rest => ofCommand? (some path) name rest
      | _ => none
  | .operand name rest => ofCommand? none name rest
  | _ => none

end Invocation

end Criteria
