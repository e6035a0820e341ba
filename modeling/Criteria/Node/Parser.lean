import Criteria.Node.Limits
import Criteria.Token.Lexer

/-!
# From lexemes to a tree

The grammar has three productions: an expression is a literal, an array of
expressions separated by commas, or a function, which is a name, a colon and
one expression in braces.  It is parsed by a machine with eight states.  Open
arrays and functions wait on a stack; closing one takes it off the stack and
attaches the finished node to what is now on top.

Three states only look at the next lexeme and pass it on; the other five take
at least one.  `Parser.step_decreases` says so, and it bounds the run of the
machine by twice the number of lexemes and one.
-/

namespace Criteria.Parser

/-- An array or a function that has been opened and not yet closed. -/
inductive Frame where
  /-- The elements so far, the latest first. -/
  | array (elements : List Node)
  | function (name : String) (argument : Option Node)

/-- What the machine does next. -/
inductive State where
  | expression
  | literal
  | arrayStart
  | arrayValue
  | arrayEnd
  | functionStart
  | functionValue
  | functionEnd
  deriving DecidableEq

/-- One for the states that only look at the next lexeme. -/
def State.lookahead : State → Nat
  | .expression | .arrayValue | .functionValue => 1
  | _ => 0

/--
The lexemes still to come, the open frames, the finished root and the nodes
counted.
-/
structure Builder where
  remaining : List Lexeme
  frames : List Frame
  root : Option Node
  nodes : Nat

namespace Builder

/-- The next lexeme, which stays where it is. -/
def peek (builder : Builder) (wanted : Wanted) : Except ConditionError Lexeme :=
  match builder.remaining with
  | [] => .error (.unexpectedEnd wanted)
  | lexeme :: _ => .ok lexeme

/-- The next lexeme, which is taken. -/
def take (builder : Builder) (wanted : Wanted) :
    Except ConditionError (Lexeme × Builder) :=
  match builder.remaining with
  | [] => .error (.unexpectedEnd wanted)
  | lexeme :: remaining => .ok (lexeme, { builder with remaining })

/-- Whether a token closes an array or a function. -/
def isClosing : Token → Bool
  | .bracketClose | .braceClose => true
  | _ => false

/--
Takes a delimiter.  No separator may stand before a closing one; before an
opening one it was checked when the value was recognised.
-/
def expect (builder : Builder) (token : Token) :
    Except ConditionError (Lexeme × Builder) :=
  match builder.take (.token token) with
  | .error error => .error error
  | .ok (lexeme, builder) =>
      if lexeme.token ≠ token then
        .error (.unexpected lexeme.offset (.token token) (.token lexeme.token))
      else
        match isClosing token, lexeme.separator with
        | true, some separator =>
            .error
              (.unexpected lexeme.offset (.token token) (.separator separator))
        | _, _ => .ok (lexeme, builder)

/-- Counts one more node. -/
def countNode (limits : Limits) (builder : Builder) :
    Except ConditionError Builder :=
  if builder.nodes + 1 > limits.maxNodes then
    .error (.limitExceeded .nodeCount limits.maxNodes)
  else .ok { builder with nodes := builder.nodes + 1 }

/-- Opens an array or a function. -/
def openFrame (limits : Limits) (builder : Builder) (frame : Frame) :
    Except ConditionError Builder :=
  if builder.frames.length + 1 > limits.maxDepth then
    .error (.limitExceeded .nestingDepth limits.maxDepth)
  else .ok { builder with frames := frame :: builder.frames }

/-- Attaches a finished node to what is open, or makes it the root. -/
def complete (builder : Builder) (node : Node) : Option State × Builder :=
  match builder.frames with
  | [] => (none, { builder with root := some node })
  | .array elements :: frames =>
      (some .arrayValue,
        { builder with frames := .array (node :: elements) :: frames })
  | .function name _ :: frames =>
      (some .functionEnd,
        { builder with frames := .function name (some node) :: frames })

/-- The separator that the next element of the open array needs before it. -/
def wantedSeparator (builder : Builder) : Option Separator :=
  match builder.frames with
  | .array (_ :: _) :: _ => some .comma
  | _ => none

end Builder

/-- The state that takes the value starting at a lexeme. -/
def valueState (lexeme : Lexeme) (wanted : Wanted) :
    Except ConditionError State :=
  match lexeme.token with
  | .braceOpen => .ok .functionStart
  | .bracketOpen => .ok .arrayStart
  | .literal _ => .ok .literal
  | other => .error (.unexpected lexeme.offset wanted (.token other))

/-- Compares the separator before a lexeme with the one that belongs there. -/
def checkSeparator
    (lexeme : Lexeme) (due : Option Separator) (wanted : Wanted) :
    Except ConditionError Unit :=
  if due = lexeme.separator then .ok ()
  else
    match due, lexeme.separator with
    | some missing, none =>
        .error
          (.unexpected lexeme.offset (.separator missing) (.token lexeme.token))
    | _, some found =>
        .error (.unexpected lexeme.offset wanted (.separator found))
    | none, none => .ok ()

/--
Recognises the value at the next lexeme, given the separator due before it.
-/
def recognise (builder : Builder) (peeked separated dispatched : Wanted)
    (due : Option Separator) :
    Except ConditionError (Option State × Builder) := do
  let lexeme ← builder.peek peeked
  checkSeparator lexeme due separated
  let state ← valueState lexeme dispatched
  return (some state, builder)

/-- Takes a literal. -/
def takeLiteral (limits : Limits) (builder : Builder) :
    Except ConditionError (Option State × Builder) := do
  let (lexeme, builder) ← builder.take .literal
  match lexeme.token with
  | .literal value => do
      let builder ← builder.countNode limits
      return builder.complete (.literal value)
  | other => .error (.unexpected lexeme.offset .literal (.token other))

/-- Takes an opening bracket. -/
def startArray (limits : Limits) (builder : Builder) :
    Except ConditionError (Option State × Builder) := do
  let (_, builder) ← builder.expect .bracketOpen
  let builder ← builder.countNode limits
  let builder ← builder.openFrame limits (.array [])
  return (some .arrayValue, builder)

/-- Passes on to the end of the open array or to its next element. -/
def continueArray (builder : Builder) :
    Except ConditionError (Option State × Builder) := do
  let lexeme ← builder.peek .arrayValueOrEnd
  if lexeme.token = .bracketClose then return (some .arrayEnd, builder)
  else
    recognise builder .arrayValueOrEnd .arrayValue .arrayValueOrEnd
      builder.wantedSeparator

/-- Takes a closing bracket and closes the open array. -/
def endArray (builder : Builder) :
    Except ConditionError (Option State × Builder) := do
  let (lexeme, builder) ← builder.expect .bracketClose
  match builder.frames with
  | .array elements :: frames =>
      return { builder with frames }.complete (.array elements.reverse)
  | _ => .error (.unexpected lexeme.offset .openContainer (.closing ']'))

/-- Takes an opening brace and the name of a function. -/
def startFunction (limits : Limits) (builder : Builder) :
    Except ConditionError (Option State × Builder) := do
  let (_, builder) ← builder.expect .braceOpen
  let (lexeme, builder) ← builder.take .functionName
  checkSeparator lexeme none .functionName
  match lexeme.token with
  | .literal (.string name) => do
      let builder ← builder.countNode limits
      let builder ← builder.openFrame limits (.function name none)
      return (some .functionValue, builder)
  | other =>
      .error (.unexpected lexeme.offset .functionNameLiteral (.token other))

/-- Takes a closing brace and closes the open function. -/
def endFunction (builder : Builder) :
    Except ConditionError (Option State × Builder) := do
  let (lexeme, builder) ← builder.expect .braceClose
  match builder.frames with
  | .function name (some argument) :: frames =>
      return { builder with frames }.complete (.function name argument)
  | _ => .error (.unexpected lexeme.offset .openContainer (.closing '\x7d'))

/-- One step of the machine; without a next state the root is complete. -/
def step (limits : Limits) (state : State) (builder : Builder) :
    Except ConditionError (Option State × Builder) :=
  match state with
  | .expression => recognise builder .expression .expression .expression none
  | .literal => takeLiteral limits builder
  | .arrayStart => startArray limits builder
  | .arrayValue => continueArray builder
  | .arrayEnd => endArray builder
  | .functionStart => startFunction limits builder
  | .functionValue =>
      recognise builder .functionArgument .functionArgument .functionArgument
        (some .colon)
  | .functionEnd => endFunction builder

/--
A bound on the steps left: two for each lexeme to come, and one for a look
ahead.
-/
def stepsLeft (state : State) (builder : Builder) : Nat :=
  2 * builder.remaining.length + state.lookahead

theorem State.lookahead_le (state : State) : state.lookahead ≤ 1 := by
  cases state <;> decide

theorem Builder.take_remaining
    {builder after : Builder} {wanted : Wanted} {lexeme : Lexeme}
    (taken : builder.take wanted = .ok (lexeme, after)) :
    after.remaining.length + 1 = builder.remaining.length := by
  unfold take at taken
  split at taken
  · simp at taken
  · rename_i remaining
    simp only [Except.ok.injEq, Prod.mk.injEq] at taken
    obtain ⟨rfl, rfl⟩ := taken
    simp [remaining]

theorem Builder.expect_remaining
    {builder after : Builder} {token : Token} {lexeme : Lexeme}
    (expected : builder.expect token = .ok (lexeme, after)) :
    after.remaining.length + 1 = builder.remaining.length := by
  unfold expect at expected
  split at expected
  · simp at expected
  · rename_i taken
    split at expected
    · simp at expected
    · split at expected
      · simp at expected
      · simp only [Except.ok.injEq, Prod.mk.injEq] at expected
        obtain ⟨rfl, rfl⟩ := expected
        exact take_remaining taken

theorem Builder.countNode_remaining
    {limits : Limits} {builder after : Builder}
    (counted : builder.countNode limits = .ok after) :
    after.remaining = builder.remaining := by
  unfold countNode at counted
  split at counted
  · simp at counted
  · simp only [Except.ok.injEq] at counted
    simp [← counted]

theorem Builder.openFrame_remaining
    {limits : Limits} {builder after : Builder} {frame : Frame}
    (opened : builder.openFrame limits frame = .ok after) :
    after.remaining = builder.remaining := by
  unfold openFrame at opened
  split at opened
  · simp at opened
  · simp only [Except.ok.injEq] at opened
    simp [← opened]

@[simp]
theorem Builder.complete_remaining (builder : Builder) (node : Node) :
    (builder.complete node).2.remaining = builder.remaining := by
  unfold complete
  split <;> rfl

theorem valueState_lookahead
    {lexeme : Lexeme} {wanted : Wanted} {state : State}
    (found : valueState lexeme wanted = .ok state) :
    state.lookahead = 0 := by
  unfold valueState at found
  split at found <;> simp_all [State.lookahead] <;> subst found <;> rfl

theorem recognise_ok
    {builder after : Builder} {peeked separated dispatched : Wanted}
    {due : Option Separator} {next : Option State}
    (found :
      recognise builder peeked separated dispatched due = .ok (next, after)) :
    after = builder ∧ ∃ state, next = some state ∧ state.lookahead = 0 := by
  unfold recognise at found
  cases peek : builder.peek peeked with
  | error error => simp [peek, bind, Except.bind] at found
  | ok lexeme =>
      cases check : checkSeparator lexeme due separated with
      | error error => simp [peek, check, bind, Except.bind] at found
      | ok _ =>
          cases value : valueState lexeme dispatched with
          | error error => simp [peek, check, value, bind, Except.bind] at found
          | ok state =>
              simp only [peek, check, value, bind, Except.bind, pure,
                Except.pure, Except.ok.injEq, Prod.mk.injEq] at found
              exact ⟨found.2.symm, state, found.1.symm,
                valueState_lookahead value⟩

theorem takeLiteral_remaining
    {limits : Limits} {builder after : Builder} {next : Option State}
    (taken : takeLiteral limits builder = .ok (next, after)) :
    after.remaining.length + 1 = builder.remaining.length := by
  unfold takeLiteral at taken
  cases take : builder.take .literal with
  | error error => simp [take, bind, Except.bind] at taken
  | ok pair =>
      obtain ⟨lexeme, middle⟩ := pair
      simp only [take, bind, Except.bind] at taken
      split at taken
      · split at taken
        · simp at taken
        · rename_i counted
          simp only [pure, Except.pure, Except.ok.injEq] at taken
          have attached := congrArg (fun pair => pair.2.remaining) taken
          simp only [Builder.complete_remaining,
            Builder.countNode_remaining counted] at attached
          rw [← attached]
          exact Builder.take_remaining take
      · simp at taken

theorem startArray_remaining
    {limits : Limits} {builder after : Builder} {next : Option State}
    (started : startArray limits builder = .ok (next, after)) :
    after.remaining.length + 1 = builder.remaining.length := by
  unfold startArray at started
  cases expect : builder.expect .bracketOpen with
  | error error => simp [expect, bind, Except.bind] at started
  | ok pair =>
      obtain ⟨lexeme, middle⟩ := pair
      simp only [expect, bind, Except.bind] at started
      split at started
      · simp at started
      · rename_i counted
        split at started
        · simp at started
        · rename_i opened
          simp only [pure, Except.pure, Except.ok.injEq,
            Prod.mk.injEq] at started
          rw [← started.2, Builder.openFrame_remaining opened,
            Builder.countNode_remaining counted]
          exact Builder.expect_remaining expect

theorem endArray_remaining
    {builder after : Builder} {next : Option State}
    (ended : endArray builder = .ok (next, after)) :
    after.remaining.length + 1 = builder.remaining.length := by
  unfold endArray at ended
  cases expect : builder.expect .bracketClose with
  | error error => simp [expect, bind, Except.bind] at ended
  | ok pair =>
      obtain ⟨lexeme, middle⟩ := pair
      simp only [expect, bind, Except.bind] at ended
      split at ended
      · simp only [pure, Except.pure, Except.ok.injEq] at ended
        have attached := congrArg (fun pair => pair.2.remaining) ended
        simp only [Builder.complete_remaining] at attached
        rw [← attached]
        exact Builder.expect_remaining expect
      · simp at ended

theorem startFunction_remaining
    {limits : Limits} {builder after : Builder} {next : Option State}
    (started : startFunction limits builder = .ok (next, after)) :
    after.remaining.length + 2 = builder.remaining.length := by
  unfold startFunction at started
  cases expect : builder.expect .braceOpen with
  | error error => simp [expect, bind, Except.bind] at started
  | ok pair =>
      obtain ⟨brace, middle⟩ := pair
      have first := Builder.expect_remaining expect
      cases take : middle.take .functionName with
      | error error => simp [expect, take, bind, Except.bind] at started
      | ok pair =>
          obtain ⟨lexeme, named⟩ := pair
          have second := Builder.take_remaining take
          simp only [expect, take, bind, Except.bind] at started
          split at started
          · simp at started
          · split at started
            · split at started
              · simp at started
              · rename_i counted
                split at started
                · simp at started
                · rename_i opened
                  simp only [pure, Except.pure, Except.ok.injEq,
                    Prod.mk.injEq] at started
                  rw [← started.2, Builder.openFrame_remaining opened,
                    Builder.countNode_remaining counted]
                  omega
            · simp at started

theorem endFunction_remaining
    {builder after : Builder} {next : Option State}
    (ended : endFunction builder = .ok (next, after)) :
    after.remaining.length + 1 = builder.remaining.length := by
  unfold endFunction at ended
  cases expect : builder.expect .braceClose with
  | error error => simp [expect, bind, Except.bind] at ended
  | ok pair =>
      obtain ⟨lexeme, middle⟩ := pair
      simp only [expect, bind, Except.bind] at ended
      split at ended
      · simp only [pure, Except.pure, Except.ok.injEq] at ended
        have attached := congrArg (fun pair => pair.2.remaining) ended
        simp only [Builder.complete_remaining] at attached
        rw [← attached]
        exact Builder.expect_remaining expect
      · simp at ended

theorem continueArray_decreases
    {builder after : Builder} {next : State}
    (continued : continueArray builder = .ok (some next, after)) :
    after = builder ∧ next.lookahead = 0 := by
  unfold continueArray at continued
  cases peek : builder.peek .arrayValueOrEnd with
  | error error => simp [peek, bind, Except.bind] at continued
  | ok lexeme =>
      simp only [peek, bind, Except.bind] at continued
      split at continued
      · simp only [pure, Except.pure, Except.ok.injEq, Prod.mk.injEq,
          Option.some.injEq] at continued
        obtain ⟨rfl, rfl⟩ := continued
        exact ⟨rfl, rfl⟩
      · obtain ⟨same, state, equal, low⟩ := recognise_ok continued
        exact ⟨same, by simpa [Option.some.inj equal] using low⟩

/-- Every step brings the machine nearer to its end. -/
theorem step_decreases
    {limits : Limits} {state next : State} {builder after : Builder}
    (stepped : step limits state builder = .ok (some next, after)) :
    stepsLeft next after < stepsLeft state builder := by
  have low := next.lookahead_le
  cases state with
  | expression =>
      obtain ⟨rfl, state, equal, zero⟩ := recognise_ok stepped
      cases equal
      rw [stepsLeft, zero]
      exact Nat.lt_succ_self _
  | functionValue =>
      obtain ⟨rfl, state, equal, zero⟩ := recognise_ok stepped
      cases equal
      rw [stepsLeft, zero]
      exact Nat.lt_succ_self _
  | arrayValue =>
      obtain ⟨rfl, zero⟩ := continueArray_decreases stepped
      rw [stepsLeft, zero]
      exact Nat.lt_succ_self _
  | literal =>
      have fewer := takeLiteral_remaining stepped
      simp only [stepsLeft]
      omega
  | arrayStart =>
      have fewer := startArray_remaining stepped
      simp only [stepsLeft]
      omega
  | arrayEnd =>
      have fewer := endArray_remaining stepped
      simp only [stepsLeft]
      omega
  | functionStart =>
      have fewer := startFunction_remaining stepped
      simp only [stepsLeft]
      omega
  | functionEnd =>
      have fewer := endFunction_remaining stepped
      simp only [stepsLeft]
      omega

/-- Runs the machine until the root is complete. -/
def run (limits : Limits) (state : State) (builder : Builder) :
    Except ConditionError Builder :=
  match _stepped : step limits state builder with
  | .error error => .error error
  | .ok (none, after) => .ok after
  | .ok (some next, after) => run limits next after
termination_by stepsLeft state builder
decreasing_by exact step_decreases _stepped

/-- The root, once nothing is left behind it. -/
def finish (builder : Builder) (trailing : Option (Separator × Nat)) :
    Except ConditionError Node :=
  match builder.remaining, trailing, builder.root with
  | lexeme :: _, _, _ =>
      .error (.unexpected lexeme.offset .endOfInput (.token lexeme.token))
  | [], some (separator, offset), _ =>
      .error (.unexpected offset .endOfInput (.separator separator))
  | [], none, none => .error (.unexpectedEnd .expression)
  | [], none, some root => .ok root

/-- The machine before its first step. -/
def start (lexemes : List Lexeme) : Builder :=
  ⟨lexemes, [], none, 0⟩

/-- The tree of a token stream. -/
def parseStream (limits : Limits) (stream : TokenStream) :
    Except ConditionError Node := do
  let builder ← run limits .expression (start stream.lexemes)
  finish builder stream.trailing

end Criteria.Parser

namespace Criteria

/-- The tree that a text writes, within limits. -/
def parse (limits : Limits) (text : String) : Except ConditionError Node := do
  let stream ← lex text
  Parser.parseStream limits stream

end Criteria
