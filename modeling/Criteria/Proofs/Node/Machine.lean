import Criteria.Node.Parser
import Criteria.Proofs.Token.Marks

/-!
# The steps of the machine

Every step of the parsing machine is one of a few moves, and every error of a
step one of a few failures.  `Moves` and `Fails` list them, guards included,
and `explains_step` says that a step is always among them; what holds of the
machine is proved from these lists and not from the code of the steps.
-/

namespace Criteria.Parser

/-! ## Moves -/

/--
The state that a token calls for where a value or the end of an array may stand.
-/
def stateAt : Token → Option State
  | .literal _ => some .literal
  | .bracketOpen => some .arrayStart
  | .braceOpen => some .functionStart
  | .bracketClose => some .arrayEnd
  | .braceClose => none

/-- The separator due before the value that a state looks for. -/
def soughtSeparator : State → List Frame → Option Separator
  | .arrayValue, .array (_ :: _) :: _ => some .comma
  | .functionValue, _ => some .colon
  | _, _ => none

/--
A successful step, from a state and what it works on to the next state and what
it leaves.
-/
inductive Moves (limits : Limits) :
    State → Builder → Option State → Builder → Prop where
  | value {state next : State} {lexeme : Lexeme} {later : List Lexeme}
      {frames : List Frame}
      {root : Option Node} {nodes : Nat}
      (seeks : state.lookahead = 1)
      (separated : lexeme.separator = soughtSeparator state frames)
      (called : stateAt lexeme.token = some next)
      (noEnd : next ≠ .arrayEnd) :
      Moves limits state ⟨lexeme :: later, frames, root, nodes⟩ (some next)
        ⟨lexeme :: later, frames, root, nodes⟩
  | lastElement {lexeme : Lexeme} {later : List Lexeme} {frames : List Frame}
      {root : Option Node} {nodes : Nat}
      (closing : lexeme.token = .bracketClose) :
      Moves limits .arrayValue ⟨lexeme :: later, frames, root, nodes⟩
        (some .arrayEnd)
        ⟨lexeme :: later, frames, root, nodes⟩
  | literal {lexeme : Lexeme} {value : Literal} {later : List Lexeme}
      {frames : List Frame}
      {root : Option Node} {nodes : Nat}
      (token : lexeme.token = .literal value)
      (nodeRoom : nodes + 1 ≤ limits.maxNodes) :
      Moves limits .literal ⟨lexeme :: later, frames, root, nodes⟩
        (Builder.complete ⟨later, frames, root, nodes + 1⟩ (.literal value)).1
        (Builder.complete ⟨later, frames, root, nodes + 1⟩ (.literal value)).2
  | openArray {lexeme : Lexeme} {later : List Lexeme} {frames : List Frame}
      {root : Option Node} {nodes : Nat}
      (token : lexeme.token = .bracketOpen)
      (nodeRoom : nodes + 1 ≤ limits.maxNodes)
      (depthRoom : frames.length + 1 ≤ limits.maxDepth) :
      Moves limits .arrayStart ⟨lexeme :: later, frames, root, nodes⟩
        (some .arrayValue)
        ⟨later, .array [] :: frames, root, nodes + 1⟩
  | closeArray {lexeme : Lexeme} {later : List Lexeme} {elements : List Node}
      {frames : List Frame} {root : Option Node} {nodes : Nat}
      (token : lexeme.token = .bracketClose)
      (separated : lexeme.separator = none) :
      Moves limits .arrayEnd
        ⟨lexeme :: later, .array elements :: frames, root, nodes⟩
        (Builder.complete ⟨later, frames, root, nodes⟩
          (.array elements.reverse)).1
        (Builder.complete ⟨later, frames, root, nodes⟩
          (.array elements.reverse)).2
  | openFunction {brace lexeme : Lexeme} {name : String} {later : List Lexeme}
      {frames : List Frame} {root : Option Node} {nodes : Nat}
      (opening : brace.token = .braceOpen)
      (separated : lexeme.separator = none)
      (token : lexeme.token = .literal (.string name))
      (nodeRoom : nodes + 1 ≤ limits.maxNodes)
      (depthRoom : frames.length + 1 ≤ limits.maxDepth) :
      Moves limits .functionStart
        ⟨brace :: lexeme :: later, frames, root, nodes⟩
        (some .functionValue)
        ⟨later, .function name none :: frames, root, nodes + 1⟩
  | closeFunction {lexeme : Lexeme} {name : String} {argument : Node}
      {later : List Lexeme}
      {frames : List Frame} {root : Option Node} {nodes : Nat}
      (token : lexeme.token = .braceClose)
      (separated : lexeme.separator = none) :
      Moves limits .functionEnd
        ⟨lexeme :: later, .function name (some argument) :: frames, root, nodes⟩
        (Builder.complete ⟨later, frames, root, nodes⟩
          (.function name argument)).1
        (Builder.complete ⟨later, frames, root, nodes⟩
          (.function name argument)).2

/--
Whether a state is only entered once the lexeme that it takes has been looked
at.
-/
def State.isCalled : State → Bool
  | .literal | .arrayStart | .arrayEnd | .functionStart => true
  | .expression | .arrayValue | .functionValue | .functionEnd => false

/-! ## Failures -/

/-- Whether a state takes a token that begins a node. -/
def State.beginsNode : State → Bool
  | .literal | .arrayStart | .functionStart => true
  | .expression | .arrayValue | .arrayEnd | .functionValue | .functionEnd =>
      false

/-- Whether a state opens an array or a function. -/
def State.opensFrame : State → Bool
  | .arrayStart | .functionStart => true
  | .expression | .literal | .arrayValue | .arrayEnd | .functionValue |
    .functionEnd => false

/-- A mark that begins a value where a state looks for one. -/
def BeginsValue (state : State) (frames : List Frame) (mark : Mark) : Prop :=
  mark.separator = soughtSeparator state frames ∧
    ∃ next, stateAt mark.token = some next ∧ next ≠ .arrayEnd

/-- What a state can do something with, apart from the limits. -/
def Admits : State → List Frame → Mark → Prop
  | .expression, frames, mark => BeginsValue .expression frames mark
  | .literal, _, mark => ∃ value, mark.token = .literal value
  | .arrayStart, _, mark => mark.token = .bracketOpen
  | .arrayValue, frames, mark =>
      mark.token = .bracketClose ∨ BeginsValue .arrayValue frames mark
  | .arrayEnd, _, mark => mark = ⟨none, .bracketClose⟩
  | .functionStart, _, mark => mark.token = .braceOpen
  | .functionValue, frames, mark => BeginsValue .functionValue frames mark
  | .functionEnd, _, mark => mark = ⟨none, .braceClose⟩

/-- A failing step, from a state and what it works on to its error. -/
inductive Fails (limits : Limits) :
    State → Builder → ConditionError → Prop where
  | nodes {state : State} {builder : Builder}
      (begins : state.beginsNode = true)
      (nonempty : builder.remaining ≠ [])
      (full : limits.maxNodes < builder.nodes + 1) :
      Fails limits state builder (.limitExceeded .nodeCount limits.maxNodes)
  | depth {state : State} {builder : Builder}
      (opens : state.opensFrame = true)
      (nonempty : builder.remaining ≠ [])
      (full : limits.maxDepth < builder.frames.length + 1) :
      Fails limits state builder (.limitExceeded .nestingDepth limits.maxDepth)
  | ended {state : State} {wanted : Wanted} {frames : List Frame}
      {root : Option Node}
      {nodes : Nat} :
      Fails limits state ⟨[], frames, root, nodes⟩ (.unexpectedEnd wanted)
  | unnamed {brace : Lexeme} {wanted : Wanted} {frames : List Frame}
      {root : Option Node}
      {nodes : Nat}
      (opening : brace.token = .braceOpen) :
      Fails limits .functionStart ⟨[brace], frames, root, nodes⟩
        (.unexpectedEnd wanted)
  | unexpected {state : State} {lexeme : Lexeme} {later : List Lexeme}
      {wanted : Wanted}
      {found : Found} {frames : List Frame} {root : Option Node} {nodes : Nat}
      (impossible : ¬ Admits state frames lexeme.mark) :
      Fails limits state ⟨lexeme :: later, frames, root, nodes⟩
        (.unexpected lexeme.offset wanted found)
  | unexpectedName {brace lexeme : Lexeme} {later : List Lexeme}
      {wanted : Wanted} {found : Found}
      {frames : List Frame} {root : Option Node} {nodes : Nat}
      (opening : brace.token = .braceOpen)
      (impossible : ∀ name, lexeme.mark ≠ ⟨none, .literal (.string name)⟩) :
      Fails limits .functionStart
        ⟨brace :: lexeme :: later, frames, root, nodes⟩
        (.unexpected lexeme.offset wanted found)

/-- Functions that still wait for their argument, and arrays. -/
def Unfilled (frames : List Frame) : Prop :=
  ∀ name argument, Frame.function name argument ∈ frames → argument = none

/-- The frames are those that a state can work on. -/
def Suits : State → List Frame → Prop
  | .arrayValue, frames | .arrayEnd, frames =>
      Unfilled frames ∧ ∃ elements others, frames = .array elements :: others
  | .functionValue, frames =>
      Unfilled frames ∧ ∃ name others, frames = .function name none :: others
  | .functionEnd, frames =>
      ∃ name argument others,
        frames = .function name (some argument) :: others ∧ Unfilled others
  | .expression, frames | .literal, frames | .arrayStart, frames |
    .functionStart, frames =>
      Unfilled frames

/-- The result of a step is a move, or an error that is one of the failures. -/
def Explains (limits : Limits) (state : State) (builder : Builder) :
    Except ConditionError (Option State × Builder) → Prop
  | .ok (next, after) => Moves limits state builder next after
  | .error error => Fails limits state builder error

/-! ## Every step is among them -/

section

variable {limits : Limits} {frames : List Frame} {root : Option Node}
  {nodes : Nat}

theorem checkSeparator_of_eq
    {lexeme : Lexeme} {due : Option Separator} (equal : lexeme.separator = due)
    (wanted : Wanted) :
    checkSeparator lexeme due wanted = .ok () := by
  unfold checkSeparator
  rw [if_pos equal.symm]

theorem checkSeparator_of_ne
    {lexeme : Lexeme} {due : Option Separator}
    (different : lexeme.separator ≠ due)
    (wanted : Wanted) :
    ∃ wanted' found,
      checkSeparator lexeme due wanted =
        .error (.unexpected lexeme.offset wanted' found) := by
  unfold checkSeparator
  rw [if_neg (Ne.symm different)]
  split
  · exact ⟨_, _, rfl⟩
  · exact ⟨_, _, rfl⟩
  · rename_i nothing
    exact absurd nothing different

theorem isCalled_of_stateAt
    {token : Token} {state : State} (called : stateAt token = some state) :
    state.isCalled = true := by
  cases token <;> cases called <;> rfl

theorem valueState_of_stateAt
    {lexeme : Lexeme} {next : State} (called : stateAt lexeme.token = some next)
    (noEnd : next ≠ .arrayEnd) (wanted : Wanted) :
    valueState lexeme wanted = .ok next := by
  unfold valueState
  cases token : lexeme.token with
  | literal value =>
      rw [token] at called
      cases called
      rfl
  | bracketOpen =>
      rw [token] at called
      cases called
      rfl
  | braceOpen =>
      rw [token] at called
      cases called
      rfl
  | bracketClose =>
      rw [token] at called
      cases called
      exact absurd rfl noEnd
  | braceClose =>
      rw [token] at called
      cases called

theorem valueState_eq_error
    {lexeme : Lexeme} (wanted : Wanted)
    (uncalled : ¬ ∃ next, stateAt lexeme.token = some next ∧ next ≠ .arrayEnd) :
    ∃ found, valueState lexeme wanted =
      .error (.unexpected lexeme.offset wanted found) := by
  unfold valueState
  split
  · rename_i token
    exact absurd ⟨.functionStart, by rw [token]; rfl, by decide⟩ uncalled
  · rename_i token
    exact absurd ⟨.arrayStart, by rw [token]; rfl, by decide⟩ uncalled
  · rename_i token
    exact absurd ⟨.literal, by rw [token]; rfl, by decide⟩ uncalled
  · exact ⟨_, rfl⟩

theorem Admits.beginsValue
    {state : State} {mark : Mark}
    (admits : Admits state frames mark)
    (seeks : state.lookahead = 1)
    (notLast : state = .arrayValue → mark.token ≠ .bracketClose) :
    BeginsValue state frames mark := by
  cases state with
  | expression => exact admits
  | arrayValue => exact admits.resolve_left (notLast rfl)
  | functionValue => exact admits
  | literal => cases seeks
  | arrayStart => cases seeks
  | arrayEnd => cases seeks
  | functionStart => cases seeks
  | functionEnd => cases seeks

/--
Looking for a value finds one exactly where the separator and the token are
right.
-/
theorem explains_recognise
    {state : State} {remaining : List Lexeme} {due : Option Separator}
    (peeked separated dispatched : Wanted)
    (seeks : state.lookahead = 1)
    (isDue : due = soughtSeparator state frames)
    (notLast : state = .arrayValue → ∀ lexeme ∈ remaining.head?, lexeme.token ≠
      .bracketClose) :
    Explains limits state ⟨remaining, frames, root, nodes⟩
      (recognise ⟨remaining, frames, root, nodes⟩ peeked separated dispatched
        due) := by
  cases remaining with
  | nil => exact .ended
  | cons lexeme later =>
      have notLast : state = .arrayValue → lexeme.token ≠ .bracketClose :=
        fun arrayValue => notLast arrayValue lexeme rfl
      by_cases right : lexeme.separator = due
      · by_cases called : ∃ next, stateAt lexeme.token = some next ∧
          next ≠ .arrayEnd
        · rcases called with ⟨next, called, notEnd⟩
          simp only [recognise, Builder.peek, checkSeparator_of_eq right,
            valueState_of_stateAt called notEnd, bind, Except.bind, pure,
            Except.pure]
          exact .value seeks (right.trans isDue) called notEnd
        · rcases valueState_eq_error dispatched called with ⟨found, failed⟩
          simp only [recognise, Builder.peek, checkSeparator_of_eq right,
            failed, bind, Except.bind]
          exact .unexpected fun admits =>
            called (admits.beginsValue seeks notLast).2
      · rcases checkSeparator_of_ne right separated with ⟨wanted, found, failed⟩
        simp only [recognise, Builder.peek, failed, bind, Except.bind]
        exact .unexpected fun admits =>
          right ((admits.beginsValue seeks notLast).1.trans isDue.symm)

theorem explains_takeLiteral (remaining : List Lexeme) :
    Explains limits .literal ⟨remaining, frames, root, nodes⟩
      (takeLiteral limits ⟨remaining, frames, root, nodes⟩) := by
  cases remaining with
  | nil => exact .ended
  | cons lexeme later =>
      by_cases isLiteral : ∃ value, lexeme.token = .literal value
      · rcases isLiteral with ⟨value, token⟩
        by_cases full : nodes + 1 > limits.maxNodes
        · simp only [takeLiteral, Builder.take, Builder.countNode, token, full,
            if_true, bind, Except.bind]
          exact .nodes rfl (List.cons_ne_nil _ _) full
        · simp only [takeLiteral, Builder.take, Builder.countNode, token, full,
            if_false, bind, Except.bind, pure, Except.pure]
          exact .literal token (Nat.le_of_not_lt full)
      · simp only [takeLiteral, Builder.take, bind, Except.bind]
        split
        · rename_i value token
          exact absurd ⟨value, token⟩ isLiteral
        · exact .unexpected isLiteral

/--
What a delimiter must be to be taken: no separator stands before a closing one.
-/
def IsExpected (token : Token) (lexeme : Lexeme) : Prop :=
  lexeme.token = token ∧
    (Builder.isClosing token = true → lexeme.separator = none)

theorem expect_eq_ok
    {token : Token} {lexeme : Lexeme} (expected : IsExpected token lexeme)
    (later : List Lexeme) (frames : List Frame) (root : Option Node)
    (nodes : Nat) :
    Builder.expect ⟨lexeme :: later, frames, root, nodes⟩ token =
      .ok (lexeme, ⟨later, frames, root, nodes⟩) := by
  rcases expected with ⟨rfl, separated⟩
  simp only [Builder.expect, Builder.take, ne_eq, not_true, if_false]
  split
  · rename_i found closing separator
    rw [separated closing] at separator
    cases separator
  · rfl

theorem expect_eq_error
    {token : Token} {lexeme : Lexeme} (unexpected : ¬ IsExpected token lexeme)
    (later : List Lexeme) (frames : List Frame) (root : Option Node)
    (nodes : Nat) :
    ∃ wanted found,
      Builder.expect ⟨lexeme :: later, frames, root, nodes⟩ token =
      .error (.unexpected lexeme.offset wanted found) := by
  simp only [Builder.expect, Builder.take]
  by_cases same : lexeme.token = token
  · rw [if_neg (not_not_intro same)]
    split
    · exact ⟨_, _, rfl⟩
    · rename_i other
      refine absurd ⟨same, fun closing => ?_⟩ unexpected
      cases separator : lexeme.separator with
      | none => rfl
      | some found => exact absurd separator (other found closing)
  · rw [if_pos same]
    exact ⟨_, _, rfl⟩

theorem explains_startArray (remaining : List Lexeme) :
    Explains limits .arrayStart ⟨remaining, frames, root, nodes⟩
      (startArray limits ⟨remaining, frames, root, nodes⟩) := by
  cases remaining with
  | nil => exact .ended
  | cons lexeme later =>
      by_cases expected : IsExpected .bracketOpen lexeme
      · by_cases full : nodes + 1 > limits.maxNodes
        · simp only [startArray, expect_eq_ok expected, Builder.countNode, full,
            if_true, bind, Except.bind]
          exact .nodes rfl (List.cons_ne_nil _ _) full
        · by_cases deep : frames.length + 1 > limits.maxDepth
          · simp only [startArray, expect_eq_ok expected, Builder.countNode,
              full, Builder.openFrame, deep, if_true, if_false, bind,
              Except.bind]
            exact .depth rfl (List.cons_ne_nil _ _) deep
          · simp only [startArray, expect_eq_ok expected, Builder.countNode,
              full, Builder.openFrame, deep, if_false, bind, Except.bind, pure,
              Except.pure]
            exact .openArray expected.1 (Nat.le_of_not_lt full)
              (Nat.le_of_not_lt deep)
      · rcases expect_eq_error expected later frames root nodes with
            ⟨wanted, found, failed⟩
        simp only [startArray, failed, bind, Except.bind]
        exact .unexpected fun admitted =>
          expected ⟨admitted, fun closing => by cases closing⟩

theorem explains_continueArray (remaining : List Lexeme) (elements : List Node)
    (others : List Frame) :
    Explains limits .arrayValue
      ⟨remaining, .array elements :: others, root, nodes⟩
      (continueArray ⟨remaining, .array elements :: others, root, nodes⟩) := by
  cases remaining with
  | nil => exact .ended
  | cons lexeme later =>
      by_cases closing : lexeme.token = .bracketClose
      · simp only [continueArray, Builder.peek, closing, if_true, bind,
          Except.bind, pure, Except.pure]
        exact .lastElement closing
      · simp only [continueArray, Builder.peek, closing, if_false, bind,
          Except.bind]
        apply explains_recognise .arrayValueOrEnd .arrayValue .arrayValueOrEnd
          rfl
        · cases elements <;> rfl
        · intro _ first isFirst
          cases isFirst
          exact closing

theorem explains_endArray (remaining : List Lexeme) (elements : List Node)
    (others : List Frame) :
    Explains limits .arrayEnd
      ⟨remaining, .array elements :: others, root, nodes⟩
      (endArray ⟨remaining, .array elements :: others, root, nodes⟩) := by
  cases remaining with
  | nil => exact .ended
  | cons lexeme later =>
      by_cases expected : IsExpected .bracketClose lexeme
      · simp only [endArray, expect_eq_ok expected, bind, Except.bind, pure,
          Except.pure]
        exact .closeArray expected.1 (expected.2 rfl)
      · rcases expect_eq_error expected later (.array elements :: others) root
          nodes with ⟨wanted, found, failed⟩
        simp only [endArray, failed, bind, Except.bind]
        refine .unexpected fun admitted =>
          expected ⟨congrArg Mark.token admitted, fun _ => ?_⟩
        exact congrArg Mark.separator admitted

theorem explains_startFunction (remaining : List Lexeme) :
    Explains limits .functionStart ⟨remaining, frames, root, nodes⟩
      (startFunction limits ⟨remaining, frames, root, nodes⟩) := by
  cases remaining with
  | nil => exact .ended
  | cons brace remaining =>
      by_cases expected : IsExpected .braceOpen brace
      · cases remaining with
        | nil =>
            simp only [startFunction, expect_eq_ok expected, Builder.take, bind,
              Except.bind]
            exact .unnamed expected.1
        | cons lexeme later =>
            by_cases separated : lexeme.separator = none
            · by_cases named : ∃ name, lexeme.token = .literal (.string name)
              · rcases named with ⟨name, token⟩
                by_cases full : nodes + 1 > limits.maxNodes
                · simp only [startFunction, expect_eq_ok expected, Builder.take,
                    checkSeparator_of_eq separated, token, Builder.countNode,
                    full, if_true, bind, Except.bind]
                  exact .nodes rfl (List.cons_ne_nil _ _) full
                · by_cases deep : frames.length + 1 > limits.maxDepth
                  · simp only [startFunction, expect_eq_ok expected,
                      Builder.take, checkSeparator_of_eq separated, token,
                      Builder.countNode, full, Builder.openFrame, deep, if_true,
                      if_false, bind, Except.bind]
                    exact .depth rfl (List.cons_ne_nil _ _) deep
                  · simp only [startFunction, expect_eq_ok expected,
                      Builder.take, checkSeparator_of_eq separated, token,
                      Builder.countNode, full, Builder.openFrame, deep,
                      if_false, bind, Except.bind, pure, Except.pure]
                    exact .openFunction expected.1 separated token
                      (Nat.le_of_not_lt full) (Nat.le_of_not_lt deep)
              · simp only [startFunction, expect_eq_ok expected, Builder.take,
                  checkSeparator_of_eq separated, bind, Except.bind]
                split
                · rename_i name token
                  exact absurd ⟨name, token⟩ named
                · exact .unexpectedName expected.1 fun name equal =>
                    named ⟨name, congrArg Mark.token equal⟩
            · rcases checkSeparator_of_ne separated .functionName with
                  ⟨wanted, found, failed⟩
              simp only [startFunction, expect_eq_ok expected, Builder.take,
                failed, bind, Except.bind]
              exact .unexpectedName expected.1 fun name equal =>
                separated (congrArg Mark.separator equal)
      · rcases expect_eq_error expected remaining frames root nodes with
            ⟨wanted, found, failed⟩
        simp only [startFunction, failed, bind, Except.bind]
        exact .unexpected fun admitted =>
          expected ⟨admitted, fun closing => by cases closing⟩

theorem explains_endFunction (remaining : List Lexeme) (name : String)
    (argument : Node)
    (others : List Frame) :
    Explains limits .functionEnd
      ⟨remaining, .function name (some argument) :: others, root, nodes⟩
      (endFunction
        ⟨remaining, .function name (some argument) :: others, root,
        nodes⟩) := by
  cases remaining with
  | nil => exact .ended
  | cons lexeme later =>
      by_cases expected : IsExpected .braceClose lexeme
      · simp only [endFunction, expect_eq_ok expected, bind, Except.bind, pure,
          Except.pure]
        exact .closeFunction expected.1 (expected.2 rfl)
      · obtain ⟨wanted, found, failed⟩ :=
          expect_eq_error expected later
            (.function name (some argument) :: others) root nodes
        simp only [endFunction, failed, bind, Except.bind]
        refine .unexpected fun admitted =>
          expected ⟨congrArg Mark.token admitted, fun _ => ?_⟩
        exact congrArg Mark.separator admitted

/-- Every step is a move or one of the failures. -/
theorem explains_step
    {state : State} {builder : Builder} (suits : Suits state builder.frames) :
    Explains limits state builder (step limits state builder) := by
  rcases builder with ⟨remaining, frames, root, nodes⟩
  cases state with
  | expression =>
      exact explains_recognise _ _ _ rfl rfl
        fun isArrayValue => by cases isArrayValue
  | literal => exact explains_takeLiteral remaining
  | arrayStart => exact explains_startArray remaining
  | arrayValue =>
      rcases suits with ⟨_, elements, others, rfl⟩
      exact explains_continueArray remaining elements others
  | arrayEnd =>
      rcases suits with ⟨_, elements, others, rfl⟩
      exact explains_endArray remaining elements others
  | functionStart => exact explains_startFunction remaining
  | functionValue =>
      exact explains_recognise _ _ _ rfl rfl
        fun isArrayValue => by cases isArrayValue
  | functionEnd =>
      rcases suits with ⟨name, argument, others, rfl, _⟩
      exact explains_endFunction remaining name argument others

theorem moves_of_step
    {state : State} {builder after : Builder} {next : Option State}
    (suits : Suits state builder.frames)
    (stepped : step limits state builder = .ok (next, after)) :
    Moves limits state builder next after := by
  have explained : Explains limits state builder (step limits state builder) :=
    explains_step suits
  rwa [stepped] at explained

theorem fails_of_step
    {state : State} {builder : Builder} {error : ConditionError}
    (suits : Suits state builder.frames)
    (stepped : step limits state builder = .error error) :
    Fails limits state builder error := by
  have explained : Explains limits state builder (step limits state builder) :=
    explains_step suits
  rwa [stepped] at explained

/-! ## The frames always suit the state -/

theorem Suits.unfilled_of_lookahead
    {state : State} (suits : Suits state frames) (seeks : state.lookahead = 1) :
    Unfilled frames := by
  cases state with
  | expression => exact suits
  | arrayValue => exact suits.1
  | functionValue => exact suits.1
  | literal => cases seeks
  | arrayStart => cases seeks
  | arrayEnd => cases seeks
  | functionStart => cases seeks
  | functionEnd => cases seeks

theorem suits_of_stateAt
    {token : Token} {state : State} (called : stateAt token = some state)
    (noEnd : state ≠ .arrayEnd) (unfilled : Unfilled frames) :
    Suits state frames := by
  cases token with
  | literal value =>
      cases called
      exact unfilled
  | bracketOpen =>
      cases called
      exact unfilled
  | braceOpen =>
      cases called
      exact unfilled
  | bracketClose =>
      cases called
      exact absurd rfl noEnd
  | braceClose => cases called

theorem unfilled_cons_array {elements : List Node} :
    Unfilled (.array elements :: frames) ↔ Unfilled frames := by
  simp [Unfilled]

theorem unfilled_cons_function {name : String} {argument : Option Node} :
    Unfilled (.function name argument :: frames) ↔
      argument = none ∧ Unfilled frames := by
  constructor
  · intro unfilled
    exact ⟨unfilled name argument List.mem_cons_self,
      fun other found member =>
      unfilled other found (List.mem_cons_of_mem _ member)⟩
  · rintro ⟨rfl, unfilled⟩ other found member
    rcases List.mem_cons.mp member with equal | below
    · cases equal
      rfl
    · exact unfilled other found below

/-- Attaching a finished node leads to a state that suits the frames. -/
theorem suits_complete
    {builder : Builder} {node : Node} {next : State}
    (unfilled : Unfilled builder.frames)
    (completes : (builder.complete node).1 = some next) :
    Suits next (builder.complete node).2.frames := by
  rcases builder with ⟨remaining, frames, root, nodes⟩
  cases frames with
  | nil => cases completes
  | cons frame frames =>
      cases frame with
      | array elements =>
          cases completes
          have others : Unfilled frames := unfilled_cons_array.mp unfilled
          exact ⟨unfilled_cons_array.mpr others, _, _, rfl⟩
      | function name argument =>
          cases completes
          exact ⟨name, node, frames, rfl,
            (unfilled_cons_function.mp unfilled).2⟩

theorem Moves.suits
    {state next : State} {builder after : Builder}
    (moves : Moves limits state builder (some next) after)
    (suits : Suits state builder.frames) :
    Suits next after.frames := by
  generalize found : some next = reached at moves
  cases moves with
  | value seeks separated called noEnd =>
      cases found
      exact suits_of_stateAt called noEnd (suits.unfilled_of_lookahead seeks)
  | lastElement closing =>
      cases found
      exact suits
  | literal token nodeRoom => exact suits_complete suits found.symm
  | openArray token nodeRoom depthRoom =>
      cases found
      exact ⟨unfilled_cons_array.mpr suits, _, _, rfl⟩
  | closeArray token separated =>
      exact suits_complete (unfilled_cons_array.mp suits.1) found.symm
  | openFunction opening separated token nodeRoom depthRoom =>
      cases found
      exact ⟨unfilled_cons_function.mpr ⟨rfl, suits⟩, _, _, rfl⟩
  | closeFunction token separated =>
      rcases suits with ⟨_, _, _, equal, unfilled⟩
      cases equal
      exact suits_complete unfilled found.symm

end

end Criteria.Parser
