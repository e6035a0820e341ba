import Criteria.Proofs.Node.Outcome

/-!
# The states that the machine reaches

Whatever lexemes it is given, the machine is only ever in states that fit the
frames it has opened and the lexeme it looks at, its books are right, and it
comes to its end within two steps for each lexeme and one more.  `Reached`
counts the steps; one move keeps the invariant, hence a run does.

Three errors in the code of the machine are there for completeness only: a
closing delimiter without an open container, a literal that is none, and an end
without a root.  No run produces them.
-/

namespace Criteria.Parser

open Node (totalCount)

/-- What the machine works on after a number of steps from its start. -/
inductive Reached (limits : Limits) (lexemes : List Lexeme) :
    Nat → State → Builder → Prop where
  | initial : Reached limits lexemes 0 .expression (start lexemes)
  | further {count : Nat} {state next : State} {builder after : Builder}
      (reached : Reached limits lexemes count state builder)
      (stepped : step limits state builder = .ok (some next, after)) :
      Reached limits lexemes (count + 1) next after

section

variable {limits : Limits}

/-! ## The lexeme that was looked at -/

/--
A state that is entered for the sake of a lexeme still has that lexeme before
it.
-/
def Called (state : State) (builder : Builder) : Prop :=
  state.isCalled = true →
    ∃ lexeme later, builder.remaining = lexeme :: later ∧
      stateAt lexeme.token = some state

theorem called_of_not_isCalled
    {state : State} (uncalled : state.isCalled = false) (builder : Builder) :
    Called state builder := by
  intro isCalled
  rw [uncalled] at isCalled
  cases isCalled

/-- Every move looks at the lexeme for the sake of which it enters a state. -/
theorem Moves.called
    {state next : State} {builder after : Builder}
    (moves : Moves limits state builder (some next) after) :
    Called next after := by
  generalize found : some next = reached at moves
  cases moves with
  | value seeks separated called noEnd =>
      cases found
      exact fun _ => ⟨_, _, rfl, called⟩
  | lastElement closing =>
      cases found
      exact fun _ => ⟨_, _, rfl, by rw [closing]; rfl⟩
  | literal token nodeRoom =>
      exact called_of_not_isCalled (not_isCalled_complete found.symm) _
  | openArray token nodeRoom depthRoom =>
      cases found
      exact called_of_not_isCalled rfl _
  | closeArray token separated =>
      exact called_of_not_isCalled (not_isCalled_complete found.symm) _
  | openFunction opening separated token nodeRoom depthRoom =>
      cases found
      exact called_of_not_isCalled rfl _
  | closeFunction token separated =>
      exact called_of_not_isCalled (not_isCalled_complete found.symm) _

/-! ## Counting steps -/

/-- Whether a frame is that of a function. -/
def Frame.isFunction : Frame → Bool
  | .function _ _ => true
  | .array _ => false

/--
The steps that the machine may still take.  To open a function takes two
lexemes in one step, so every open function leaves two steps over.
-/
def budget (state : State) (builder : Builder) : Nat :=
  stepsLeft state builder + 2 * builder.frames.countP Frame.isFunction

theorem stepsLeft_le (state : State) (builder : Builder) :
    stepsLeft state builder ≤ 2 * builder.remaining.length + 1 :=
  Nat.add_le_add_left state.lookahead_le _

theorem budget_complete_le
    {builder : Builder} {node : Node} {next : State}
    (completes : (builder.complete node).1 = some next) :
    budget next (builder.complete node).2 ≤
      2 * builder.remaining.length + 1 +
        2 * builder.frames.countP Frame.isFunction := by
  have steps := stepsLeft_le next (builder.complete node).2
  rw [Builder.complete_remaining] at steps
  refine Nat.add_le_add steps (Nat.mul_le_mul_left 2 (Nat.le_of_eq ?_))
  rcases builder with ⟨remaining, frames, root, nodes⟩
  cases frames with
  | nil => cases completes
  | cons frame frames =>
      cases frame <;>
        simp [Builder.complete, List.countP_cons, Frame.isFunction]

/-- Every move takes one step off the budget at least. -/
theorem Moves.budget_lt
    {state next : State} {builder after : Builder}
    (moves : Moves limits state builder (some next) after) :
    budget next after < budget state builder := by
  generalize found : some next = reached at moves
  cases moves with
  | value seeks separated called noEnd =>
      cases found
      have taking : next.lookahead = 0 := by
        have isCalled := isCalled_of_stateAt called
        cases next <;> first | rfl | cases isCalled
      simp only [budget, stepsLeft]
      omega
  | lastElement closing =>
      cases found
      simp only [budget, stepsLeft, State.lookahead]
      omega
  | literal token nodeRoom =>
      refine Nat.lt_of_le_of_lt (budget_complete_le found.symm) ?_
      simp only [budget, stepsLeft, List.length_cons]
      omega
  | openArray token nodeRoom depthRoom =>
      cases found
      simp only [budget, stepsLeft, State.lookahead, List.length_cons,
        List.countP_cons, Frame.isFunction]
      simp
      omega
  | closeArray token separated =>
      refine Nat.lt_of_le_of_lt (budget_complete_le found.symm) ?_
      simp only [budget, stepsLeft, List.length_cons, List.countP_cons]
      omega
  | openFunction opening separated token nodeRoom depthRoom =>
      cases found
      simp only [budget, stepsLeft, State.lookahead, List.length_cons,
        List.countP_cons, Frame.isFunction, if_true]
      omega
  | closeFunction token separated =>
      refine Nat.lt_of_le_of_lt (budget_complete_le found.symm) ?_
      simp only [budget, stepsLeft, List.length_cons, List.countP_cons]
      omega

/-- Where the machine stands, it may take one step more. -/
theorem budget_pos
    {state : State} {builder : Builder}
    (suits : Suits state builder.frames) (called : Called state builder) :
    0 < budget state builder := by
  have looked (isCalled : state.isCalled = true) :
      0 < budget state builder := by
    rcases called isCalled with ⟨lexeme, later, split, _⟩
    simp only [budget, stepsLeft, split, List.length_cons]
    omega
  cases state with
  | expression => exact Nat.add_pos_left (Nat.succ_pos _) _
  | arrayValue => exact Nat.add_pos_left (Nat.succ_pos _) _
  | functionValue => exact Nat.add_pos_left (Nat.succ_pos _) _
  | functionEnd =>
      rcases suits with ⟨name, argument, others, top, _⟩
      simp only [budget, top, List.countP_cons, Frame.isFunction, if_true]
      omega
  | literal => exact looked rfl
  | arrayStart => exact looked rfl
  | arrayEnd => exact looked rfl
  | functionStart => exact looked rfl

/-! ## What a run keeps -/

/-- What every step of a run keeps. -/
structure Stands (limits : Limits) (lexemes : List Lexeme) (count : Nat)
    (state : State) (builder : Builder) : Prop where
  suits : Suits state builder.frames
  accounts : Accounts limits builder
  called : Called state builder
  steps : count + budget state builder ≤ 2 * lexemes.length + 1

theorem Reached.stands
    {lexemes : List Lexeme} {count : Nat} {state : State} {builder : Builder}
    (reached : Reached limits lexemes count state builder) :
    Stands limits lexemes count state builder := by
  induction reached with
  | initial =>
      refine ⟨?_, accounts_start limits lexemes, called_of_not_isCalled rfl _,
        Nat.le_of_eq (Nat.zero_add _)⟩
      intro name argument member
      cases member
  | further _ stepped ih =>
      have moves := moves_of_step ih.suits stepped
      have fewer := moves.budget_lt
      have steps := ih.steps
      exact ⟨moves.suits ih.suits, moves.accounts ih.suits ih.accounts,
        moves.called, by omega⟩

/-- A run ends with some step from a state that it has reached. -/
theorem Reached.exists_last
    {lexemes : List Lexeme} {count : Nat} {state : State} {builder : Builder}
    (reached : Reached limits lexemes count state builder) :
    ∃ count state' builder', Reached limits lexemes count state' builder' ∧
      ((∃ error, step limits state' builder' = .error error ∧
          run limits state builder = .error error) ∨
        ∃ after, step limits state' builder' = .ok (none, after) ∧
          run limits state builder = .ok after) := by
  fun_induction run limits state builder generalizing count with
  | case1 state builder error stepped =>
      exact ⟨_, _, _, reached, Or.inl ⟨error, stepped, rfl⟩⟩
  | case2 state builder after stepped =>
      exact ⟨_, _, _, reached, Or.inr ⟨after, stepped, rfl⟩⟩
  | case3 state builder next after stepped ih =>
      exact ih (.further reached stepped)

/-! ## Errors that no step produces -/

/--
Whether something is ever missed where a lexeme is refused.  An open container
and a literal as such never are.
-/
def IsMissed : Wanted → Prop
  | .openContainer | .literal => False
  | _ => True

/-- An outcome that refuses no lexeme for want of what is never missed. -/
def Live {α : Type} : Except ConditionError α → Prop
  | .error (.unexpected _ wanted _) => IsMissed wanted
  | _ => True

theorem Live.bind
    {α β : Type} {first : Except ConditionError α}
    {next : α → Except ConditionError β}
    (live : Live first)
    (later : ∀ value, first = .ok value → Live (next value)) :
    Live (first >>= next) := by
  cases first with
  | ok value => exact later value rfl
  | error error => cases error <;> exact live

theorem live_peek (builder : Builder) (wanted : Wanted) :
    Live (builder.peek wanted) := by
  unfold Builder.peek
  split <;> trivial

theorem live_take (builder : Builder) (wanted : Wanted) :
    Live (builder.take wanted) := by
  unfold Builder.take
  split <;> trivial

theorem live_expect (builder : Builder) (token : Token) :
    Live (builder.expect token) := by
  unfold Builder.expect Builder.take
  cases builder.remaining with
  | nil => trivial
  | cons lexeme later =>
      simp only
      split
      · trivial
      · split
        · trivial
        · trivial

theorem live_countNode (builder : Builder) :
    Live (builder.countNode limits) := by
  unfold Builder.countNode
  split <;> trivial

theorem live_openFrame (builder : Builder) (frame : Frame) :
    Live (builder.openFrame limits frame) := by
  unfold Builder.openFrame
  split <;> trivial

theorem live_checkSeparator
    (lexeme : Lexeme) (due : Option Separator) {wanted : Wanted}
    (missed : IsMissed wanted) :
    Live (checkSeparator lexeme due wanted) := by
  unfold checkSeparator
  split
  · trivial
  · split
    · trivial
    · exact missed
    · trivial

theorem live_valueState
    (lexeme : Lexeme) {wanted : Wanted}
    (missed : IsMissed wanted) :
    Live (valueState lexeme wanted) := by
  unfold valueState
  split
  · trivial
  · trivial
  · trivial
  · exact missed

theorem live_recognise
    (builder : Builder) (peeked : Wanted) {separated dispatched : Wanted}
    (due : Option Separator)
    (separatedMissed : IsMissed separated)
    (dispatchedMissed : IsMissed dispatched) :
    Live (recognise builder peeked separated dispatched due) := by
  refine (live_peek builder peeked).bind fun lexeme _ => ?_
  refine (live_checkSeparator lexeme due separatedMissed).bind fun _ _ => ?_
  exact (live_valueState lexeme dispatchedMissed).bind fun _ _ => trivial

/-- The lexeme that is taken for a literal is one. -/
theorem live_takeLiteral
    {builder : Builder} (called : Called .literal builder) :
    Live (takeLiteral limits builder) := by
  rcases called rfl with ⟨lexeme, later, split, isCalled⟩
  refine (live_take builder .literal).bind fun taken found => ?_
  rw [Builder.take, split] at found
  cases found
  cases token : lexeme.token with
  | literal value =>
      simp only [token]
      exact (live_countNode _).bind fun _ _ => trivial
  | bracketOpen => rw [token] at isCalled; cases isCalled
  | bracketClose => rw [token] at isCalled; cases isCalled
  | braceOpen => rw [token] at isCalled; cases isCalled
  | braceClose => rw [token] at isCalled; cases isCalled

theorem live_startArray (builder : Builder) :
    Live (startArray limits builder) := by
  refine (live_expect builder .bracketOpen).bind fun opened _ => ?_
  refine (live_countNode opened.2).bind fun counted _ => ?_
  exact (live_openFrame counted _).bind fun _ _ => trivial

theorem live_continueArray (builder : Builder) :
    Live (continueArray builder) := by
  refine (live_peek builder _).bind fun lexeme _ => ?_
  split
  · trivial
  · exact live_recognise _ _ _ trivial trivial

theorem expect_frames
    {builder after : Builder} {token : Token} {lexeme : Lexeme}
    (expected : builder.expect token = .ok (lexeme, after)) :
    after.frames = builder.frames := by
  unfold Builder.expect Builder.take at expected
  cases split : builder.remaining with
  | nil =>
      rw [split] at expected
      cases expected
  | cons first later =>
      rw [split] at expected
      simp only at expected
      split at expected
      · cases expected
      · split at expected
        · cases expected
        · cases expected
          rfl

/-- A closing bracket closes an array that is open. -/
theorem live_endArray
    {builder : Builder} (suits : Suits .arrayEnd builder.frames) :
    Live (endArray builder) := by
  rcases suits with ⟨_, elements, others, top⟩
  refine (live_expect builder .bracketClose).bind fun closed expected => ?_
  have sameFrames := expect_frames expected
  rw [top] at sameFrames
  simp only [sameFrames]
  trivial

theorem live_startFunction (builder : Builder) :
    Live (startFunction limits builder) := by
  refine (live_expect builder .braceOpen).bind fun opened _ => ?_
  refine (live_take opened.2 _).bind fun named _ => ?_
  have missed : IsMissed .functionName := trivial
  refine (live_checkSeparator named.1 none missed).bind fun _ _ => ?_
  split
  · refine (live_countNode named.2).bind fun counted _ => ?_
    exact (live_openFrame counted _).bind fun _ _ => trivial
  · trivial

/-- A closing brace closes a function that is open and has its argument. -/
theorem live_endFunction
    {builder : Builder} (suits : Suits .functionEnd builder.frames) :
    Live (endFunction builder) := by
  rcases suits with ⟨name, argument, others, top, _⟩
  refine (live_expect builder .braceClose).bind fun closed expected => ?_
  have sameFrames := expect_frames expected
  rw [top] at sameFrames
  simp only [sameFrames]
  trivial

/-- No step refuses a lexeme for want of an open container or of a literal. -/
theorem live_step
    {state : State} {builder : Builder}
    (suits : Suits state builder.frames) (called : Called state builder) :
    Live (step limits state builder) := by
  cases state with
  | expression =>
      exact live_recognise _ _ _ trivial trivial
  | literal => exact live_takeLiteral called
  | arrayStart => exact live_startArray builder
  | arrayValue => exact live_continueArray builder
  | arrayEnd => exact live_endArray suits
  | functionStart => exact live_startFunction builder
  | functionValue =>
      exact live_recognise _ _ _ trivial trivial
  | functionEnd => exact live_endFunction suits

/-! ## The invariant -/

theorem frameCount_eq (frames : List Frame) :
    frameCount frames =
      frames.length + totalCount (frames.flatMap Frame.attached) := by
  induction frames with
  | nil => rfl
  | cons frame frames ih =>
      rw [frameCount, ih, List.flatMap_cons, totalCount_append,
        List.length_cons]
      omega

/-- What holds wherever the machine stands. -/
structure Sound (limits : Limits) (state : State) (builder : Builder) :
    Prop where
  /-- An array is open where an element or its end is looked for. -/
  inArray : state = .arrayValue ∨ state = .arrayEnd →
    ∃ elements below, builder.frames = .array elements :: below
  /-- A function without argument is open where its argument is looked for. -/
  beforeArgument : state = .functionValue →
    ∃ name below, builder.frames = .function name none :: below
  /-- A function with its argument is open where its end is looked for. -/
  behindArgument : state = .functionEnd →
    ∃ name argument below,
      builder.frames = .function name (some argument) :: below
  /-- Functions below the top of the stack still wait for their argument. -/
  waiting : ∀ top below, builder.frames = top :: below →
    ∀ name argument, Frame.function name argument ∈ below → argument = none
  /-- A literal comes next where one is taken. -/
  atLiteral : state = .literal →
    ∃ lexeme later value, builder.remaining = lexeme :: later ∧
      lexeme.token = .literal value
  height : builder.frames.length ≤ limits.maxDepth
  /-- The nodes counted are the open frames and what is attached to them. -/
  count : builder.nodes =
    builder.frames.length + totalCount (builder.frames.flatMap Frame.attached)

theorem Suits.waiting
    {state : State} {top : Frame} {below : List Frame}
    (suits : Suits state (top :: below)) :
    Unfilled below := by
  have tail (unfilled : Unfilled (top :: below)) : Unfilled below :=
    fun name argument member =>
      unfilled name argument (List.mem_cons_of_mem _ member)
  cases state with
  | functionEnd =>
      rcases suits with ⟨_, _, _, equal, unfilled⟩
      cases equal
      exact unfilled
  | arrayValue => exact tail suits.1
  | arrayEnd => exact tail suits.1
  | functionValue => exact tail suits.1
  | expression => exact tail suits
  | literal => exact tail suits
  | arrayStart => exact tail suits
  | functionStart => exact tail suits

theorem exists_literal_of_stateAt
    {token : Token} (called : stateAt token = some .literal) :
    ∃ value, token = .literal value := by
  cases token with
  | literal value => exact ⟨value, rfl⟩
  | bracketOpen => cases called
  | bracketClose => cases called
  | braceOpen => cases called
  | braceClose => cases called

theorem Stands.sound
    {lexemes : List Lexeme} {count : Nat} {state : State} {builder : Builder}
    (stands : Stands limits lexemes count state builder) :
    Sound limits state builder where
  inArray := by
    rintro (rfl | rfl)
    · exact stands.suits.2
    · exact stands.suits.2
  beforeArgument := by
    rintro rfl
    exact stands.suits.2
  behindArgument := by
    rintro rfl
    rcases stands.suits with ⟨name, argument, below, top, _⟩
    exact ⟨name, argument, below, top⟩
  waiting := by
    intro top below split
    have suits := stands.suits
    rw [split] at suits
    exact suits.waiting
  atLiteral := by
    rintro rfl
    rcases stands.called rfl with ⟨lexeme, later, split, called⟩
    rcases exists_literal_of_stateAt called with ⟨value, token⟩
    exact ⟨lexeme, later, value, split, token⟩
  height := stands.accounts.shallow.length_le
  count := by rw [stands.accounts.count, frameCount_eq]

theorem finish_ne_unexpectedEnd
    {after : Builder} {root : Node} (isRoot : after.root = some root)
    (trailing : Option (Separator × Nat)) :
    finish after trailing ≠ .error (.unexpectedEnd .expression) := by
  rcases after with ⟨remaining, frames, _, nodes⟩
  cases isRoot
  cases remaining with
  | cons lexeme later => exact nofun
  | nil => cases trailing <;> exact nofun

theorem eq_of_finish
    {after : Builder} {root other : Node} (isRoot : after.root = some root)
    {trailing : Option (Separator × Nat)}
    (finished : finish after trailing = .ok other) :
    other = root := by
  rcases after with ⟨remaining, frames, _, nodes⟩
  cases isRoot
  cases remaining with
  | cons lexeme later => cases finished
  | nil =>
      cases trailing with
      | some separator => cases finished
      | none =>
          cases finished
          rfl

/--
The machine keeps its invariant, whatever lexemes it is given.  It takes at
most two steps for each lexeme and one more; it never finds a closing delimiter
without an open container, a literal that is none, or an end without a root;
and the nodes counted are those of the tree.
-/
theorem reached_states_are_sound (limits : Limits) (lexemes : List Lexeme) :
    (∀ count state builder, Reached limits lexemes count state builder →
      Sound limits state builder ∧ count + 1 ≤ 2 * lexemes.length + 1 ∧
        ∀ offset wanted found,
          step limits state builder =
              .error (.unexpected offset wanted found) →
            wanted ≠ .openContainer ∧ wanted ≠ .literal) ∧
    (∃ count state builder, Reached limits lexemes count state builder ∧
      count + 1 ≤ 2 * lexemes.length + 1 ∧
      ((∃ error, step limits state builder = .error error ∧
          run limits .expression (start lexemes) = .error error) ∨
        ∃ after, step limits state builder = .ok (none, after) ∧
          run limits .expression (start lexemes) = .ok after)) ∧
    ∀ after, run limits .expression (start lexemes) = .ok after →
      ∀ trailing,
        finish after trailing ≠ .error (.unexpectedEnd .expression) ∧
        ∀ root, finish after trailing = .ok root →
          after.nodes = root.nodeCount := by
  have bounded {count : Nat} {state : State} {builder : Builder}
      (stands : Stands limits lexemes count state builder) :
      count + 1 ≤ 2 * lexemes.length + 1 := by
    have steps := stands.steps
    have positive := budget_pos stands.suits stands.called
    omega
  have begun : Reached limits lexemes 0 .expression (start lexemes) := .initial
  rcases begun.exists_last with ⟨last, final, left, reached, ended⟩
  have stands := reached.stands
  refine ⟨?_, ⟨last, final, left, reached, bounded stands, ended⟩, ?_⟩
  · intro count state builder reached
    have stands := reached.stands
    refine ⟨stands.sound, bounded stands, ?_⟩
    intro offset wanted found refused
    have live : Live (step limits state builder) :=
      live_step stands.suits stands.called
    rw [refused] at live
    constructor
    · rintro rfl
      exact live
    · rintro rfl
      exact live
  · intro after runs trailing
    rcases ended with ⟨error, _, failed⟩ | ⟨other, stepped, succeeded⟩
    · rw [runs] at failed
      cases failed
    · rw [runs] at succeeded
      cases succeeded
      have moves := moves_of_step stands.suits stepped
      rcases moves.exists_root with ⟨root, isRoot⟩
      have counted :=
        (moves.accounts stands.suits stands.accounts root isRoot).1
      refine ⟨finish_ne_unexpectedEnd isRoot trailing, fun other finished => ?_⟩
      rw [eq_of_finish isRoot finished, counted]

/--
In an array of null, the literal is the fourth thing the machine comes to, and
two nodes are counted in the end.
-/
theorem reached_states_are_sound_null :
    Reached ⟨1, 2⟩ [⟨.bracketOpen, 0, none⟩, ⟨.literal .null, 1, none⟩,
        ⟨.bracketClose, 5, none⟩] 3 .literal
      ⟨[⟨.literal .null, 1, none⟩, ⟨.bracketClose, 5, none⟩], [.array []], none,
        1⟩ ∧
    Sound ⟨1, 2⟩ .literal
      ⟨[⟨.literal .null, 1, none⟩, ⟨.bracketClose, 5, none⟩], [.array []], none,
        1⟩ ∧
    run ⟨1, 2⟩ .expression
        (start [⟨.bracketOpen, 0, none⟩, ⟨.literal .null, 1, none⟩,
          ⟨.bracketClose, 5, none⟩]) =
      .ok ⟨[], [], some (.array [.literal .null]), 2⟩ ∧
    2 = (Node.array [.literal .null]).nodeCount := by
  have reached :
      Reached ⟨1, 2⟩ [⟨.bracketOpen, 0, none⟩, ⟨.literal .null, 1, none⟩,
        ⟨.bracketClose, 5, none⟩] 3 .literal
        ⟨[⟨.literal .null, 1, none⟩, ⟨.bracketClose, 5, none⟩], [.array []],
          none, 1⟩ :=
    .further (.further (.further .initial rfl) rfl) rfl
  have runs : run ⟨1, 2⟩ .expression
        (start [⟨.bracketOpen, 0, none⟩, ⟨.literal .null, 1, none⟩,
          ⟨.bracketClose, 5, none⟩]) =
      .ok ⟨[], [], some (.array [.literal .null]), 2⟩ := by
    cbv
  have sound := reached_states_are_sound ⟨1, 2⟩
    [⟨.bracketOpen, 0, none⟩, ⟨.literal .null, 1, none⟩,
      ⟨.bracketClose, 5, none⟩]
  exact ⟨reached, (sound.1 _ _ _ reached).1, runs,
    (sound.2.2 _ runs none).2 _ rfl⟩

end

end Criteria.Parser
