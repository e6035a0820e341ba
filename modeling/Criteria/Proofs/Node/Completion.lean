import Criteria.Proofs.Node.Machine
import Criteria.Proofs.Node.Marks

/-!
# What completes a tree

Wherever the machine stands, its state and its open frames say which marks
still make up a tree, and which tree: `Awaits` is the language of a state.  A
move takes marks off the front of the language and changes nothing else about
it, `Moves.awaits_iff`; a failure stands before a mark that no word of the
language goes on with.
-/

namespace Criteria.Parser

/-! ## The language of a state -/

/--
The marks that complete a tree once a finished node is attached to the open
frames.
-/
def Closes : List Frame → Node → List Mark → Node → Prop
  | [], node, marks, root => marks = [] ∧ root = node
  | .array elements :: frames, node, marks, root =>
      ∃ others rest,
        marks = Node.elementMarks (some .comma) others ++
          ⟨none, .bracketClose⟩ :: rest ∧
          Closes frames (.array (elements.reverse ++ node :: others)) rest root
  | .function name _ :: frames, node, marks, root =>
      ∃ rest, marks = ⟨none, .braceClose⟩ :: rest ∧
        Closes frames (.function name node) rest root

/--
The marks that begin with a node behind a separator and go on to complete a
tree.
-/
def Reads (frames : List Frame) (marks : List Mark) (root : Node)
    (separator : Option Separator) (node : Node) : Prop :=
  ∃ rest, marks = node.marks separator ++ rest ∧ Closes frames node rest root

/-- The marks that complete a tree from a state and the open frames. -/
def Awaits : State → List Frame → List Mark → Node → Prop
  | .expression, frames, marks, root =>
      ∃ node, Reads frames marks root none node
  | .literal, frames, marks, root =>
      ∃ separator value, Reads frames marks root separator (.literal value)
  | .arrayStart, frames, marks, root =>
      ∃ separator elements, Reads frames marks root separator (.array elements)
  | .arrayValue, frames, marks, root =>
      ∃ elements below others rest, frames = .array elements :: below ∧
        marks = Node.elementMarks (soughtSeparator .arrayValue frames) others ++
          ⟨none, .bracketClose⟩ :: rest ∧
        Closes below (.array (elements.reverse ++ others)) rest root
  | .arrayEnd, frames, marks, root =>
      ∃ elements below rest, frames = .array elements :: below ∧
        marks = ⟨none, .bracketClose⟩ :: rest ∧
          Closes below (.array elements.reverse) rest root
  | .functionStart, frames, marks, root =>
      ∃ separator name argument,
        Reads frames marks root separator (.function name argument)
  | .functionValue, frames, marks, root =>
      ∃ node, Reads frames marks root (some .colon) node
  | .functionEnd, frames, marks, root =>
      ∃ name argument below rest,
        frames = .function name (some argument) :: below ∧
        marks = ⟨none, .braceClose⟩ :: rest ∧
          Closes below (.function name argument) rest root

/--
The language after a step: what the next state awaits, or nothing once the root
is complete.
-/
def AwaitsNext : Option State → Builder → List Mark → Node → Prop
  | some next, after, marks, root => Awaits next after.frames marks root
  | none, after, marks, root => marks = [] ∧ after.root = some root

/--
Attaching a finished node leaves the marks that close the frames around it.
-/
theorem awaitsNext_complete
    (remaining : List Lexeme) (frames : List Frame) (before : Option Node)
    (nodes : Nat)
    (node : Node) {marks : List Mark} {root : Node} :
    AwaitsNext (Builder.complete ⟨remaining, frames, before, nodes⟩ node).1
        (Builder.complete ⟨remaining, frames, before, nodes⟩ node).2
          marks root ↔
      Closes frames node marks root := by
  cases frames with
  | nil => simp [Builder.complete, AwaitsNext, Closes, eq_comm]
  | cons frame frames =>
      cases frame with
      | array elements =>
          simp [Builder.complete, AwaitsNext, Awaits, Closes, soughtSeparator]
      | function name argument =>
          simp [Builder.complete, AwaitsNext, Awaits, Closes]

/-! ## Looking at the first mark -/

theorem reads_separator
    {frames : List Frame} {mark : Mark} {marks : List Mark} {root node : Node}
    {separator : Option Separator}
    (reads : Reads frames (mark :: marks) root separator node) :
    separator = mark.separator ∧ mark.token = node.document.firstToken := by
  rcases reads with ⟨rest, equal, _⟩
  rcases node.document.exists_marks_eq_cons with ⟨more, split⟩
  rw [Node.marks, split, List.cons_append, List.cons.injEq] at equal
  rw [equal.1]
  exact ⟨rfl, rfl⟩

/--
The state that takes a value is called for by the first token of the value.
-/
theorem awaits_called_iff
    {frames : List Frame} {mark : Mark} {marks : List Mark} {root : Node}
    {next : State}
    (called : stateAt mark.token = some next) (noEnd : next ≠ .arrayEnd) :
    Awaits next frames (mark :: marks) root ↔
      ∃ node, Reads frames (mark :: marks) root mark.separator node := by
  constructor
  · intro awaits
    cases next with
    | literal =>
        rcases awaits with ⟨separator, value, reads⟩
        exact ⟨_, (reads_separator reads).1 ▸ reads⟩
    | arrayStart =>
        rcases awaits with ⟨separator, elements, reads⟩
        exact ⟨_, (reads_separator reads).1 ▸ reads⟩
    | functionStart =>
        rcases awaits with ⟨separator, name, argument, reads⟩
        exact ⟨_, (reads_separator reads).1 ▸ reads⟩
    | arrayEnd => exact absurd rfl noEnd
    | expression =>
        cases token : mark.token <;> rw [token] at called <;> cases called
    | arrayValue =>
        cases token : mark.token <;> rw [token] at called <;> cases called
    | functionValue =>
        cases token : mark.token <;> rw [token] at called <;> cases called
    | functionEnd =>
        cases token : mark.token <;> rw [token] at called <;> cases called
  · rintro ⟨node, reads⟩
    have first := (reads_separator reads).2
    rw [first] at called
    cases node with
    | literal value =>
        simp only [Node.document, Document.firstToken, stateAt,
          Option.some.injEq] at called
        subst called
        exact ⟨_, value, reads⟩
    | array elements =>
        simp only [Node.document, Document.firstToken, stateAt,
          Option.some.injEq] at called
        subst called
        exact ⟨_, elements, reads⟩
    | function name argument =>
        simp only [Node.document, Document.firstToken, stateAt,
          Option.some.injEq] at called
        subst called
        exact ⟨_, name, argument, reads⟩

theorem exists_stateAt_firstToken (node : Node) :
    ∃ next, stateAt node.document.firstToken = some next ∧
      next ≠ .arrayEnd := by
  cases node with
  | literal value =>
      exact ⟨.literal,
        by simp only [Node.document, Document.firstToken, stateAt], by decide⟩
  | array elements =>
      exact ⟨.arrayStart,
        by simp only [Node.document, Document.firstToken, stateAt], by decide⟩
  | function name argument =>
      exact ⟨.functionStart,
        by simp only [Node.document, Document.firstToken, stateAt], by decide⟩

theorem beginsValue_of_reads
    {state : State} {frames : List Frame} {mark : Mark} {marks : List Mark}
    {root node : Node}
    (reads : Reads frames (mark :: marks) root (soughtSeparator state frames)
      node) :
    BeginsValue state frames mark := by
  rcases reads_separator reads with ⟨separator, token⟩
  rw [BeginsValue, token]
  exact ⟨separator.symm, exists_stateAt_firstToken node⟩

/-- An open array awaits its end or one more element. -/
theorem awaits_arrayValue_iff
    {elements : List Node} {below : List Frame} {marks : List Mark}
    {root : Node} :
    Awaits .arrayValue (.array elements :: below) marks root ↔
      Awaits .arrayEnd (.array elements :: below) marks root ∨
        ∃ node, Reads (.array elements :: below) marks root
          (soughtSeparator .arrayValue (.array elements :: below)) node := by
  constructor
  · rintro ⟨_, _, others, rest, top, equal, closes⟩
    cases top
    cases others with
    | nil =>
        rw [Node.elementMarks_nil, List.nil_append] at equal
        rw [List.append_nil] at closes
        exact Or.inl ⟨_, _, rest, rfl, equal, closes⟩
    | cons node others =>
        rw [Node.elementMarks_cons, List.append_assoc] at equal
        exact Or.inr ⟨node, _, equal, others, rest, rfl, closes⟩
  · rintro (⟨_, _, rest, top, equal, closes⟩ |
      ⟨node, _, equal, others, rest, rfl, closes⟩)
    · cases top
      exact ⟨elements, below, [], rest, rfl, equal, by rwa [List.append_nil]⟩
    · refine ⟨elements, below, node :: others, rest, rfl, ?_, closes⟩
      rw [equal, Node.elementMarks_cons, List.append_assoc]

/-- No mark that a state cannot use begins a word of its language. -/
theorem admits_of_awaits
    {state : State} {frames : List Frame} {mark : Mark} {marks : List Mark}
    {root : Node}
    (awaits : Awaits state frames (mark :: marks) root) :
    Admits state frames mark := by
  cases state with
  | expression =>
      rcases awaits with ⟨node, reads⟩
      exact beginsValue_of_reads reads
  | literal =>
      rcases awaits with ⟨separator, value, reads⟩
      refine ⟨value, ?_⟩
      rw [(reads_separator reads).2, Node.document, Document.firstToken]
  | arrayStart =>
      rcases awaits with ⟨separator, elements, reads⟩
      rw [Admits, (reads_separator reads).2, Node.document, Document.firstToken]
  | arrayValue =>
      rcases id awaits with ⟨elements, below, others, rest, rfl, _, _⟩
      rcases awaits_arrayValue_iff.mp awaits with ⟨_, _, _, _, equal, _⟩ |
        ⟨node, reads⟩
      · rw [List.cons.injEq] at equal
        exact Or.inl (congrArg Mark.token equal.1)
      · exact Or.inr (beginsValue_of_reads reads)
  | arrayEnd =>
      rcases awaits with ⟨_, _, _, _, equal, _⟩
      exact (List.cons.inj equal).1
  | functionStart =>
      rcases awaits with ⟨separator, name, argument, reads⟩
      rw [Admits, (reads_separator reads).2, Node.document, Document.firstToken]
  | functionValue =>
      rcases awaits with ⟨node, reads⟩
      exact beginsValue_of_reads reads
  | functionEnd =>
      rcases awaits with ⟨_, _, _, _, _, equal, _⟩
      exact (List.cons.inj equal).1

theorem name_of_awaits
    {frames : List Frame} {brace mark : Mark} {marks : List Mark} {root : Node}
    (awaits : Awaits .functionStart frames (brace :: mark :: marks) root) :
    ∃ name, mark = ⟨none, .literal (.string name)⟩ := by
  rcases awaits with ⟨separator, name, argument, rest, equal, _⟩
  rw [Node.marks_function, List.cons_append, List.cons_append, List.cons.injEq,
    List.cons.injEq] at equal
  exact ⟨name, equal.2.1⟩

/-- A function does not end with its opening brace. -/
theorem not_awaits_brace {frames : List Frame} {brace : Mark} {root : Node} :
    ¬ Awaits .functionStart frames [brace] root := by
  rintro ⟨separator, name, argument, rest, equal, _⟩
  rw [Node.marks_function] at equal
  simp at equal

/-- Some mark is always awaited. -/
theorem not_awaits_nil {state : State} {frames : List Frame} {root : Node} :
    ¬ Awaits state frames [] root := by
  have reads_nil {separator : Option Separator} {node : Node} :
      ¬ Reads frames [] root separator node := by
    rintro ⟨rest, equal, _⟩
    rcases node.document.exists_marks_eq_cons with ⟨more, split⟩
    rw [Node.marks, split] at equal
    cases equal
  intro awaits
  cases state with
  | expression =>
      rcases awaits with ⟨node, reads⟩
      exact reads_nil reads
  | literal =>
      rcases awaits with ⟨separator, value, reads⟩
      exact reads_nil reads
  | arrayStart =>
      rcases awaits with ⟨separator, elements, reads⟩
      exact reads_nil reads
  | arrayValue =>
      rcases awaits with ⟨_, _, _, _, _, equal, _⟩
      exact List.append_ne_nil_of_right_ne_nil _ (List.cons_ne_nil _ _)
        equal.symm
  | arrayEnd =>
      rcases awaits with ⟨_, _, _, _, equal, _⟩
      cases equal
  | functionStart =>
      rcases awaits with ⟨separator, name, argument, reads⟩
      exact reads_nil reads
  | functionValue =>
      rcases awaits with ⟨node, reads⟩
      exact reads_nil reads
  | functionEnd =>
      rcases awaits with ⟨_, _, _, _, _, equal, _⟩
      cases equal

/-! ## Moves take marks off the front -/

section

variable {frames : List Frame} {marks : List Mark} {root : Node}

theorem awaits_value_iff
    {state : State} {mark : Mark}
    (suits : Suits state frames)
    (seeks : state.lookahead = 1)
    (notClosing : mark.token ≠ .bracketClose) :
    Awaits state frames (mark :: marks) root ↔
      ∃ node, Reads frames (mark :: marks) root (soughtSeparator state frames)
        node := by
  cases state with
  | expression => exact Iff.rfl
  | functionValue => exact Iff.rfl
  | arrayValue =>
      rcases suits with ⟨_, elements, below, rfl⟩
      rw [awaits_arrayValue_iff]
      constructor
      · rintro (awaits | reads)
        · have closing := admits_of_awaits awaits
          exact absurd (congrArg Mark.token closing) notClosing
        · exact reads
      · exact Or.inr
  | literal => cases seeks
  | arrayStart => cases seeks
  | arrayEnd => cases seeks
  | functionStart => cases seeks
  | functionEnd => cases seeks

theorem awaits_last_iff
    {mark : Mark} (suits : Suits .arrayValue frames)
    (closing : mark.token = .bracketClose) :
    Awaits .arrayValue frames (mark :: marks) root ↔
      Awaits .arrayEnd frames (mark :: marks) root := by
  rcases suits with ⟨_, elements, below, rfl⟩
  rw [awaits_arrayValue_iff]
  constructor
  · rintro (awaits | ⟨node, reads⟩)
    · exact awaits
    · rcases exists_stateAt_firstToken node with ⟨next, called, noEnd⟩
      rw [← (reads_separator reads).2, closing] at called
      cases called
      exact absurd rfl noEnd
  · exact Or.inl

theorem awaits_literal_iff {separator : Option Separator} {value : Literal} :
    Awaits .literal frames (⟨separator, .literal value⟩ :: marks) root ↔
      Closes frames (.literal value) marks root := by
  constructor
  · rintro ⟨_, _, rest, equal, closes⟩
    simp only [Node.marks_literal, List.cons_append, List.nil_append,
      List.cons.injEq, Mark.mk.injEq, Token.literal.injEq] at equal
    rcases equal with ⟨⟨_, rfl⟩, rfl⟩
    exact closes
  · intro closes
    exact ⟨separator, value, marks, by rw [Node.marks_literal]; rfl, closes⟩

theorem awaits_openArray_iff {separator : Option Separator} :
    Awaits .arrayStart frames (⟨separator, .bracketOpen⟩ :: marks) root ↔
      Awaits .arrayValue (.array [] :: frames) marks root := by
  constructor
  · rintro ⟨_, elements, rest, equal, closes⟩
    simp only [Node.marks_array, List.cons_append, List.append_assoc,
      List.nil_append, List.cons.injEq] at equal
    exact ⟨[], frames, elements, rest, rfl, equal.2, closes⟩
  · rintro ⟨_, _, others, rest, top, equal, closes⟩
    cases top
    refine ⟨separator, others, rest, ?_, closes⟩
    rw [equal, Node.marks_array]
    simp [soughtSeparator]

theorem awaits_closeArray_iff {elements : List Node} :
    Awaits .arrayEnd (.array elements :: frames)
      (⟨none, .bracketClose⟩ :: marks) root ↔
      Closes frames (.array elements.reverse) marks root := by
  constructor
  · rintro ⟨_, _, rest, top, equal, closes⟩
    cases top
    cases equal
    exact closes
  · intro closes
    exact ⟨elements, frames, marks, rfl, rfl, closes⟩

theorem awaits_openFunction_iff {separator : Option Separator} {name : String} :
    Awaits .functionStart frames
        (⟨separator, .braceOpen⟩ :: ⟨none, .literal (.string name)⟩ :: marks)
          root ↔
      Awaits .functionValue (.function name none :: frames) marks root := by
  constructor
  · rintro ⟨_, _, argument, rest, equal, closes⟩
    simp only [Node.marks_function, List.cons_append, List.append_assoc,
      List.nil_append, List.cons.injEq, Mark.mk.injEq, Token.literal.injEq,
      Literal.string.injEq] at equal
    rcases equal with ⟨_, ⟨_, rfl⟩, equal⟩
    exact ⟨argument, _, equal, rest, rfl, closes⟩
  · rintro ⟨argument, _, equal, rest, rfl, closes⟩
    refine ⟨separator, name, argument, rest, ?_, closes⟩
    rw [equal, Node.marks_function]
    simp

theorem awaits_closeFunction_iff {name : String} {argument : Node} :
    Awaits .functionEnd (.function name (some argument) :: frames)
        (⟨none, .braceClose⟩ :: marks) root ↔
      Closes frames (.function name argument) marks root := by
  constructor
  · rintro ⟨_, _, _, rest, top, equal, closes⟩
    cases top
    cases equal
    exact closes
  · intro closes
    exact ⟨name, argument, frames, marks, rfl, rfl, closes⟩

end

/--
Marks that begin with the lexeme that a state has already looked at, if it has.
-/
def Agrees : Option State → Builder → List Mark → Prop
  | some state, builder, marks =>
      state.isCalled = true →
        marks.head? = builder.remaining.head?.map Lexeme.mark
  | none, _, _ => True

theorem not_isCalled_complete
    {builder : Builder} {node : Node} {next : State}
    (completes : (builder.complete node).1 = some next) :
    next.isCalled = false := by
  unfold Builder.complete at completes
  split at completes <;> cases completes <;> rfl

/--
A move takes lexemes off the front, or it only looks at the first of them and
then knows the next state.  What a state awaits behind the marks of the lexemes
is what the next state awaits.
-/
structure Takes (taken : List Lexeme) (state : State) (builder : Builder)
    (next : Option State)
    (after : Builder) : Prop where
  parts : builder.remaining = taken ++ after.remaining
  looked : taken = [] → state.isCalled = false
  known : ∀ called, next = some called → called.isCalled = true → taken = []
  awaits : ∀ marks root, Agrees next after marks →
    (Awaits state builder.frames (taken.map Lexeme.mark ++ marks) root ↔
      AwaitsNext next after marks root)

/--
A move that only looks at the first lexeme, which then begins all that may
follow.
-/
theorem takes_nothing
    {state called : State} {lexeme : Lexeme} {later : List Lexeme}
    {frames : List Frame}
    {before : Option Node} {nodes : Nat}
    (uncalled : state.isCalled = false)
    (isCalled : called.isCalled = true)
    (awaits : ∀ marks root,
      Awaits state frames (lexeme.mark :: marks) root ↔
        Awaits called frames (lexeme.mark :: marks) root) :
    Takes [] state ⟨lexeme :: later, frames, before, nodes⟩ (some called)
      ⟨lexeme :: later, frames, before, nodes⟩ := by
  refine ⟨rfl, fun _ => uncalled, fun _ _ _ => rfl, fun marks root agrees => ?_⟩
  rcases List.head?_eq_some_iff.mp (agrees isCalled) with ⟨others, rfl⟩
  exact awaits others root

/-- A move that takes lexemes to a state which looks at the next one itself. -/
theorem takes_uncalled
    {taken : List Lexeme} {state : State} {builder after : Builder}
    {next : Option State}
    (parts : builder.remaining = taken ++ after.remaining)
    (nonempty : taken ≠ [])
    (uncalled : ∀ called, next = some called → called.isCalled = false)
    (awaits : ∀ marks root,
      Awaits state builder.frames (taken.map Lexeme.mark ++ marks) root ↔
        AwaitsNext next after marks root) :
    Takes taken state builder next after where
  parts := parts
  looked empty := absurd empty nonempty
  known called isNext isCalled := by
    rw [uncalled called isNext] at isCalled
    cases isCalled
  awaits marks root _ := awaits marks root

/-- A move that takes the last lexeme of a node. -/
theorem takes_complete
    {lexeme : Lexeme} {later : List Lexeme} {state : State}
    {opened frames : List Frame}
    {before : Option Node} {count nodes : Nat} {node : Node}
    (awaits : ∀ marks root,
      Awaits state opened (lexeme.mark :: marks) root ↔
        Closes frames node marks root) :
    Takes [lexeme] state ⟨lexeme :: later, opened, before, count⟩
      (Builder.complete ⟨later, frames, before, nodes⟩ node).1
      (Builder.complete ⟨later, frames, before, nodes⟩ node).2 := by
  apply takes_uncalled
  · rw [Builder.complete_remaining]
    rfl
  · exact List.cons_ne_nil lexeme []
  · intro called
    exact not_isCalled_complete
  · intro marks root
    rw [awaitsNext_complete]
    exact awaits marks root

theorem Moves.exists_takes
    {limits : Limits} {state : State} {next : Option State}
    {builder after : Builder}
    (moves : Moves limits state builder next after)
    (suits : Suits state builder.frames) :
    ∃ taken, Takes taken state builder next after := by
  cases moves with
  | value seeks separated called noEnd =>
      rename_i next lexeme later frames node nodes
      refine ⟨[],
        takes_nothing ?_ (isCalled_of_stateAt called) fun marks root => ?_⟩
      · cases state <;> first | rfl | cases seeks
      · have notClosing : lexeme.token ≠ .bracketClose := by
          intro closing
          rw [closing] at called
          cases called
          exact absurd rfl noEnd
        rw [awaits_value_iff suits seeks notClosing,
          awaits_called_iff called noEnd, ← separated]
        rfl
  | lastElement closing =>
      exact ⟨[], takes_nothing rfl rfl fun marks root =>
        awaits_last_iff suits closing⟩
  | literal token nodeRoom =>
      refine ⟨_, takes_complete fun marks root => ?_⟩
      rw [Lexeme.mark, token]
      exact awaits_literal_iff
  | openArray token nodeRoom depthRoom =>
      rename_i lexeme later frames node nodes
      refine ⟨[lexeme],
        takes_uncalled rfl (List.cons_ne_nil _ _) ?_ fun marks root => ?_⟩
      · rintro called ⟨⟩
        rfl
      · rw [List.map_singleton, List.singleton_append, Lexeme.mark, token]
        exact awaits_openArray_iff
  | closeArray token separated =>
      refine ⟨_, takes_complete fun marks root => ?_⟩
      rw [Lexeme.mark, token, separated]
      exact awaits_closeArray_iff
  | openFunction opening separated token nodeRoom depthRoom =>
      rename_i brace lexeme name later frames node nodes
      refine ⟨[brace, lexeme],
        takes_uncalled rfl (List.cons_ne_nil _ _) ?_ fun marks root => ?_⟩
      · rintro called ⟨⟩
        rfl
      · rw [List.map_cons, List.map_singleton, Lexeme.mark, opening,
          Lexeme.mark, separated, token]
        exact awaits_openFunction_iff
  | closeFunction token separated =>
      refine ⟨_, takes_complete fun marks root => ?_⟩
      rw [Lexeme.mark, token, separated]
      exact awaits_closeFunction_iff

/-! ## Completing by closing -/

/-- The marks that close the open frames and nothing more. -/
def closing (frames : List Frame) : List Mark :=
  frames.map fun frame =>
    match frame with
    | .array _ => ⟨none, .bracketClose⟩
    | .function _ _ => ⟨none, .braceClose⟩

theorem exists_closes (frames : List Frame) (node : Node) :
    ∃ root, Closes frames node (closing frames) root := by
  induction frames generalizing node with
  | nil => exact ⟨node, rfl, rfl⟩
  | cons frame frames ih =>
      cases frame with
      | array elements =>
          rcases ih (.array (elements.reverse ++ [node])) with ⟨root, closes⟩
          exact ⟨root, [], closing frames, by rw [Node.elementMarks_nil]; rfl,
            closes⟩
      | function name argument =>
          rcases ih (.function name node) with ⟨root, closes⟩
          exact ⟨root, closing frames, rfl, closes⟩

/--
The marks that complete a tree from a state, with null and an empty name where
need be.
-/
def completion : State → List Frame → List Mark
  | .expression, frames | .literal, frames =>
      ⟨none, .literal .null⟩ :: closing frames
  | .arrayStart, frames =>
      ⟨none, .bracketOpen⟩ :: ⟨none, .bracketClose⟩ :: closing frames
  | .functionStart, frames =>
      ⟨none, .braceOpen⟩ :: ⟨none, .literal (.string "")⟩ ::
        ⟨some .colon, .literal .null⟩ ::
        ⟨none, .braceClose⟩ :: closing frames
  | .functionValue, frames => ⟨some .colon, .literal .null⟩ :: closing frames
  | .arrayValue, frames | .arrayEnd, frames | .functionEnd, frames =>
      closing frames

theorem writable_null : Token.Writable (.literal .null) :=
  ⟨_, .literal .null⟩

theorem writable_closing (frames : List Frame) :
    ∀ mark ∈ closing frames, mark.token.Writable := by
  intro mark member
  rcases List.mem_map.mp member with ⟨frame, _, rfl⟩
  cases frame with
  | array elements => exact ⟨_, .bracketClose⟩
  | function name argument => exact ⟨_, .braceClose⟩

/-- What completes a tree can be written. -/
theorem writable_completion (state : State) (frames : List Frame) :
    ∀ mark ∈ completion state frames, mark.token.Writable := by
  have closed := writable_closing frames
  cases state with
  | expression => exact List.forall_mem_cons.mpr ⟨writable_null, closed⟩
  | literal => exact List.forall_mem_cons.mpr ⟨writable_null, closed⟩
  | arrayStart =>
      simp only [completion, List.forall_mem_cons]
      exact ⟨⟨_, .bracketOpen⟩, ⟨_, .bracketClose⟩, closed⟩
  | arrayValue => exact closed
  | arrayEnd => exact closed
  | functionStart =>
      simp only [completion, List.forall_mem_cons]
      exact ⟨⟨_, .braceOpen⟩, ⟨_, .literal (.string .done)⟩, writable_null,
        ⟨_, .braceClose⟩, closed⟩
  | functionValue => exact List.forall_mem_cons.mpr ⟨writable_null, closed⟩
  | functionEnd => exact closed

theorem reads_of_closes
    {frames : List Frame} {node root : Node} {rest : List Mark}
    (closes : Closes frames node rest root) (separator : Option Separator) :
    Reads frames (node.marks separator ++ rest) root separator node :=
  ⟨rest, rfl, closes⟩

/-- Every state that suits its frames can be completed. -/
theorem exists_awaits_completion
    {state : State} {frames : List Frame} (suits : Suits state frames) :
    ∃ root, Awaits state frames (completion state frames) root := by
  cases state with
  | expression =>
      rcases exists_closes frames (.literal .null) with ⟨root, closes⟩
      refine ⟨root, .literal .null, ?_⟩
      simpa [completion] using reads_of_closes closes none
  | literal =>
      rcases exists_closes frames (.literal .null) with ⟨root, closes⟩
      exact ⟨root, awaits_literal_iff.mpr closes⟩
  | arrayStart =>
      rcases exists_closes frames (.array []) with ⟨root, closes⟩
      refine ⟨root, none, [], ?_⟩
      simpa [completion] using reads_of_closes closes none
  | arrayValue =>
      rcases suits with ⟨_, elements, below, rfl⟩
      rcases exists_closes below (.array elements.reverse) with ⟨root, closes⟩
      exact ⟨root,
        awaits_arrayValue_iff.mpr (Or.inl (awaits_closeArray_iff.mpr closes))⟩
  | arrayEnd =>
      rcases suits with ⟨_, elements, below, rfl⟩
      rcases exists_closes below (.array elements.reverse) with ⟨root, closes⟩
      exact ⟨root, awaits_closeArray_iff.mpr closes⟩
  | functionStart =>
      rcases exists_closes frames (.function "" (.literal .null)) with
          ⟨root, closes⟩
      refine ⟨root, none, "", .literal .null, ?_⟩
      simpa [completion] using reads_of_closes closes none
  | functionValue =>
      rcases exists_closes frames (.literal .null) with ⟨root, closes⟩
      refine ⟨root, .literal .null, ?_⟩
      simpa [completion] using reads_of_closes closes (some .colon)
  | functionEnd =>
      rcases suits with ⟨name, argument, below, rfl, _⟩
      rcases exists_closes below (.function name argument) with ⟨root, closes⟩
      exact ⟨root, awaits_closeFunction_iff.mpr closes⟩

/-- Behind an opening brace, a function can be completed. -/
theorem exists_awaits_brace
    {frames : List Frame} (unfilled : Unfilled frames)
    {brace : Mark} (opening : brace.token = .braceOpen) :
    ∃ marks root, (∀ mark ∈ marks, mark.token.Writable) ∧
      Awaits .functionStart frames (brace :: marks) root := by
  have suits : Suits .functionValue (.function "" none :: frames) :=
    ⟨unfilled_cons_function.mpr ⟨rfl, unfilled⟩, _, _, rfl⟩
  rcases exists_awaits_completion suits with ⟨root, awaits⟩
  refine ⟨⟨none, .literal (.string "")⟩ ::
    completion .functionValue (.function "" none :: frames), root, ?_, ?_⟩
  · exact List.forall_mem_cons.mpr ⟨⟨_, .literal (.string .done)⟩,
      writable_completion _ _⟩
  · rcases brace with ⟨separator, token⟩
    subst opening
    exact awaits_openFunction_iff.mpr awaits

end Criteria.Parser
