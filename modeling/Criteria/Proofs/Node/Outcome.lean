import Criteria.Proofs.Node.Run

/-!
# What a run says of its lexemes

Lexemes are parsed exactly when their marks are those of a tree within the
limits, and then that tree is found.  If they are not, the error tells why:
at the end of the lexemes they still begin a tree, and at an unexpected lexeme
they do not, although the lexemes before it do.
-/

namespace Criteria.Parser

section

variable {limits : Limits}

/-! ## What failures say -/

theorem Fails.remaining_of_unexpectedEnd
    {state : State} {builder : Builder} {wanted : Wanted}
    (fails : Fails limits state builder (.unexpectedEnd wanted)) :
    builder.remaining = [] ∨
      ∃ brace, builder.remaining = [brace] ∧ state = .functionStart ∧
        brace.token = .braceOpen := by
  cases fails with
  | ended => exact Or.inl rfl
  | unnamed opening => exact Or.inr ⟨_, rfl, rfl, opening⟩

theorem Fails.exists_unexpected
    {state : State} {builder : Builder} {offset : Nat} {wanted : Wanted}
    {found : Found}
    (fails : Fails limits state builder (.unexpected offset wanted found)) :
    ∃ before lexeme later, builder.remaining = before ++ lexeme :: later ∧
      lexeme.offset = offset ∧
      (before = [] ∨ ∃ brace, before = [brace] ∧ state = .functionStart ∧
        brace.token = .braceOpen) ∧
      ∀ marks root,
        ¬ Awaits state builder.frames
          ((before ++ [lexeme]).map Lexeme.mark ++ marks) root := by
  cases fails with
  | unexpected impossible =>
      rename_i lexeme later frames root nodes
      refine ⟨[], lexeme, later, rfl, rfl, Or.inl rfl,
        fun marks root awaits => ?_⟩
      exact impossible (admits_of_awaits awaits)
  | unexpectedName opening impossible =>
      rename_i brace lexeme later frames root nodes
      refine ⟨[brace], lexeme, later, rfl, rfl,
        Or.inr ⟨brace, rfl, rfl, opening⟩, fun marks root awaits => ?_⟩
      rcases name_of_awaits awaits with ⟨name, equal⟩
      exact impossible name equal

/-! ## Where a run ends -/

/-- The invariant of a run over lexemes: what it has taken, and its books. -/
def Invariant (limits : Limits) (lexemes : List Lexeme) (state : State)
    (builder : Builder) :
    Prop :=
  (∃ taken, Tracks lexemes taken state builder) ∧ Accounts limits builder ∧
    Thrifty lexemes.length builder

theorem ends_parse (limits : Limits) (lexemes : List Lexeme) :
    Ends limits (Invariant limits lexemes)
      (run limits .expression (start lexemes)) := by
  apply ends_run
  · rintro state builder ⟨⟨taken, tracks⟩, _, _⟩
    exact tracks.suits
  · rintro state builder next after ⟨⟨taken, tracks⟩, accounts, thrifty⟩ moves
    exact ⟨moves.tracks tracks, moves.accounts tracks.suits accounts,
      moves.thrifty thrifty⟩
  · refine ⟨⟨[], tracks_start lexemes⟩, accounts_start limits lexemes, ?_, ?_⟩
    · exact Nat.le_of_eq (Nat.zero_add _)
    · exact Nat.le_of_eq (Nat.zero_add _)

theorem exists_root_of_complete
    {builder : Builder} {node : Node}
    (last : (builder.complete node).1 = none) :
    ∃ root, (builder.complete node).2.root = some root := by
  unfold Builder.complete at last ⊢
  split at last
  · exact ⟨node, rfl⟩
  · cases last
  · cases last

theorem Moves.exists_root
    {state : State} {builder after : Builder}
    (moves : Moves limits state builder none after) :
    ∃ root, after.root = some root := by
  generalize found : none = next at moves
  cases moves with
  | value => cases found
  | lastElement => cases found
  | literal => exact exists_root_of_complete found.symm
  | openArray => cases found
  | closeArray => exact exists_root_of_complete found.symm
  | openFunction => cases found
  | closeFunction => exact exists_root_of_complete found.symm

/--
A run that completes a root has taken the marks of that root and no others.
-/
theorem run_eq_ok
    {lexemes : List Lexeme} {after : Builder}
    (runs : run limits .expression (start lexemes) = .ok after) :
    ∃ taken root, lexemes = taken ++ after.remaining ∧ after.root = some root ∧
      Within limits root ∧
      ∀ marks other, taken.map Lexeme.mark ++ marks = other.marks none ↔
        marks = [] ∧ root = other := by
  have ends := ends_parse limits lexemes
  rw [runs] at ends
  rcases ends with ⟨state, builder, ⟨⟨taken, tracks⟩, accounts, _⟩, moves⟩
  rcases moves.exists_takes tracks.suits with ⟨more, takes⟩
  rcases moves.exists_root with ⟨root, isRoot⟩
  have within := moves.accounts tracks.suits accounts root isRoot
  refine ⟨taken ++ more, root, ?_, isRoot, within.2, fun marks other => ?_⟩
  · rw [tracks.parts, takes.parts, List.append_assoc]
  · rw [tracks.awaits_next takes trivial, AwaitsNext, isRoot, Option.some.injEq]

/-- A run that fails does so where its invariant holds. -/
theorem run_eq_error
    {lexemes : List Lexeme} {error : ConditionError}
    (runs : run limits .expression (start lexemes) = .error error) :
    ∃ taken state builder, Tracks lexemes taken state builder ∧
      Accounts limits builder ∧
      Thrifty lexemes.length builder ∧ Fails limits state builder error := by
  have ends := ends_parse limits lexemes
  rw [runs] at ends
  rcases ends with ⟨state, builder, ⟨⟨taken, tracks⟩, accounts, thrifty⟩, fails⟩
  exact ⟨taken, state, builder, tracks, accounts, thrifty, fails⟩

/-- Whether lexemes are the marks of a tree is up to those still to come. -/
theorem Tracks.awaits_remaining_iff
    {lexemes taken : List Lexeme} {state : State} {builder : Builder}
    {root : Node}
    (tracks : Tracks lexemes taken state builder) :
    lexemes.map Lexeme.mark = root.marks none ↔
      Awaits state builder.frames (builder.remaining.map Lexeme.mark) root := by
  have agrees :
      Agrees (some state) builder (builder.remaining.map Lexeme.mark) := by
    intro _
    exact List.head?_map
  rw [← tracks.awaits _ _ agrees, ← List.map_append, ← tracks.parts]

/-- What completes some of the lexemes still to come is awaited behind them. -/
theorem Tracks.awaits_front_iff
    {lexemes taken front later : List Lexeme} {state : State}
    {builder : Builder}
    (tracks : Tracks lexemes taken state builder)
    (split : builder.remaining = front ++ later)
    (nonempty : front ≠ [])
    {marks : List Mark} {root : Node} :
    (taken ++ front).map Lexeme.mark ++ marks = root.marks none ↔
      Awaits state builder.frames (front.map Lexeme.mark ++ marks) root := by
  have agrees :
      Agrees (some state) builder (front.map Lexeme.mark ++ marks) := by
    intro _
    cases front with
    | nil => exact absurd rfl nonempty
    | cons lexeme front =>
        rw [split]
        rfl
  rw [← tracks.awaits _ _ agrees, List.map_append, List.append_assoc]

/--
Where the machine fails, the lexemes are not the marks of a tree within the
limits.
-/
theorem Fails.not_within_of_awaits
    {state : State} {builder : Builder} {error : ConditionError} {root : Node}
    (fails : Fails limits state builder error)
    (suits : Suits state builder.frames)
    (accounts : Accounts limits builder)
    (awaits : Awaits state builder.frames (builder.remaining.map Lexeme.mark)
      root) :
    ¬ Within limits root := by
  cases fails with
  | nodes begins nonempty full =>
      exact (Fails.nodes begins nonempty full).not_within suits accounts awaits
  | depth opens nonempty full =>
      exact (Fails.depth opens nonempty full).not_within suits accounts awaits
  | ended => exact absurd awaits not_awaits_nil
  | unnamed opening => exact absurd awaits not_awaits_brace
  | unexpected impossible => exact absurd (admits_of_awaits awaits) impossible
  | unexpectedName opening impossible =>
      rcases name_of_awaits awaits with ⟨name, equal⟩
      exact absurd equal (impossible name)

/-! ## Parsing a stream of lexemes -/

theorem parseStream_eq
    (limits : Limits) (stream : TokenStream) :
    parseStream limits stream =
      match run limits .expression (start stream.lexemes) with
      | .error error => .error error
      | .ok after => finish after stream.trailing := by
  rw [parseStream]
  cases run limits .expression (start stream.lexemes) <;> rfl

/--
Lexemes are parsed exactly when their marks are those of a tree within the
limits.
-/
theorem parseStream_eq_ok_iff {stream : TokenStream} {root : Node} :
    parseStream limits stream = .ok root ↔
      stream.trailing = none ∧
        stream.lexemes.map Lexeme.mark = root.marks none ∧
        Within limits root := by
  rw [parseStream_eq]
  cases runs : run limits .expression (start stream.lexemes) with
  | error error =>
      constructor
      · intro found
        cases found
      · rintro ⟨_, equal, within⟩
        rcases run_eq_error runs with
            ⟨taken, state, builder, tracks, accounts, _, fails⟩
        have awaits := tracks.awaits_remaining_iff.mp equal
        exact absurd within
          (fails.not_within_of_awaits tracks.suits accounts awaits)
  | ok after =>
      rcases run_eq_ok runs with
          ⟨taken, found, parts, isRoot, within, completes⟩
      rcases after with ⟨remaining, frames, _, nodes⟩
      simp only at parts isRoot
      subst isRoot
      constructor
      · intro finished
        cases remaining with
        | cons lexeme later => cases finished
        | nil =>
            cases trailing : stream.trailing with
            | some separator =>
                rw [trailing] at finished
                cases finished
            | none =>
                rw [trailing] at finished
                cases finished
                rw [List.append_nil] at parts
                have whole := (completes [] root).mpr ⟨rfl, rfl⟩
                rw [List.append_nil, ← parts] at whole
                exact ⟨rfl, whole, within⟩
      · rintro ⟨noTrailing, equal, _⟩
        rw [parts, List.map_append] at equal
        rcases (completes _ _).mp equal with ⟨nothing, rfl⟩
        rw [List.map_eq_nil_iff] at nothing
        subst nothing
        rw [noTrailing]
        rfl

/--
Behind the opening brace of a function as well, what has been taken can be
completed.
-/
theorem Tracks.completable_brace
    {lexemes taken later : List Lexeme} {brace : Lexeme} {builder : Builder}
    (tracks : Tracks lexemes taken .functionStart builder)
    (split : builder.remaining = brace :: later)
    (opening : brace.token = .braceOpen) :
    Completable ((taken ++ [brace]).map Lexeme.mark) := by
  have opens : brace.mark.token = .braceOpen := opening
  rcases exists_awaits_brace tracks.suits opens with
      ⟨marks, root, writable, awaits⟩
  exact ⟨marks, root,
    (tracks.awaits_front_iff split (List.cons_ne_nil _ _)).mpr awaits, writable⟩

/--
At an unexpected end the lexemes are not the marks of a tree, but they can be
completed.
-/
theorem parseStream_eq_unexpectedEnd
    {stream : TokenStream} {wanted : Wanted}
    (failed : parseStream limits stream = .error (.unexpectedEnd wanted)) :
    Completable (stream.lexemes.map Lexeme.mark) ∧
      ∀ root : Node, stream.lexemes.map Lexeme.mark ≠ root.marks none := by
  rw [parseStream_eq] at failed
  cases runs : run limits .expression (start stream.lexemes) with
  | error error =>
      rw [runs] at failed
      cases failed
      rcases run_eq_error runs with ⟨taken, state, builder, tracks, _, _, fails⟩
      have parts := tracks.parts
      rcases fails.remaining_of_unexpectedEnd with nothing |
        ⟨brace, single, rfl, opening⟩
      · rw [nothing, List.append_nil] at parts
        constructor
        · rw [parts]
          exact tracks.completable
        · intro root equal
          have awaits := tracks.awaits_remaining_iff.mp equal
          rw [nothing] at awaits
          exact not_awaits_nil awaits
      · rw [single] at parts
        constructor
        · rw [parts]
          exact tracks.completable_brace single opening
        · intro root equal
          have awaits := tracks.awaits_remaining_iff.mp equal
          rw [single] at awaits
          exact not_awaits_brace awaits
  | ok after =>
      rcases run_eq_ok runs with
          ⟨taken, found, parts, isRoot, within, completes⟩
      rcases after with ⟨remaining, frames, _, nodes⟩
      simp only at isRoot
      subst isRoot
      rw [runs] at failed
      cases remaining with
      | cons lexeme later => cases failed
      | nil =>
          cases trailing : stream.trailing <;> rw [trailing] at failed <;>
            cases failed

/--
At an unexpected lexeme the lexemes before it can be completed, but not together
with it.
-/
theorem parseStream_eq_unexpected
    {stream : TokenStream} {offset : Nat} {wanted : Wanted} {found : Found}
    (noTrailing : stream.trailing = none)
    (failed : parseStream limits stream =
      .error (.unexpected offset wanted found)) :
    ∃ before lexeme later, stream.lexemes = before ++ lexeme :: later ∧
      lexeme.offset = offset ∧
      Completable (before.map Lexeme.mark) ∧
        ¬ Viable ((before ++ [lexeme]).map Lexeme.mark) := by
  rw [parseStream_eq] at failed
  cases runs : run limits .expression (start stream.lexemes) with
  | error error =>
      rw [runs] at failed
      cases failed
      rcases run_eq_error runs with ⟨taken, state, builder, tracks, _, _, fails⟩
      rcases fails.exists_unexpected with
          ⟨before, lexeme, later, split, isOffset, known, impossible⟩
      refine ⟨taken ++ before, lexeme, later, ?_, isOffset, ?_, ?_⟩
      · rw [tracks.parts, split, List.append_assoc]
      · rcases known with rfl | ⟨brace, rfl, rfl, opening⟩
        · rw [List.append_nil]
          exact tracks.completable
        · exact tracks.completable_brace split opening
      · rintro ⟨marks, root, equal⟩
        have front : builder.remaining = (before ++ [lexeme]) ++ later := by
          rw [split, List.append_assoc, List.singleton_append]
        rw [List.append_assoc, tracks.awaits_front_iff front (by simp)] at equal
        exact impossible marks root equal
  | ok after =>
      rcases run_eq_ok runs with ⟨taken, root, parts, isRoot, within, completes⟩
      rcases after with ⟨remaining, frames, _, nodes⟩
      simp only at parts isRoot
      subst isRoot
      rw [runs, noTrailing] at failed
      cases remaining with
      | nil => cases failed
      | cons lexeme later =>
          cases failed
          refine ⟨taken, lexeme, later, parts, rfl, ?_, ?_⟩
          · exact ⟨[], root, (completes [] root).mpr ⟨rfl, rfl⟩,
              fun mark member => by cases member⟩
          · rintro ⟨marks, other, equal⟩
            rw [List.map_append, List.append_assoc] at equal
            cases ((completes _ _).mp equal).1

/-- Limits that the number of lexemes does not exceed are never exceeded. -/
theorem parseStream_ne_limitExceeded
    {stream : TokenStream} {limit : Limit} {maximum : Nat}
    (depthRoom : stream.lexemes.length ≤ limits.maxDepth)
    (nodeRoom : stream.lexemes.length ≤ limits.maxNodes) :
    parseStream limits stream ≠ .error (.limitExceeded limit maximum) := by
  intro failed
  rw [parseStream_eq] at failed
  cases runs : run limits .expression (start stream.lexemes) with
  | error error =>
      rw [runs] at failed
      cases failed
      rcases run_eq_error runs with
          ⟨taken, state, builder, tracks, _, ⟨few, low⟩, fails⟩
      cases fails with
      | nodes begins nonempty full =>
          have positive := List.length_pos_iff.mpr nonempty
          omega
      | depth opens nonempty full =>
          have positive := List.length_pos_iff.mpr nonempty
          omega
  | ok after =>
      rw [runs] at failed
      simp only [finish] at failed
      split at failed <;> cases failed

/-- An error of parsing is one of three kinds. -/
theorem parseStream_eq_error
    {stream : TokenStream} {error : ConditionError}
    (failed : parseStream limits stream = .error error) :
    (∃ offset wanted found, error = .unexpected offset wanted found) ∨
      (∃ wanted, error = .unexpectedEnd wanted) ∨
        ∃ limit maximum, error = .limitExceeded limit maximum := by
  rw [parseStream_eq] at failed
  cases runs : run limits .expression (start stream.lexemes) with
  | error error =>
      rw [runs] at failed
      cases failed
      rcases run_eq_error runs with ⟨taken, state, builder, _, _, _, fails⟩
      cases fails with
      | nodes => exact Or.inr (Or.inr ⟨_, _, rfl⟩)
      | depth => exact Or.inr (Or.inr ⟨_, _, rfl⟩)
      | ended => exact Or.inr (Or.inl ⟨_, rfl⟩)
      | unnamed => exact Or.inr (Or.inl ⟨_, rfl⟩)
      | unexpected => exact Or.inl ⟨_, _, _, rfl⟩
      | unexpectedName => exact Or.inl ⟨_, _, _, rfl⟩
  | ok after =>
      rw [runs] at failed
      simp only [finish] at failed
      split at failed
      · cases failed
        exact Or.inl ⟨_, _, _, rfl⟩
      · cases failed
        exact Or.inl ⟨_, _, _, rfl⟩
      · cases failed
        exact Or.inr (Or.inl ⟨_, rfl⟩)
      · cases failed

end

end Criteria.Parser
