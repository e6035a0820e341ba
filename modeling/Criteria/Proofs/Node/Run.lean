import Criteria.Proofs.Node.Accounting

/-!
# Runs of the machine

A run is a sequence of moves that ends with the one that completes the root,
or with a failure; what every move keeps therefore holds where a run ends.
While the machine runs, the lexemes that it has taken begin some tree, and
what completes them to a tree is what the state awaits.
-/

namespace Criteria.Parser

section

variable {limits : Limits}

/-! ## What every move keeps -/

/--
Where a run ends: with a move that completes the root or with a failure, and
in a state in which an invariant still holds.
-/
def Ends (limits : Limits) (invariant : State → Builder → Prop) :
    Except ConditionError Builder → Prop
  | .ok after =>
      ∃ state builder, invariant state builder ∧
        Moves limits state builder none after
  | .error error =>
      ∃ state builder, invariant state builder ∧
        Fails limits state builder error

/-- What every move keeps holds where a run ends. -/
theorem ends_run
    {invariant : State → Builder → Prop}
    (suits : ∀ {state builder}, invariant state builder →
      Suits state builder.frames)
    (keeps : ∀ {state builder next after}, invariant state builder →
      Moves limits state builder (some next) after → invariant next after)
    {state : State} {builder : Builder} (holds : invariant state builder) :
    Ends limits invariant (run limits state builder) := by
  fun_induction run limits state builder with
  | case1 state builder error stepped =>
      exact ⟨state, builder, holds, fails_of_step (suits holds) stepped⟩
  | case2 state builder after stepped =>
      exact ⟨state, builder, holds, moves_of_step (suits holds) stepped⟩
  | case3 state builder next after stepped ih =>
      exact ih (keeps holds (moves_of_step (suits holds) stepped))

/-! ## Sentences and what begins them -/

/-- Marks that begin the marks of a tree. -/
def Viable (marks : List Mark) : Prop :=
  ∃ later, ∃ root : Node, marks ++ later = root.marks none

/--
Marks that can be completed to the marks of a tree by marks that can be written.
-/
def Completable (marks : List Mark) : Prop :=
  ∃ later, ∃ root : Node, marks ++ later = root.marks none ∧
    ∀ mark ∈ later, mark.token.Writable

/--
What has been taken from lexemes can be completed, and what completes it is
awaited.
-/
structure Tracks (lexemes taken : List Lexeme) (state : State)
    (builder : Builder) : Prop where
  parts : lexemes = taken ++ builder.remaining
  suits : Suits state builder.frames
  completable : Completable (taken.map Lexeme.mark)
  awaits : ∀ marks root, Agrees (some state) builder marks →
    (taken.map Lexeme.mark ++ marks = root.marks none ↔
      Awaits state builder.frames marks root)

/-- Before the first step nothing has been taken, and a tree is awaited. -/
theorem tracks_start (lexemes : List Lexeme) :
    Tracks lexemes [] .expression (start lexemes) := by
  have awaits (marks : List Mark) (root : Node) :
      marks = root.marks none ↔ Awaits .expression [] marks root := by
    constructor
    · rintro rfl
      exact ⟨root, [], (List.append_nil _).symm, rfl, rfl⟩
    · rintro ⟨node, rest, equal, rfl, rfl⟩
      rw [equal, List.append_nil]
  refine ⟨rfl, ?_, ?_, fun marks root _ => awaits marks root⟩
  · intro name argument member
    cases member
  · refine ⟨[⟨none, .literal .null⟩], .literal .null, by simp, ?_⟩
    intro mark member
    rw [List.mem_singleton.mp member]
    exact writable_null

/--
Marks behind the lexemes that a move takes agree with what has been looked at.
-/
theorem Takes.agrees
    {taken : List Lexeme} {state : State} {next : Option State}
    {builder after : Builder}
    (takes : Takes taken state builder next after) (marks : List Mark) :
    Agrees (some state) builder (taken.map Lexeme.mark ++ marks) := by
  intro called
  cases taken with
  | nil =>
      rw [takes.looked rfl] at called
      cases called
  | cons lexeme taken =>
      rw [takes.parts]
      rfl

/--
Together with what was taken before, what a move takes is completed by what
comes next.
-/
theorem Tracks.awaits_next
    {lexemes taken more : List Lexeme} {state : State} {next : Option State}
    {builder after : Builder}
    (tracks : Tracks lexemes taken state builder)
    (takes : Takes more state builder next after)
    {marks : List Mark} {root : Node} (agrees : Agrees next after marks) :
    (taken ++ more).map Lexeme.mark ++ marks = root.marks none ↔
      AwaitsNext next after marks root := by
  rw [List.map_append, List.append_assoc,
    tracks.awaits _ _ (takes.agrees marks)]
  exact takes.awaits marks root agrees

/-- Every move keeps the invariant of a run. -/
theorem Moves.tracks
    {lexemes taken : List Lexeme} {state next : State} {builder after : Builder}
    (moves : Moves limits state builder (some next) after)
    (tracks : Tracks lexemes taken state builder) :
    ∃ taken, Tracks lexemes taken next after := by
  rcases moves.exists_takes tracks.suits with ⟨more, takes⟩
  have suits := moves.suits tracks.suits
  refine ⟨taken ++ more, ?_, suits, ?_,
    fun marks root => tracks.awaits_next takes⟩
  · rw [tracks.parts, takes.parts, List.append_assoc]
  · cases called : next.isCalled with
    | true =>
        rw [takes.known next rfl called, List.append_nil]
        exact tracks.completable
    | false =>
        rcases exists_awaits_completion suits with ⟨root, awaits⟩
        have free :
            Agrees (some next) after (completion next after.frames) := by
          intro isCalled
          rw [called] at isCalled
          cases isCalled
        exact ⟨completion next after.frames, root,
          (tracks.awaits_next takes free).mpr awaits,
          writable_completion next after.frames⟩

/-! ## The books of a run -/

theorem accounts_start (limits : Limits) (lexemes : List Lexeme) :
    Accounts limits (start lexemes) :=
  ⟨rfl, Nat.zero_le _, trivial⟩

/--
Neither the nodes counted nor the open frames outnumber the lexemes taken from a
total.
-/
def Thrifty (total : Nat) (builder : Builder) : Prop :=
  builder.nodes + builder.remaining.length ≤ total ∧
    builder.frames.length + builder.remaining.length ≤ total

theorem thrifty_complete
    {total : Nat} {remaining : List Lexeme} {frames : List Frame}
    {root : Option Node}
    {nodes : Nat} {node : Node}
    (thrifty : Thrifty total ⟨remaining, frames, root, nodes⟩) :
    Thrifty total
      (Builder.complete ⟨remaining, frames, root, nodes⟩ node).2 := by
  cases frames with
  | nil => exact thrifty
  | cons frame frames => cases frame <;> exact thrifty

/--
Every move takes at least as many lexemes as it counts nodes or opens frames.
-/
theorem Moves.thrifty
    {total : Nat} {state : State} {next : Option State}
    {builder after : Builder}
    (moves : Moves limits state builder next after)
    (thrifty : Thrifty total builder) :
    Thrifty total after := by
  cases moves with
  | value => exact thrifty
  | lastElement => exact thrifty
  | literal =>
      apply thrifty_complete
      simp only [Thrifty, List.length_cons] at thrifty ⊢
      omega
  | openArray =>
      simp only [Thrifty, List.length_cons] at thrifty ⊢
      omega
  | closeArray =>
      apply thrifty_complete
      simp only [Thrifty, List.length_cons] at thrifty ⊢
      omega
  | openFunction =>
      simp only [Thrifty, List.length_cons] at thrifty ⊢
      omega
  | closeFunction =>
      apply thrifty_complete
      simp only [Thrifty, List.length_cons] at thrifty ⊢
      omega

end

end Criteria.Parser
