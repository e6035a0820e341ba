import Criteria.Proofs.Token.Extension
import Criteria.Proofs.Token.Fault

/-!
# Lexing across a seam

A text that goes on behind a blank is lexed like its two parts, one after the
other.  What the front part hands over is where it ends and a separator that
waits for a token; so the lexemes of the back part move by the length of the
front, and the first of them takes the separator that waits.

Three facts make up `lex_append_blank`: lexing does not depend on where a text
starts, a separator that waits goes to the first token and changes nothing
else unless another separator comes first, and the lexemes of the front part
stay as they are.
-/

namespace Criteria

/-! ## Moving lexemes -/

/-- A lexeme of a text that starts later by a distance. -/
def Lexeme.shift (distance : Nat) (lexeme : Lexeme) : Lexeme :=
  { lexeme with offset := distance + lexeme.offset }

/-- A separator of a text that starts later by a distance, with its offset. -/
def shiftPlace (distance : Nat) (found : Separator × Nat) : Separator × Nat :=
  (found.1, distance + found.2)

namespace TokenStream

/-- The stream of a text that starts later by a distance. -/
def shift (distance : Nat) (stream : TokenStream) : TokenStream where
  lexemes := stream.lexemes.map (Lexeme.shift distance)
  byteLength := distance + stream.byteLength
  trailing := stream.trailing.map (shiftPlace distance)

/--
The stream of a text behind a separator that waits for a token: it becomes the
separator of the first lexeme, or stays behind if there is none.
-/
def behind (waiting : Option (Separator × Nat)) (stream : TokenStream) :
    TokenStream :=
  match waiting, stream.lexemes with
  | none, _ => stream
  | some found, [] => { stream with trailing := some found }
  | some (separator, _), first :: later =>
      { stream with
        lexemes := { first with separator := some separator } :: later }

/-- A stream with lexemes in front of its own. -/
def prepend (lexemes : List Lexeme) (stream : TokenStream) : TokenStream :=
  { stream with lexemes := lexemes ++ stream.lexemes }

/--
The stream of a text in two parts, of which the later one starts at a distance
from the beginning.
-/
def join (earlier : TokenStream) (distance : Nat) (later : TokenStream) :
    TokenStream :=
  ((later.shift distance).behind earlier.trailing).prepend earlier.lexemes

end TokenStream

/-- The outcome of lexing a text that starts later by a distance. -/
def shiftOutcome (distance : Nat) :
    Except ConditionError TokenStream → Except ConditionError TokenStream
  | .ok stream => .ok (stream.shift distance)
  | .error (.lex offset fault) => .error (.lex (distance + offset) fault)
  | .error error => .error error

namespace Token

/-! ## Where a text starts -/

/-- Lexing fails in one way only, which is told with its offset. -/
theorem exists_fault_of_lexFrom
    {offset : Nat} {waiting : Option (Separator × Nat)} {text : List Char}
    {error : ConditionError}
    (fails : lexFrom offset waiting text = .error error) :
    ∃ place fault, error = .lex place fault := by
  rcases startsCharacter_of_lexFrom fails with ⟨behind, fault, rfl, _⟩
  exact ⟨offset + behind, fault, rfl⟩

/-- Lexing does not depend on where a text starts. -/
theorem lexFrom_shift
    (distance offset : Nat) (waiting : Option (Separator × Nat))
    (text : List Char) :
    lexFrom (distance + offset) (waiting.map (shiftPlace distance)) text =
      shiftOutcome distance (lexFrom offset waiting text) := by
  fun_induction lexFrom offset waiting text with
  | case1 offset waiting =>
      rw [lexFrom]
      rfl
  | case2 offset waiting character text blank ih =>
      rw [lexFrom_blank blank, ← ih, Nat.add_assoc]
  | case3 offset character text notBlank separator previous place isSeparator =>
      rw [← character_of_ofChar? isSeparator]
      exact lexFrom_secondSeparator _ _ _ _ _
  | case4 offset character text notBlank separator isSeparator ih =>
      rw [← character_of_ofChar? isSeparator, ← ih, ← Nat.add_assoc]
      exact lexFrom_separator _ _ _
  | case5 offset character text notBlank waiting notSeparator relative fault
    scan =>
      rw [lexFrom_fault (Bool.eq_false_iff.mpr notBlank) notSeparator _ _ scan,
        shiftOutcome, Nat.add_assoc]
  | case6 offset character text notBlank waiting notSeparator scanned scan ih =>
      rw [lexFrom_scanned (Bool.eq_false_iff.mpr notBlank) notSeparator _ _
        scan, Nat.add_assoc]
      rw [Option.map_none] at ih
      rw [ih]
      cases found : lexFrom (offset + scanned.width) none scanned.rest with
      | error error =>
          rcases exists_fault_of_lexFrom found with ⟨place, fault, rfl⟩
          rfl
      | ok later => cases waiting <;> rfl

/-! ## A separator that waits -/

/-- Behind blanks, a text begins with a separator. -/
def BeginsWithSeparator (text : List Char) : Prop :=
  ∃ blanks separator rest, IsBlanks blanks ∧
    text = blanks ++ Separator.character separator :: rest

theorem not_beginsWithSeparator
    {blanks rest : List Char} {first : Char} (isBlanks : IsBlanks blanks)
    (notBlank : isBlank first = false)
    (notSeparator : Separator.ofChar? first = none) :
    ¬ BeginsWithSeparator (blanks ++ first :: rest) := by
  rintro ⟨others, separator, behind, isOthers, split⟩
  have left := congrArg (List.dropWhile isBlank) split
  rw [dropWhile_append_of_stopsAt isBlanks (stopsAt_cons.mpr notBlank),
    dropWhile_append_of_stopsAt isOthers
      (stopsAt_cons.mpr (isBlank_character separator)), List.cons.injEq] at left
  rw [left.1, Separator.ofChar?_character] at notSeparator
  cases notSeparator

/--
A separator that waits goes to the first token, or stays behind if there is
none, unless another separator comes first.
-/
theorem lexFrom_behind
    {waiting : Option (Separator × Nat)} {text : List Char}
    (free : waiting = none ∨ ¬ BeginsWithSeparator text) (offset : Nat) :
    lexFrom offset waiting text =
      (lexFrom offset none text).map (TokenStream.behind waiting) := by
  cases waiting with
  | none => cases lexFrom offset none text <;> rfl
  | some found =>
      replace free := free.resolve_left (Option.some_ne_none found)
      induction text generalizing offset with
      | nil =>
          rw [lexFrom, lexFrom]
          rfl
      | cons character text ih =>
          cases blank : isBlank character with
          | true =>
              have later : ¬ BeginsWithSeparator text := by
                rintro ⟨blanks, separator, rest, isBlanks, rfl⟩
                refine free ⟨character :: blanks, separator, rest, ?_, rfl⟩
                exact List.forall_mem_cons.mpr ⟨blank, isBlanks⟩
              rw [lexFrom_blank blank, lexFrom_blank blank, ih _ later]
          | false =>
              have notSeparator : Separator.ofChar? character = none := by
                cases isSeparator : Separator.ofChar? character with
                | none => rfl
                | some separator =>
                    refine absurd ⟨[], separator, text, isBlanks_nil, ?_⟩ free
                    rw [character_of_ofChar? isSeparator]
                    rfl
              cases scan : scanToken (character :: text) with
              | error failed =>
                  rw [lexFrom_fault blank notSeparator _ _ scan,
                    lexFrom_fault blank notSeparator _ _ scan]
                  rfl
              | ok scanned =>
                  rw [lexFrom_scanned blank notSeparator _ _ scan,
                    lexFrom_scanned blank notSeparator _ _ scan]
                  cases lexFrom (offset + scanned.width) none scanned.rest <;>
                    rfl

/-! ## Going on behind a blank -/

/-- A text behind a blank is lexed behind what the text before it leaves. -/
theorem Lexed.lexFrom_append
    {offset : Nat} {front back : List Char} {earlier : TokenStream}
    (lexed : Lexed offset front earlier) (delimits : Delimits back) :
    lexFrom offset none (front ++ back) =
      (lexFrom (offset + byteLength front) earlier.trailing back).map
        (TokenStream.prepend earlier.lexemes) := by
  induction lexed with
  | finished isGap =>
      rw [lexFrom_gap isGap]
      generalize lexFrom _ _ back = outcome
      cases outcome <;> rfl
  | @token offset gap written rest separator token stream isGap spells ends
    later ih =>
      rw [List.append_assoc, List.append_assoc, lexFrom_gap isGap,
        lexFrom_written spells (endsBefore_append ends delimits), ih,
        byteLength_append, byteLength_append, map_fst_located,
        ← Nat.add_assoc, ← Nat.add_assoc]
      generalize lexFrom _ stream.trailing back = outcome
      cases outcome <;> rfl

end Token

open Token (BeginsWithSeparator IsBlanks lexFrom)

section

variable {front : String} {earlier : TokenStream} {blank : Char}

/-- The back part of a text starts where the front part and a blank end. -/
theorem lex_append_eq
    (lexes : lex front = .ok earlier) (isBlank : isBlank blank = true)
    (back : String) :
    lex (front ++ String.singleton blank ++ back) =
      (lexFrom (byteLength (front.toList ++ [blank])) earlier.trailing
        back.toList).map (TokenStream.prepend earlier.lexemes) := by
  have lexed := Token.lexFrom_eq_ok_iff.mp lexes
  have whole : (front ++ String.singleton blank ++ back).toList =
      front.toList ++ blank :: back.toList := by simp
  have blanks : IsBlanks [blank] := by
    intro character member
    rw [List.mem_singleton.mp member]
    exact isBlank
  rw [lex, whole, lexed.lexFrom_append (Token.delimits_blank isBlank _),
    Token.lexFrom_blank isBlank, byteLength_append, blanks.byteLength_eq,
    Nat.zero_add]
  rfl

/--
Lexing is compositional across a blank.  A separator at the beginning of the
back part is refused if the front part has left one behind.  Otherwise the
lexemes of the back part follow those of the front part, the first of them
behind the separator that was left; and a fault of the back part is the fault
of the whole.  All offsets of the back part count from where it starts.
-/
theorem lex_append_blank
    (lexes : lex front = .ok earlier) (isBlank : isBlank blank = true)
    (back : String) :
    (∀ previous place blanks separator rest,
      earlier.trailing = some (previous, place) → IsBlanks blanks →
      back.toList = blanks ++ Separator.character separator :: rest →
      lex (front ++ String.singleton blank ++ back) =
        .error (.lex (byteLength (front.toList ++ [blank]) + byteLength blanks)
          (.doubleSeparator separator previous))) ∧
    (earlier.trailing = none ∨ ¬ BeginsWithSeparator back.toList →
      (∀ later, lex back = .ok later →
        lex (front ++ String.singleton blank ++ back) =
          .ok (earlier.join (byteLength (front.toList ++ [blank])) later)) ∧
      ∀ error, lex back = .error error →
        ∃ offset fault, error = .lex offset fault ∧
          lex (front ++ String.singleton blank ++ back) =
            .error (.lex (byteLength (front.toList ++ [blank]) + offset)
              fault)) := by
  rw [lex_append_eq lexes isBlank]
  generalize byteLength (front.toList ++ [blank]) = distance
  have moved : lexFrom distance none back.toList =
      shiftOutcome distance (lex back) :=
    Token.lexFrom_shift distance 0 none back.toList
  constructor
  · intro previous place blanks separator rest waits isBlanks begins
    rw [waits, begins, Token.lexFrom_blanks isBlanks,
      Token.lexFrom_secondSeparator]
    rfl
  · intro free
    rw [Token.lexFrom_behind free, moved]
    constructor
    · intro later lexesBack
      rw [lexesBack]
      rfl
    · intro error failsBack
      rcases Token.exists_fault_of_lexFrom failsBack with ⟨offset, fault, rfl⟩
      refine ⟨offset, fault, rfl, ?_⟩
      rw [failsBack]
      rfl

/--
A comma left behind a string of two bytes is refused before another one, and
otherwise goes to the bracket behind the seam.
-/
theorem lex_append_blank_comma :
    lex "\"é\"," = .ok ⟨[⟨.literal (.string "é"), 0, none⟩], 5,
      some (.comma, 4)⟩ ∧
    isBlank ' ' = true ∧
    lex ("\"é\"," ++ String.singleton ' ' ++ " ,") =
      .error (.lex 7 (.doubleSeparator .comma .comma)) ∧
    ¬ BeginsWithSeparator " ]".toList ∧
    lex " ]" = .ok ⟨[⟨.bracketClose, 1, none⟩], 2, none⟩ ∧
    lex ("\"é\"," ++ String.singleton ' ' ++ " ]") =
      .ok ⟨[⟨.literal (.string "é"), 0, none⟩,
        ⟨.bracketClose, 7, some .comma⟩], 8, none⟩ := by
  have lexes : lex "\"é\"," = .ok ⟨[⟨.literal (.string "é"), 0, none⟩], 5,
      some (.comma, 4)⟩ := by
    have writes : StringLiteral.Writes ['é'] "é".toList :=
      .raw (by decide) (by decide) (by decide) .done
    exact Token.lexFrom_eq_ok_iff.mpr
      (.token (.blank Token.isBlanks_nil) (.literal (.string writes)) trivial
        (.finished (Token.isGap_separator .comma)))
  have lexesBack : lex " ]" = .ok ⟨[⟨.bracketClose, 1, none⟩], 2, none⟩ :=
    Token.lexFrom_eq_ok_iff.mpr
      (.token (.blank Token.isBlanks_space) .bracketClose trivial
        (.finished (.blank Token.isBlanks_nil)))
  have free : ¬ BeginsWithSeparator " ]".toList :=
    Token.not_beginsWithSeparator Token.isBlanks_space rfl rfl
  have seam := lex_append_blank lexes (rfl : isBlank ' ' = true)
  refine ⟨lexes, rfl, ?_, free, lexesBack, ?_⟩
  · exact (seam " ,").1 .comma 4 [' '] .comma [] rfl Token.isBlanks_space rfl
  · exact ((seam " ]").2 (Or.inr free)).1 _ lexesBack

end

end Criteria
