import Criteria.Proofs.Text.Slice
import Criteria.Proofs.Token.Extension
import Criteria.Proofs.Token.Fault

/-!
# Offsets of lexemes

The offsets of the lexemes of a text take it apart without a gap or an overlap.
Every lexeme starts at a boundary between characters and further on than the
one before it.  Its token is written from there on, and what is left up to the
next lexeme is white space and the separator that this one records, if it
records any.  The slice of the text from one lexeme to the next is itself a text
of that one token.

`Tiles` collects these facts about a stream of lexemes and the text it came
from.  They are proved along the way in which a text is taken apart into gaps
and written tokens.
-/

namespace Criteria

open Token (IsBlanks IsGap Lexed located)

namespace TokenStream

/--
Where the token with an index starts; behind the last one, where the text ends.
-/
def placeOf (stream : TokenStream) (index : Nat) : Nat :=
  match stream.lexemes[index]? with
  | some lexeme => lexeme.offset
  | none => stream.byteLength

/--
The separator in front of the token with an index; behind the last one, the
trailing separator.
-/
def separatorBefore (stream : TokenStream) (index : Nat) : Option Separator :=
  match stream.lexemes[index]? with
  | some lexeme => lexeme.separator
  | none => stream.trailing.map Prod.fst

theorem separatorBefore_finished
    (start length : Nat) (gap : List Char) (separator : Option Separator)
    (index : Nat) :
    (⟨[], length, located start gap separator⟩ :
      TokenStream).separatorBefore index = separator :=
  Token.map_fst_located start gap separator

/--
A lexeme stands in a text, and the next one starts at an offset behind a
separator: the token is written from its offset on, up to a boundary, and a gap
with that separator follows.
-/
def Stands (text : String) (lexeme : Lexeme) (next : Nat)
    (separator : Option Separator) : Prop :=
  ∃ stop, IsBoundary text stop ∧ lexeme.offset < stop ∧ stop ≤ next ∧
    lexeme.token.Spells (slice text lexeme.offset stop).toList ∧
    IsGap (slice text stop next).toList separator

/-- A slice of a text is lexed into a token alone, which starts it. -/
def LexesAlone (text : String) (start stop : Nat) (token : Token) : Prop :=
  ∃ part, lex (slice text start stop) = .ok part ∧
    part.lexemes = [⟨token, 0, none⟩]

/-- The lexemes of a stream tile a text from an offset on. -/
structure Tiles (stream : TokenStream) (text : String) (start : Nat) :
    Prop where
  /-- The stream ends where the text does. -/
  whole : stream.byteLength = text.utf8ByteSize
  /-- Every lexeme starts further on than the one before it. -/
  increasing : (stream.lexemes.map Lexeme.offset).Pairwise (· < ·)
  /-- Every lexeme starts at a boundary in front of the end. -/
  starts : ∀ lexeme ∈ stream.lexemes, start ≤ lexeme.offset ∧
    IsBoundary text lexeme.offset ∧ lexeme.offset < stream.byteLength
  /-- A gap leads up to the first lexeme. -/
  before : IsGap (slice text start (stream.placeOf 0)).toList
    (stream.separatorBefore 0)
  /-- Between a token and the next one there is a gap. -/
  stands : ∀ index lexeme, stream.lexemes[index]? = some lexeme →
    Stands text lexeme (stream.placeOf (index + 1))
      (stream.separatorBefore (index + 1))
  /-- From one lexeme to the next there is one token. -/
  alone : ∀ index lexeme, stream.lexemes[index]? = some lexeme →
    LexesAlone text lexeme.offset (stream.placeOf (index + 1)) lexeme.token
  /-- A trailing separator stands at its offset, with blanks behind it. -/
  dangling : ∀ separator place, stream.trailing = some (separator, place) →
    slice text place (place + 1) = String.singleton separator.character ∧
      IsBlanks (slice text (place + 1) stream.byteLength).toList

end TokenStream

namespace Token

open TokenStream (Stands LexesAlone)

theorem endsBefore_of_append
    {token : Token} {rest behind : List Char}
    (ends : token.EndsBefore (rest ++ behind)) :
    token.EndsBefore rest := by
  cases rest with
  | nil => exact delimits_nil token
  | cons character rest =>
      cases token with
      | literal value => cases value <;> exact ends
      | bracketOpen => trivial
      | bracketClose => trivial
      | braceOpen => trivial
      | braceClose => trivial

/-- A written token takes at least one byte. -/
theorem Spells.byteLength_pos {token : Token} {written : List Char}
    (spells : token.Spells written) :
    0 < byteLength written := by
  rcases spells.exists_cons with ⟨first, others, rfl, _, _⟩
  exact Nat.lt_of_lt_of_le first.utf8Size_pos (Nat.le_add_right _ _)

/-- A text of tokens begins with the gap that its stream says it does. -/
theorem Lexed.exists_gap
    {start : Nat} {text : List Char} {stream : TokenStream}
    (lexed : Lexed start text stream) :
    ∃ gap rest, text = gap ++ rest ∧ IsGap gap (stream.separatorBefore 0) ∧
      stream.placeOf 0 = start + byteLength gap := by
  cases lexed with
  | finished isGap =>
      refine ⟨_, [], (List.append_nil _).symm, ?_, rfl⟩
      rwa [TokenStream.separatorBefore_finished]
  | token isGap _ _ _ => exact ⟨_, _, rfl, isGap, rfl⟩

section

variable {text : String} {start : Nat} {front gap written rest : List Char}
variable {separator : Option Separator}

/-! ## A token and the gap behind it -/

section

variable {behind more : List Char} {token : Token} {next : Nat}
variable {found : Option Separator}
variable (split : text.toList = front ++ (written ++ (behind ++ more)))
variable (reached : start = byteLength front)
variable (next_eq : next = start + byteLength (written ++ behind))
variable (spells : token.Spells written) (isGap : IsGap behind found)

include split reached next_eq spells isGap

theorem stands_of_split (separator : Option Separator) :
    Stands text ⟨token, start, separator⟩ next found := by
  have nonempty := spells.byteLength_pos
  have atGap : text.toList = (front ++ written) ++ (behind ++ more) := by
    rw [split, List.append_assoc]
  have gapPlace : start + byteLength written = byteLength (front ++ written) :=
    by rw [byteLength_append, reached]
  have gapEnd : next = start + byteLength written + byteLength behind := by
    rw [next_eq, byteLength_append, Nat.add_assoc]
  refine ⟨start + byteLength written, isBoundary_of_split atGap gapPlace,
    Nat.lt_add_of_pos_right nonempty, ?_, ?_, ?_⟩
  · exact gapEnd ▸ Nat.le_add_right _ _
  · rwa [toList_slice split reached rfl]
  · rwa [toList_slice atGap gapPlace gapEnd]

theorem lexesAlone_of_split (ends : token.EndsBefore behind) :
    LexesAlone text start next token := by
  have together : text.toList = front ++ ((written ++ behind) ++ more) := by
    rw [split, List.append_assoc written]
  have lexed : Lexed 0 ([] ++ (written ++ behind)) _ :=
    .token (.blank isBlanks_nil) spells ends (.finished isGap)
  rw [LexesAlone, slice_eq together reached next_eq, lex,
    String.toList_ofList]
  exact ⟨_, lexFrom_eq_ok_iff.mpr lexed, rfl⟩

end

/-! ## Tiling from an offset on -/

/-- A separator with blanks behind it is found at its offset. -/
theorem slice_separator
    {before after : List Char} {separator : Separator}
    (split : text.toList = front ++ (before ++ separator.character :: after))
    (reached : start = byteLength front) :
    slice text (start + byteLength before) (start + byteLength before + 1) =
        String.singleton separator.character ∧
      (slice text (start + byteLength before + 1) text.utf8ByteSize).toList =
        after := by
  have size : byteLength [separator.character] = 1 := by
    rw [byteLength_cons, utf8Size_character, byteLength_nil]
  have inMiddle : text.toList =
      (front ++ before) ++ ([separator.character] ++ after) := by
    rw [split, List.append_assoc, List.singleton_append]
  have atEnd : text.toList =
      (front ++ before ++ [separator.character]) ++ (after ++ []) := by
    rw [inMiddle, List.append_nil, List.append_assoc (front ++ before)]
  have place : start + byteLength before = byteLength (front ++ before) := by
    rw [byteLength_append, reached]
  constructor
  · exact slice_eq inMiddle place (by rw [size])
  · refine toList_slice atEnd ?_ ?_
    · rw [byteLength_append _ [_], size, place]
    · rw [← byteLength_toList, inMiddle, byteLength_append (front ++ before),
        byteLength_append [_], size, place, Nat.add_assoc]

/-- A text without tokens is tiled by nothing. -/
theorem tiles_finished
    (split : text.toList = front ++ gap) (reached : start = byteLength front)
    (isGap : IsGap gap separator) :
    (⟨[], start + byteLength gap, located start gap separator⟩ :
      TokenStream).Tiles text start where
  whole := by rw [← byteLength_toList, split, byteLength_append, reached]
  increasing := .nil
  starts := nofun
  before := by
    have inMiddle : text.toList = front ++ (gap ++ []) := by
      rw [List.append_nil, split]
    have found : (slice text start (start + byteLength gap)).toList = gap :=
      toList_slice inMiddle reached rfl
    rw [TokenStream.separatorBefore_finished]
    exact found.symm ▸ isGap
  stands := nofun
  alone := nofun
  dangling := by
    intro found place trails
    have whole : start + byteLength gap = text.utf8ByteSize := by
      rw [← byteLength_toList, split, byteLength_append, reached]
    rw [whole]
    cases isGap with
    | blank => cases trails
    | separated beforeBlank afterBlank =>
        rw [located, takeWhile_isBlank beforeBlank] at trails
        cases trails
        rcases slice_separator split reached with ⟨atPlace, behind⟩
        exact ⟨atPlace, behind.symm ▸ afterBlank⟩

/-- A gap and a token in front of a tiled text belong to the tiles. -/
theorem tiles_token
    {token : Token} {stream : TokenStream}
    (split : text.toList = front ++ (gap ++ (written ++ rest)))
    (reached : start = byteLength front)
    (isGap : IsGap gap separator)
    (spells : token.Spells written) (ends : token.EndsBefore rest)
    (lexed : Lexed (start + byteLength gap + byteLength written) rest stream)
    (later :
      stream.Tiles text (start + byteLength gap + byteLength written)) :
    ({ stream with
        lexemes :=
          ⟨token, start + byteLength gap, separator⟩ :: stream.lexemes } :
      TokenStream).Tiles text start := by
  rcases lexed.exists_gap with ⟨behind, more, rfl, behindGap, next⟩
  have nonempty := spells.byteLength_pos
  have atToken : text.toList =
      (front ++ gap) ++ (written ++ (behind ++ more)) := by
    rw [split, List.append_assoc]
  have tokenPlace :
      start + byteLength gap = byteLength (front ++ gap) := by
    rw [byteLength_append, reached]
  have upTo : stream.placeOf 0 =
      start + byteLength gap + byteLength (written ++ behind) := by
    rw [next, byteLength_append, Nat.add_assoc (start + byteLength gap)]
  constructor
  case whole => exact later.whole
  case increasing =>
    refine List.pairwise_cons.mpr ⟨?_, later.increasing⟩
    intro offset member
    rcases List.mem_map.mp member with ⟨lexeme, among, rfl⟩
    exact Nat.lt_of_lt_of_le (Nat.lt_add_of_pos_right nonempty)
      (later.starts lexeme among).1
  case starts =>
    refine List.forall_mem_cons.mpr ⟨⟨Nat.le_add_right _ _, ?_, ?_⟩, ?_⟩
    · exact isBoundary_of_split atToken tokenPlace
    · have whole : stream.byteLength = text.utf8ByteSize := later.whole
      rw [whole, ← byteLength_toList, atToken, byteLength_append, ← tokenPlace,
        byteLength_append written]
      exact Nat.lt_add_of_pos_right (Nat.add_pos_left nonempty _)
    · intro lexeme among
      rcases later.starts lexeme among with ⟨reaches, boundary, inFront⟩
      exact ⟨by omega, boundary, inFront⟩
  case before =>
    have found : (slice text start (start + byteLength gap)).toList = gap :=
      toList_slice split reached rfl
    exact found.symm ▸ isGap
  case stands =>
    intro index lexeme found
    cases index with
    | zero =>
        cases found
        exact stands_of_split atToken tokenPlace upTo spells behindGap separator
    | succ index => exact later.stands index lexeme found
  case alone =>
    intro index lexeme found
    cases index with
    | zero =>
        cases found
        exact lexesAlone_of_split atToken tokenPlace upTo spells behindGap
          (endsBefore_of_append ends)
    | succ index => exact later.alone index lexeme found
  case dangling => exact later.dangling

/-- The lexemes of a part of a text tile the text from there on. -/
theorem Lexed.tiles
    {stream : TokenStream} (lexed : Lexed start rest stream)
    (split : text.toList = front ++ rest)
    (reached : start = byteLength front) :
    stream.Tiles text start := by
  induction lexed generalizing front with
  | finished isGap => exact tiles_finished split reached isGap
  | @token start gap written rest _ _ _ isGap spells ends later ih =>
      have behind : text.toList = (front ++ gap ++ written) ++ rest := by
        rw [split, List.append_assoc, List.append_assoc]
      have reachedBehind : start + byteLength gap + byteLength written =
          byteLength (front ++ gap ++ written) := by
        rw [byteLength_append, byteLength_append, reached]
      exact tiles_token split reached isGap spells ends later
        (ih behind reachedBehind)

end

end Token

open TokenStream (Stands LexesAlone)

/--
The offsets of lexemes tile a text.  If a text can be lexed, its lexemes start
at boundaries further and further on, with nothing but gaps between the tokens,
each of them with the separator that is recorded for it; and every lexeme can be
lexed alone, from where it starts to where the next one does.  If it cannot be
lexed, the error tells a fault at a boundary in front of the end of the text.
-/
theorem lexemes_tile (text : String) :
    (∀ stream, lex text = .ok stream → stream.Tiles text 0) ∧
      ∀ error, lex text = .error error →
        ∃ offset fault, error = .lex offset fault ∧
          IsBoundary text offset ∧ offset < text.utf8ByteSize := by
  constructor
  · intro stream lexes
    have split : text.toList = [] ++ text.toList := rfl
    exact (Token.lexFrom_eq_ok_iff.mp lexes).tiles split rfl
  · intro error fails
    rcases Token.startsCharacter_of_lexFrom fails with
      ⟨offset, fault, rfl, front, character, back, split, reached⟩
    rw [Nat.zero_add]
    exact ⟨offset, fault, rfl, isBoundary_of_character split reached⟩

/--
A string of two bytes, a blank and a comma stand in front of a bracket; and a
character that is no token stands behind the same string.
-/
theorem lexemes_tile_string :
    lex "\"é\" ,]" = .ok ⟨[⟨.literal (.string "é"), 0, none⟩,
        ⟨.bracketClose, 6, some .comma⟩], 7, none⟩ ∧
      Stands "\"é\" ,]" ⟨.literal (.string "é"), 0, none⟩ 6 (some .comma) ∧
      LexesAlone "\"é\" ,]" 0 6 (.literal (.string "é")) ∧
      lex "\"é\"é" = .error (.lex 4 (.invalidCharacter 'é')) ∧
      IsBoundary "\"é\"é" 4 := by
  have writes : StringLiteral.Writes ['é'] "é".toList :=
    .raw (by decide) (by decide) (by decide) .done
  have spells : (Token.literal (.string "é")).Spells ['\x22', 'é', '\x22'] :=
    .literal (.string writes)
  have lexes : lex "\"é\" ,]" = .ok ⟨[⟨.literal (.string "é"), 0, none⟩,
      ⟨.bracketClose, 6, some .comma⟩], 7, none⟩ :=
    Token.lexFrom_eq_ok_iff.mpr
      (.token (.blank Token.isBlanks_nil) spells trivial
        (.token
          ((Token.isGap_separator .comma).blanks_append Token.isBlanks_space)
          .bracketClose trivial (.finished (.blank Token.isBlanks_nil))))
  have fails : lex "\"é\"é" = .error (.lex 4 (.invalidCharacter 'é')) := by
    have ends : (Token.literal (.string "é")).EndsBefore ['é'] := trivial
    have scan : Token.scanToken ['é'] = .error (0, .invalidCharacter 'é') :=
      rfl
    have behind := Token.lexFrom_fault rfl rfl 4 none scan
    exact (Token.lexFrom_written spells ends 0 none).trans
      (congrArg (Except.map _) behind)
  have tiles := (lexemes_tile _).1 _ lexes
  rcases (lexemes_tile _).2 _ fails with ⟨_, _, ⟨⟩, boundary, _⟩
  exact ⟨lexes, tiles.stands 0 _ rfl, tiles.alone 0 _ rfl, fails, boundary⟩

end Criteria
