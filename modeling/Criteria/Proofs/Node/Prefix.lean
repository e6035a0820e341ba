import Criteria.Proofs.Node.Acceptance
import Criteria.Proofs.Token.Extension

/-!
# Correct prefixes

The parser reports an error as early as it can.  It reports an unexpected end
exactly for the texts that are no sentence but can be continued to one, and an
unexpected lexeme exactly at the first lexeme with which the lexemes begin no
sentence any more.

Continuing a text may change the number at its end, so what a continued text
says about the lexemes of the text is said up to their shapes.  For sentences
that makes no difference: any number or string may stand where one stands.
-/

namespace Criteria

/-- A text that writes a tree. -/
def IsSentence (text : String) : Prop :=
  ∃ node : Node, node.document.IsText text.toList

/-- Lexemes that are the first ones of some sentence, up to their offsets. -/
def BeginSentence (lexemes : List Lexeme) : Prop :=
  ∃ sentence stream, IsSentence sentence ∧ lex sentence = .ok stream ∧
    lexemes.map Lexeme.mark <+: stream.lexemes.map Lexeme.mark

namespace Node

/-! ## Marks of the same shape -/

/-- A mark of the shape of a delimiter is that delimiter. -/
theorem cons_of_map_shape
    {marks later : List Mark} {separator : Option Separator} {delimiter : Token}
    (same : marks.map Mark.shape = ⟨separator, delimiter⟩ :: later)
    (noLiteral : ∀ value, delimiter ≠ .literal value) :
    ∃ rest, marks = ⟨separator, delimiter⟩ :: rest ∧
      rest.map Mark.shape = later := by
  rcases List.map_eq_cons_iff.mp same with
      ⟨⟨found, token⟩, rest, rfl, equal, others⟩
  simp only [Mark.shape, Mark.mk.injEq] at equal
  rcases equal with ⟨rfl, shape⟩
  exact ⟨rest, by rw [Token.eq_of_shape_eq shape noLiteral], others⟩

mutual

/--
Marks that begin with the shapes of a tree begin with the marks of a tree.
-/
theorem exists_marks_of_shapes
    {node : Node} {separator : Option Separator} {marks later : List Mark}
    (same : marks.map Mark.shape = (node.marks separator).map Mark.shape ++
      later) :
    ∃ (other : Node) (rest : List Mark),
      marks = other.marks separator ++ rest ∧ rest.map Mark.shape = later := by
  match node with
  | .literal value =>
      rw [marks_literal, List.map_singleton, List.singleton_append] at same
      rcases List.map_eq_cons_iff.mp same with
          ⟨⟨found, token⟩, rest, rfl, equal, others⟩
      simp only [Mark.shape, Mark.mk.injEq] at equal
      rcases equal with ⟨rfl, shape⟩
      rcases Token.exists_literal_of_shape_eq shape with ⟨other, rfl⟩
      exact ⟨.literal other, rest, by rw [marks_literal]; rfl, others⟩
  | .array elements =>
      rw [marks_array, List.map_cons, List.map_append, List.cons_append,
        List.append_assoc] at same
      rcases cons_of_map_shape same (fun value equal => by cases equal) with
          ⟨inner, rfl, inside⟩
      rcases exists_elementMarks_of_shapes inside with
          ⟨others, behind, rfl, after⟩
      rcases cons_of_map_shape after (fun value equal => by cases equal) with
          ⟨rest, rfl, more⟩
      exact ⟨.array others, rest, by simp [Token.shape], more⟩
  | .function name argument =>
      rw [marks_function, List.map_cons, List.map_cons, List.map_append,
        List.cons_append, List.cons_append, List.append_assoc] at same
      rcases cons_of_map_shape same (fun value equal => by cases equal) with
          ⟨inner, rfl, inside⟩
      rcases List.map_eq_cons_iff.mp inside with
          ⟨⟨found, token⟩, valued, rfl, equal, value⟩
      simp only [Mark.shape, Mark.mk.injEq] at equal
      rcases equal with ⟨rfl, shape⟩
      rcases Token.exists_string_of_shape_eq shape with ⟨otherName, rfl⟩
      rcases exists_marks_of_shapes value with ⟨other, behind, rfl, after⟩
      rcases cons_of_map_shape after (fun value equal => by cases equal) with
          ⟨rest, rfl, more⟩
      exact ⟨.function otherName other, rest, by simp [Token.shape], more⟩

theorem exists_elementMarks_of_shapes
    {nodes : List Node} {separator : Option Separator} {marks later : List Mark}
    (same : marks.map Mark.shape = (elementMarks separator nodes).map
      Mark.shape ++ later) :
    ∃ (others : List Node) (rest : List Mark),
      marks = elementMarks separator others ++ rest ∧
        rest.map Mark.shape = later := by
  match nodes with
  | [] =>
      rw [elementMarks_nil, List.map_nil, List.nil_append] at same
      exact ⟨[], marks, by rw [elementMarks_nil]; rfl, same⟩
  | node :: nodes =>
      rw [elementMarks_cons, List.map_append, List.append_assoc] at same
      rcases exists_marks_of_shapes same with ⟨other, behind, rfl, after⟩
      rcases exists_elementMarks_of_shapes after with ⟨others, rest, rfl, more⟩
      exact ⟨other :: others,
        rest, by rw [elementMarks_cons, List.append_assoc], more⟩

end

end Node

/-! ## Sentences and marks -/

open Criteria.Parser (Viable Completable)

/--
Marks that can be written and completed are the first marks of a sentence.
-/
theorem exists_sentence_of_completable
    {text : List Char} {marks : List Mark}
    (marked : Token.Marked text marks none) (completable : Completable marks) :
    ∃ suffix, ∃ node : Node, node.document.IsText (text ++ suffix) ∧
      marks <+: node.marks none := by
  rcases completable with ⟨later, node, equal, writable⟩
  rcases Token.exists_marked writable with ⟨rest, restMarked⟩
  refine ⟨' ' :: rest, node, ?_, later, equal⟩
  rw [Document.isText_iff_marked]
  have whole := marked.append restMarked
  rwa [equal] at whole

/-- Lexemes begin a sentence when their marks can be written and completed. -/
theorem beginSentence_of_completable
    {lexemes : List Lexeme}
    (writable : ∀ mark ∈ lexemes.map Lexeme.mark, mark.token.Writable)
    (completable : Completable (lexemes.map Lexeme.mark)) :
    BeginSentence lexemes := by
  rcases Token.exists_marked writable with ⟨text, marked⟩
  rcases exists_sentence_of_completable marked completable with
      ⟨suffix, node, isText, begins⟩
  have isText :
      node.document.IsText (String.ofList (text ++ suffix)).toList := by
    rwa [String.toList_ofList]
  rcases isText_document_iff.mp isText with ⟨stream, lexes, equal, _⟩
  exact ⟨_, stream, ⟨node, isText⟩, lexes, by rwa [equal]⟩

theorem viable_of_beginSentence
    {lexemes : List Lexeme} (begins : BeginSentence lexemes) :
    Viable (lexemes.map Lexeme.mark) := by
  rcases begins with ⟨sentence, stream, ⟨node, isText⟩, lexes, later, equal⟩
  rcases isText_document_iff.mp isText with ⟨other, found, same, _⟩
  rw [lexes] at found
  cases found
  exact ⟨later, node, equal.trans same⟩

/-- The lexemes of a text that can be continued to a sentence begin a tree. -/
theorem viable_of_continued
    {text suffix : String} {stream : TokenStream}
    (lexes : lex text = .ok stream) (sentence : IsSentence (text ++ suffix)) :
    Viable (stream.lexemes.map Lexeme.mark) := by
  rcases sentence with ⟨node, isText⟩
  rcases isText_document_iff.mp isText with ⟨longer, found, equal, _⟩
  rw [lex, String.toList_append] at found
  have shapes := (Token.lexFrom_eq_ok_iff.mp lexes).shapes_isPrefix found
  rw [← List.map_map, ← List.map_map, equal] at shapes
  rcases shapes with ⟨later, whole⟩
  rcases List.map_eq_append_iff.mp whole.symm with
      ⟨front, back, parts, frontShapes, _⟩
  have same : (stream.lexemes.map Lexeme.mark ++ back).map Mark.shape =
      (node.marks none).map Mark.shape ++ [] := by
    rw [List.map_append, ← frontShapes, ← List.map_append, ← parts,
      List.append_nil]
  rcases Node.exists_marks_of_shapes same with ⟨other, rest, split, nothing⟩
  rw [List.map_eq_nil_iff.mp nothing, List.append_nil] at split
  exact ⟨back, other, split⟩

theorem parse_of_lex {text : String} {stream : TokenStream}
    (lexes : lex text = .ok stream)
    (limits : Limits) :
    parse limits text = Parser.parseStream limits stream := by
  rw [parse, lexes]
  rfl

theorem beginSentence_take
    {lexemes : List Lexeme} (begins : BeginSentence lexemes) (count : Nat) :
    BeginSentence (lexemes.take count) := by
  rcases begins with ⟨sentence, stream, isSentence, lexes, starts⟩
  have taken := List.take_prefix count lexemes
  exact ⟨sentence, stream, isSentence, lexes, (taken.map _).trans starts⟩

/-! ## Errors of the parser -/

/--
The parser misses lexemes exactly where a text is no sentence but can be
continued to one.
-/
theorem unexpectedEnd_iff
    {limits : Limits} {text : String} {stream : TokenStream}
    (lexes : lex text = .ok stream)
    (noTrailing : stream.trailing = none)
    (depthRoom : stream.lexemes.length ≤ limits.maxDepth)
    (nodeRoom : stream.lexemes.length ≤ limits.maxNodes) :
    (∃ wanted, parse limits text = .error (.unexpectedEnd wanted)) ↔
      ¬ IsSentence text ∧ ∃ suffix, IsSentence (text ++ suffix) := by
  have marked := Token.marked_iff.mpr ⟨stream, lexes, rfl, by rw [noTrailing]⟩
  rw [parse_of_lex lexes]
  constructor
  · rintro ⟨wanted, failed⟩
    rcases Parser.parseStream_eq_unexpectedEnd failed with ⟨completable, noTree⟩
    constructor
    · rintro ⟨node, isText⟩
      rcases isText_document_iff.mp isText with ⟨found, lexed, equal, _⟩
      rw [lexes] at lexed
      cases lexed
      exact noTree node equal
    · rcases exists_sentence_of_completable marked completable with
          ⟨suffix, node, isText, _⟩
      refine ⟨String.ofList suffix, node, ?_⟩
      rwa [String.toList_append, String.toList_ofList]
  · rintro ⟨noSentence, suffix, sentence⟩
    have viable := viable_of_continued lexes sentence
    cases parsed : Parser.parseStream limits stream with
    | ok node =>
        rcases Parser.parseStream_eq_ok_iff.mp parsed with ⟨_, equal, _⟩
        exact absurd
          ⟨node, isText_document_iff.mpr ⟨stream, lexes, equal, noTrailing⟩⟩
          noSentence
    | error error =>
        rcases Parser.parseStream_eq_error parsed with
          ⟨offset, wanted, found, rfl⟩ | ⟨wanted, rfl⟩ | ⟨limit, maximum, rfl⟩
        · rcases Parser.parseStream_eq_unexpected noTrailing parsed with
              ⟨before, lexeme, later, parts, _, _, impossible⟩
          rcases viable with ⟨more, root, equal⟩
          refine absurd ⟨later.map Lexeme.mark ++ more, root, ?_⟩ impossible
          rw [← equal, parts]
          simp
        · exact ⟨wanted, rfl⟩
        · exact absurd parsed
            (Parser.parseStream_ne_limitExceeded depthRoom nodeRoom)

/--
The parser has the correct prefix property.  It misses lexemes exactly where a
text is no sentence but can be continued to one; and the offset of any other
error is that of the first lexeme with which the lexemes begin no sentence.
-/
theorem parse_prefix_correct
    {limits : Limits} {text : String} {stream : TokenStream}
    (lexes : lex text = .ok stream)
    (noTrailing : stream.trailing = none)
    (depthRoom : stream.lexemes.length ≤ limits.maxDepth)
    (nodeRoom : stream.lexemes.length ≤ limits.maxNodes) :
    ((∃ wanted, parse limits text = .error (.unexpectedEnd wanted)) ↔
      ¬ IsSentence text ∧ ∃ suffix, IsSentence (text ++ suffix)) ∧
    ∀ offset wanted found,
      parse limits text = .error (.unexpected offset wanted found) →
      ∃ place lexeme, stream.lexemes[place]? = some lexeme ∧
        lexeme.offset = offset ∧
        ∀ count, BeginSentence (stream.lexemes.take count) ↔ count ≤ place := by
  refine ⟨unexpectedEnd_iff lexes noTrailing depthRoom nodeRoom, ?_⟩
  intro offset wanted found failed
  rw [parse_of_lex lexes] at failed
  rcases Parser.parseStream_eq_unexpected noTrailing failed with
      ⟨before, lexeme, later, parts, isOffset, completable, impossible⟩
  have marked := (Token.lexFrom_eq_ok_iff.mp lexes).marked
  have begins : BeginSentence before := by
    refine beginSentence_of_completable
      (fun mark member => marked.writable mark ?_) completable
    rw [parts, List.map_append]
    exact List.mem_append_left _ member
  refine ⟨before.length, lexeme, by rw [parts]; simp, isOffset, fun count => ?_⟩
  constructor
  · intro longer
    by_contra beyond
    refine impossible ?_
    have fewer := beginSentence_take longer (before.length + 1)
    have first :
        (before ++ lexeme :: later).take (before.length + 1) =
          before ++ [lexeme] := by
      simp [List.take_append]
    rw [List.take_take, Nat.min_eq_left (Nat.lt_of_not_le beyond), parts,
      first] at fewer
    exact viable_of_beginSentence fewer
  · intro within
    have shorter := beginSentence_take begins count
    rw [parts, List.take_append_of_le_length within]
    exact shorter

/--
An opening bracket alone can be continued, and the parser says that more is
wanted.
-/
theorem parse_prefix_correct_bracket :
    ∃ stream, lex "[" = .ok stream ∧ stream.trailing = none ∧
      stream.lexemes.length ≤ 1 ∧
      ∃ wanted, parse ⟨1, 1⟩ "[" = .error (.unexpectedEnd wanted) := by
  have lexed : Token.Lexed 0 "[".toList ⟨[⟨.bracketOpen, 0, none⟩], 1, none⟩ :=
    .token (.blank Token.isBlanks_nil) .bracketOpen trivial
      (.finished (.blank Token.isBlanks_nil))
  have lexes : lex "[" = .ok ⟨[⟨.bracketOpen, 0, none⟩], 1, none⟩ :=
    Token.lexFrom_eq_ok_iff.mpr lexed
  refine ⟨_, lexes, rfl, Nat.le_refl 1, ?_⟩
  refine (parse_prefix_correct lexes rfl (Nat.le_refl 1) (Nat.le_refl 1)).1.mpr
    ⟨?_, "]", ?_⟩
  · rintro ⟨node, isText⟩
    rcases isText_document_iff.mp isText with ⟨found, other, equal, _⟩
    rw [lexes] at other
    cases other
    cases node <;> simp [Lexeme.mark] at equal
  · exact ⟨.array [],
      .padded Token.isBlanks_nil (.emptyArray Token.isBlanks_nil)
      Token.isBlanks_nil⟩

end Criteria
