import Criteria.Proofs.Node.Outcome

/-!
# Which texts are conditions

A text is parsed exactly when it is a JSON text in which every object has one
member, with finite numbers and within the limits of nesting and size; and
what is parsed is the tree of the text, of which there is only one.
-/

namespace Criteria

open Criteria.Parser (Within)

/-- A text is a text of one document at most. -/
theorem Document.IsText.unique
    {left right : Document} {text : List Char}
    (leftText : left.IsText text) (rightText : right.IsText text) :
    left = right := by
  have leftMarked := isText_iff_marked.mp leftText
  have rightMarked := isText_iff_marked.mp rightText
  exact marks_inj (leftMarked.unique rightMarked).1

/--
A text is a text of a tree exactly when it can be lexed into the marks of the
tree.
-/
theorem isText_document_iff {node : Node} {text : String} :
    node.document.IsText text.toList ↔
      ∃ stream, lex text = .ok stream ∧
        stream.lexemes.map Lexeme.mark = node.marks none ∧
        stream.trailing = none := by
  rw [Document.isText_iff_marked, Token.marked_iff]
  simp only [Option.map_eq_none_iff, Node.marks]

/--
Parsing finds exactly the tree that a text writes, provided that it is within
the limits.
-/
theorem parse_eq_ok_iff {limits : Limits} {text : String} {node : Node} :
    parse limits text = .ok node ↔
      node.document.IsText text.toList ∧ Within limits node := by
  rw [isText_document_iff]
  cases lexes : lex text with
  | error error =>
      constructor
      · intro parsed
        rw [parse, lexes] at parsed
        cases parsed
      · rintro ⟨⟨stream, found, _⟩, _⟩
        cases found
  | ok stream =>
      have parsed : parse limits text = Parser.parseStream limits stream := by
        rw [parse, lexes]
        rfl
      rw [parsed, Parser.parseStream_eq_ok_iff]
      constructor
      · rintro ⟨noTrailing, equal, within⟩
        exact ⟨⟨stream, rfl, equal, noTrailing⟩, within⟩
      · rintro ⟨⟨_, found, equal, noTrailing⟩, within⟩
        cases found
        exact ⟨noTrailing, equal, within⟩

/--
Parsing accepts exactly the JSON texts whose objects have one member each and
whose document is within the limits.  It returns the tree of the text, and the
document of the text is the only one.
-/
theorem parse_accepts_exactly (limits : Limits) (text : String) :
    (∀ node, parse limits text = .ok node ↔
      node.document.IsText text.toList ∧ node.nesting ≤ limits.maxDepth ∧
        node.nodeCount ≤ limits.maxNodes) ∧
    ((∃ node, parse limits text = .ok node) ↔
      ∃ document : Document, document.IsText text.toList ∧
        document.SingleMember ∧
        document.nesting ≤ limits.maxDepth ∧ document.size ≤ limits.maxNodes) ∧
    ∀ left right : Document,
      left.IsText text.toList → right.IsText text.toList → left = right := by
  refine ⟨fun node => parse_eq_ok_iff, ?_,
    fun left right => Document.IsText.unique⟩
  constructor
  · rintro ⟨node, parsed⟩
    rcases parse_eq_ok_iff.mp parsed with ⟨isText, nesting, size⟩
    refine ⟨node.document, isText, node.singleMember_document, ?_, ?_⟩
    · rwa [Node.nesting_document]
    · rwa [Node.size_document]
  · rintro ⟨document, isText, single, nesting, size⟩
    rcases Node.exists_document_eq single with ⟨node, rfl⟩
    rw [Node.nesting_document] at nesting
    rw [Node.size_document] at size
    exact ⟨node, parse_eq_ok_iff.mpr ⟨isText, nesting, size⟩⟩

end Criteria
