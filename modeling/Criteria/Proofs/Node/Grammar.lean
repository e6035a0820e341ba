import Criteria.Node.Basic
import Criteria.Proofs.Token.Language

/-!
# The grammar of conditions

A condition is a JSON text.  `Document.IsText` is the grammar of JSON texts,
with white space wherever the grammar allows it; its trees keep the members of
an object in text order, so that nothing of the text is lost but spelling and
white space.

A tree of a condition is such a document in which every object has exactly one
member; nesting and the number of nodes are the same on both sides.
-/

namespace Criteria

/-- The tree of a JSON text, with the members of objects in text order. -/
inductive Document where
  | literal (value : Literal)
  | array (elements : List Document)
  | object (members : List (String × Document))

namespace Document

open Token (IsBlanks)

/-! ## JSON texts -/

mutual

/-- The text of a value, without white space around it. -/
inductive IsValue : Document → List Char → Prop where
  | literal {value : Literal} {written : List Char}
      (spells : value.Spells written) :
      IsValue (.literal value) written
  | emptyArray {blanks : List Char} (isBlanks : IsBlanks blanks) :
      IsValue (.array []) ('[' :: (blanks ++ [']']))
  | array {elements : List Document} {text : List Char}
      (areElements : AreElements elements text) :
      IsValue (.array elements) ('[' :: (text ++ [']']))
  | emptyObject {blanks : List Char} (isBlanks : IsBlanks blanks) :
      IsValue (.object []) ('\x7b' :: (blanks ++ ['\x7d']))
  | object {members : List (String × Document)} {text : List Char}
      (areMembers : AreMembers members text) :
      IsValue (.object members) ('\x7b' :: (text ++ ['\x7d']))

/-- The text of a value, with white space around it. -/
inductive IsText : Document → List Char → Prop where
  | padded {document : Document} {before written after : List Char}
      (before_blank : IsBlanks before) (isValue : IsValue document written)
      (after_blank : IsBlanks after) :
      IsText document (before ++ (written ++ after))

/-- The texts of one value or more, with commas between them. -/
inductive AreElements : List Document → List Char → Prop where
  | last {document : Document} {text : List Char}
      (isText : IsText document text) :
      AreElements [document] text
  | more {document : Document} {documents : List Document}
      {text texts : List Char}
      (isText : IsText document text)
      (areElements : AreElements documents texts) :
      AreElements (document :: documents) (text ++ ',' :: texts)

/-- The texts of one member or more, with commas between them. -/
inductive AreMembers : List (String × Document) → List Char → Prop where
  | last {name : String} {document : Document} {nameText text : List Char}
      (isName : IsText (.literal (.string name)) nameText)
      (isText : IsText document text) :
      AreMembers [(name, document)] (nameText ++ ':' :: text)
  | more {name : String} {document : Document}
      {members : List (String × Document)}
      {nameText text texts : List Char}
      (isName : IsText (.literal (.string name)) nameText)
      (isText : IsText document text)
      (areMembers : AreMembers members texts) :
      AreMembers ((name, document) :: members)
        (nameText ++ ':' :: (text ++ ',' :: texts))

end

/-! ## Nesting, size and single members -/

mutual

/--
How deep arrays and objects nest within a document; a literal has no nesting.
-/
def nesting : Document → Nat
  | .literal _ => 0
  | .array elements => elementNesting elements + 1
  | .object members => memberNesting members + 1

/-- The greatest nesting among elements, zero if there are none. -/
def elementNesting : List Document → Nat
  | [] => 0
  | document :: documents => max (nesting document) (elementNesting documents)

/-- The greatest nesting among the values of members, zero if there are none. -/
def memberNesting : List (String × Document) → Nat
  | [] => 0
  | (_, document) :: members => max (nesting document) (memberNesting members)

end

mutual

/--
The number of literals, arrays and objects; the names of members count nothing.
-/
def size : Document → Nat
  | .literal _ => 1
  | .array elements => elementSize elements + 1
  | .object members => memberSize members + 1

/-- The size of several elements together. -/
def elementSize : List Document → Nat
  | [] => 0
  | document :: documents => size document + elementSize documents

/-- The size of the values of several members together. -/
def memberSize : List (String × Document) → Nat
  | [] => 0
  | (_, document) :: members => size document + memberSize members

end

mutual

/-- Every object of a document has exactly one member. -/
def SingleMember : Document → Prop
  | .literal _ => True
  | .array elements => ElementsSingleMember elements
  | .object members => members.length = 1 ∧ MembersSingleMember members

/-- Every object among elements and below them has exactly one member. -/
def ElementsSingleMember : List Document → Prop
  | [] => True
  | document :: documents =>
      SingleMember document ∧ ElementsSingleMember documents

/--
Every object among the values of members and below them has exactly one member.
-/
def MembersSingleMember : List (String × Document) → Prop
  | [] => True
  | (_, document) :: members =>
      SingleMember document ∧ MembersSingleMember members

end

end Document

/-! ## Trees of conditions as documents -/

namespace Node

mutual

/--
The document that a tree stands for: a function is an object with one member.
-/
def document : Node → Document
  | .literal value => .literal value
  | .array elements => .array (documents elements)
  | .function name argument => .object [(name, document argument)]

/-- The documents that several trees stand for. -/
def documents : List Node → List Document
  | [] => []
  | node :: nodes => document node :: documents nodes

end

mutual

@[simp]
theorem nesting_document (node : Node) :
    node.document.nesting = node.nesting := by
  cases node with
  | literal value => simp only [document, Document.nesting, nesting]
  | array elements =>
      simp only [document, Document.nesting, nesting,
        elementNesting_documents elements]
  | function name argument =>
      simp only [document, Document.nesting, nesting, Document.memberNesting,
        nesting_document argument, Nat.max_zero]

theorem elementNesting_documents (nodes : List Node) :
    Document.elementNesting (documents nodes) = greatestNesting nodes := by
  cases nodes with
  | nil => simp only [documents, Document.elementNesting, greatestNesting]
  | cons node nodes =>
      simp only [documents, Document.elementNesting, greatestNesting,
        nesting_document node, elementNesting_documents nodes]

end

mutual

@[simp]
theorem size_document (node : Node) : node.document.size = node.nodeCount := by
  cases node with
  | literal value => simp only [document, Document.size, nodeCount]
  | array elements =>
      simp only [document, Document.size, nodeCount,
        elementSize_documents elements]
  | function name argument =>
      simp only [document, Document.size, nodeCount, Document.memberSize,
        size_document argument, Nat.add_zero]

theorem elementSize_documents (nodes : List Node) :
    Document.elementSize (documents nodes) = totalCount nodes := by
  cases nodes with
  | nil => simp only [documents, Document.elementSize, totalCount]
  | cons node nodes =>
      simp only [documents, Document.elementSize, totalCount,
        size_document node, elementSize_documents nodes]

end

mutual

theorem singleMember_document (node : Node) : node.document.SingleMember := by
  cases node with
  | literal value => simp only [document, Document.SingleMember]
  | array elements =>
      simp only [document, Document.SingleMember]
      exact elementsSingleMember_documents elements
  | function name argument =>
      simp only [document, Document.SingleMember, Document.MembersSingleMember]
      exact ⟨rfl, singleMember_document argument, trivial⟩

theorem elementsSingleMember_documents (nodes : List Node) :
    Document.ElementsSingleMember (documents nodes) := by
  cases nodes with
  | nil => simp only [documents, Document.ElementsSingleMember]
  | cons node nodes =>
      simp only [documents, Document.ElementsSingleMember]
      exact ⟨singleMember_document node, elementsSingleMember_documents nodes⟩

end

mutual

/--
A document in which every object has exactly one member is the document of a
tree.
-/
theorem exists_document_eq
    {document : Document} (single : document.SingleMember) :
    ∃ node : Node, node.document = document := by
  cases document with
  | literal value => exact ⟨.literal value, by simp only [Node.document]⟩
  | array elements =>
      simp only [Document.SingleMember] at single
      rcases exists_documents_eq single with ⟨nodes, rfl⟩
      exact ⟨.array nodes, by simp only [Node.document]⟩
  | object members =>
      simp only [Document.SingleMember] at single
      rcases single with ⟨one, members_single⟩
      match members, one, members_single with
      | [(name, value)], _, inside =>
          simp only [Document.MembersSingleMember] at inside
          rcases exists_document_eq inside.1 with ⟨argument, rfl⟩
          exact ⟨.function name argument, by simp only [Node.document]⟩

theorem exists_documents_eq
    {elements : List Document}
    (single : Document.ElementsSingleMember elements) :
    ∃ nodes : List Node, documents nodes = elements := by
  cases elements with
  | nil => exact ⟨[], by simp only [documents]⟩
  | cons element elements =>
      simp only [Document.ElementsSingleMember] at single
      rcases exists_document_eq single.1 with ⟨node, rfl⟩
      rcases exists_documents_eq single.2 with ⟨nodes, rfl⟩
      exact ⟨node :: nodes, by simp only [documents]⟩

end

end Node

end Criteria
