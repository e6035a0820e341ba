import Criteria.Proofs.Node.Grammar
import Criteria.Proofs.Token.Marks

/-!
# The marks of documents

Written out as marks, a document loses its white space and the spelling of its
tokens, and nothing else: a text is a text of a document exactly when it is
taken apart into the marks of the document, and documents with the same marks
are the same.  So a text is a text of one document at most.
-/

namespace Criteria

namespace Document

open Token

mutual

/-- The marks of a document that stands behind a separator, or behind none. -/
def marks (separator : Option Separator) : Document → List Mark
  | .literal value => [⟨separator, .literal value⟩]
  | .array elements =>
      ⟨separator, .bracketOpen⟩ ::
        (elementMarks none elements ++ [⟨none, .bracketClose⟩])
  | .object members =>
      ⟨separator, .braceOpen⟩ ::
        (memberMarks none members ++ [⟨none, .braceClose⟩])

/--
The marks of elements; behind the first of them, each stands behind a comma.
-/
def elementMarks (separator : Option Separator) : List Document → List Mark
  | [] => []
  | document :: documents =>
      marks separator document ++ elementMarks (some .comma) documents

/--
The marks of members; behind the first of them, each stands behind a comma.
-/
def memberMarks (separator : Option Separator) :
    List (String × Document) → List Mark
  | [] => []
  | (name, document) :: members =>
      ⟨separator, .literal (.string name)⟩ ::
        (marks (some .colon) document ++ memberMarks (some .comma) members)

end

/-- The token that a document begins with. -/
def firstToken : Document → Token
  | .literal value => .literal value
  | .array _ => .bracketOpen
  | .object _ => .braceOpen

/-- The separator before a document is the one before its first token. -/
theorem exists_marks_eq_cons (document : Document) :
    ∃ more, ∀ separator, document.marks separator =
      ⟨separator, document.firstToken⟩ :: more := by
  cases document with
  | literal value =>
      exact ⟨[], fun separator => by simp only [marks, firstToken]⟩
  | array elements =>
      exact ⟨elementMarks none elements ++ [⟨none, .bracketClose⟩],
        fun separator => by simp only [marks, firstToken]⟩
  | object members =>
      exact ⟨memberMarks none members ++ [⟨none, .braceClose⟩],
        fun separator => by simp only [marks, firstToken]⟩

/-! ## The marks of a text -/

theorem delimits_separator (separator : Separator) (rest : List Char) :
    Delimits ([separator.character] ++ rest) := by
  cases separator <;> exact delimits_cons rfl rfl rest

theorem delimits_bracketClose (rest : List Char) : Delimits ([']'] ++ rest) :=
  delimits_cons rfl rfl rest

theorem delimits_braceClose (rest : List Char) : Delimits (['\x7d'] ++ rest) :=
  delimits_cons rfl rfl rest

mutual

/-- The text of a value is taken apart into the marks of its document. -/
theorem IsValue.marked
    {document : Document} {written gap rest : List Char}
    {separator trailing : Option Separator}
    {later : List Mark}
    (isValue : IsValue document written)
    (isGap : IsGap gap separator)
    (delimits : Delimits rest)
    (marked : Marked rest later trailing) :
    Marked (gap ++ (written ++ rest)) (document.marks separator ++ later)
      trailing := by
  match isValue with
  | .literal spells =>
      simp only [marks]
      exact .token isGap (.literal spells) (delimits _) marked
  | .emptyArray isBlanks =>
      have close := Marked.token (.blank isBlanks) .bracketClose trivial marked
      have whole := Marked.token isGap .bracketOpen trivial close
      simpa only [marks, elementMarks, List.nil_append, List.cons_append,
        List.append_assoc] using whole
  | .array areElements =>
      have close := marked.written_append .bracketClose trivial
      have inner :=
        areElements.marked (.blank isBlanks_nil) (delimits_bracketClose _) close
      have whole := Marked.token isGap .bracketOpen trivial inner
      simpa only [marks, List.nil_append, List.cons_append, List.append_assoc]
        using whole
  | .emptyObject isBlanks =>
      have close := Marked.token (.blank isBlanks) .braceClose trivial marked
      have whole := Marked.token isGap .braceOpen trivial close
      simpa only [marks, memberMarks, List.nil_append, List.cons_append,
        List.append_assoc] using whole
  | .object areMembers =>
      have close := marked.written_append .braceClose trivial
      have inner :=
        areMembers.marked (.blank isBlanks_nil) (delimits_braceClose _) close
      have whole := Marked.token isGap .braceOpen trivial inner
      simpa only [marks, List.nil_append, List.cons_append, List.append_assoc]
        using whole

theorem IsText.marked
    {document : Document} {text gap rest : List Char}
    {separator trailing : Option Separator}
    {later : List Mark}
    (isText : IsText document text)
    (isGap : IsGap gap separator)
    (delimits : Delimits rest)
    (marked : Marked rest later trailing) :
    Marked (gap ++ (text ++ rest)) (document.marks separator ++ later)
      trailing := by
  match isText with
  | .padded beforeBlank isValue afterBlank =>
      have inner := isValue.marked (isGap.append_blanks beforeBlank)
        (delimits_append_blanks afterBlank delimits)
        (marked.blanks_append afterBlank)
      simpa only [List.append_assoc] using inner

theorem AreElements.marked
    {elements : List Document} {text gap rest : List Char}
    {separator trailing : Option Separator} {later : List Mark}
    (areElements : AreElements elements text)
    (isGap : IsGap gap separator)
    (delimits : Delimits rest)
    (marked : Marked rest later trailing) :
    Marked (gap ++ (text ++ rest)) (elementMarks separator elements ++ later)
      trailing := by
  match areElements with
  | .last isText =>
      simpa only [elementMarks, List.append_nil]
        using isText.marked isGap delimits marked
  | .more isText areElements =>
      have inner := areElements.marked (isGap_separator .comma) delimits marked
      have whole := isText.marked isGap (delimits_separator .comma _) inner
      simpa only [elementMarks, Separator.character, List.append_assoc,
        List.cons_append, List.nil_append] using whole

theorem AreMembers.marked
    {members : List (String × Document)} {text gap rest : List Char}
    {separator trailing : Option Separator} {later : List Mark}
    (areMembers : AreMembers members text)
    (isGap : IsGap gap separator)
    (delimits : Delimits rest)
    (marked : Marked rest later trailing) :
    Marked (gap ++ (text ++ rest)) (memberMarks separator members ++ later)
      trailing := by
  match areMembers with
  | .last isName isText =>
      have value := isText.marked (isGap_separator .colon) delimits marked
      have whole := isName.marked isGap (delimits_separator .colon _) value
      simpa only [marks, memberMarks, Separator.character, List.append_assoc,
        List.cons_append, List.nil_append, List.append_nil] using whole
  | .more isName isText areMembers =>
      have inner := areMembers.marked (isGap_separator .comma) delimits marked
      have value :=
        isText.marked (isGap_separator .colon) (delimits_separator .comma _)
          inner
      have whole := isName.marked isGap (delimits_separator .colon _) value
      simpa only [marks, memberMarks, Separator.character, List.append_assoc,
        List.cons_append, List.nil_append] using whole

end

/-! ## The text of marks -/

theorem separator_split
    {document : Document} {text : List Char} {separator : Separator}
    {trailing : Option Separator} {later : List Mark}
    (marked : Marked text (document.marks (some separator) ++ later) trailing) :
    ∃ before rest, text = before ++ separator.character :: rest ∧
      IsBlanks before ∧
      Marked rest (document.marks none ++ later) trailing := by
  rcases document.exists_marks_eq_cons with ⟨more, split⟩
  rw [split] at marked ⊢
  exact marked.separator_split

theorem isBlanks_of_marked_nil
    {text : List Char} (marked : Marked text [] none) :
    IsBlanks text := by
  cases marked with
  | finished isGap =>
      cases isGap with
      | blank isBlanks => exact isBlanks

/-- The name of a member and its colon can be split off a text. -/
theorem exists_isName
    {name : String} {value : Document} {text : List Char}
    {trailing : Option Separator} {later : List Mark}
    (marked : Marked text
      (⟨none, .literal (.string name)⟩ :: (value.marks (some .colon) ++ later))
        trailing) :
    ∃ nameText rest, text = nameText ++ ':' :: rest ∧
      IsText (.literal (.string name)) nameText ∧
      Marked rest (value.marks none ++ later) trailing := by
  rcases marked.first_split with
      ⟨before, written, _, rfl, beforeBlank, spells, named⟩
  rcases separator_split named with ⟨after, rest, rfl, afterBlank, valued⟩
  cases spells with
  | literal spells =>
      exact ⟨_, rest, by simp [Separator.character],
        .padded beforeBlank (.literal spells) afterBlank, valued⟩

mutual

/--
A text that is taken apart into the marks of a document begins with a text of
it.
-/
theorem exists_isValue
    {document : Document} {text : List Char} {trailing : Option Separator}
    {later : List Mark}
    (marked : Marked text (document.marks none ++ later) trailing) :
    ∃ blanks written rest, text = blanks ++ (written ++ rest) ∧
      IsBlanks blanks ∧
      document.IsValue written ∧ Marked rest later trailing := by
  match document with
  | .literal value =>
      simp only [marks, List.cons_append, List.nil_append] at marked
      rcases marked.first_split with
          ⟨blanks, written, rest, split, isBlanks, spells, rest_marked⟩
      cases spells with
      | literal spells =>
          exact ⟨blanks, written, rest, split, isBlanks, .literal spells,
            rest_marked⟩
  | .array [] =>
      simp only [marks, elementMarks, List.cons_append,
        List.nil_append] at marked
      rcases marked.first_split with
          ⟨blanks, _, inner, rfl, isBlanks, opening, inner_marked⟩
      rcases inner_marked.first_split with
          ⟨innerBlanks, _, rest, rfl, innerBlank, closing, rest_marked⟩
      cases opening
      cases closing
      exact ⟨blanks, _, rest, by simp, isBlanks, .emptyArray innerBlank,
        rest_marked⟩
  | .array (element :: elements) =>
      rw [marks, List.cons_append, List.append_assoc] at marked
      rcases marked.first_split with
          ⟨blanks, _, inner, rfl, isBlanks, opening, inner_marked⟩
      rcases exists_areElements (List.cons_ne_nil _ _) inner_marked with
          ⟨innerText, rest, rfl, areElements, rest_marked⟩
      cases opening
      exact ⟨blanks, _, rest, by simp, isBlanks, .array areElements,
        rest_marked⟩
  | .object [] =>
      simp only [marks, memberMarks, List.cons_append,
        List.nil_append] at marked
      rcases marked.first_split with
          ⟨blanks, _, inner, rfl, isBlanks, opening, inner_marked⟩
      rcases inner_marked.first_split with
          ⟨innerBlanks, _, rest, rfl, innerBlank, closing, rest_marked⟩
      cases opening
      cases closing
      exact ⟨blanks, _, rest, by simp, isBlanks, .emptyObject innerBlank,
        rest_marked⟩
  | .object ((name, value) :: members) =>
      rw [marks, List.cons_append, List.append_assoc] at marked
      rcases marked.first_split with
          ⟨blanks, _, inner, rfl, isBlanks, opening, inner_marked⟩
      rcases exists_areMembers (List.cons_ne_nil _ _) inner_marked with
          ⟨innerText, rest, rfl, areMembers, rest_marked⟩
      cases opening
      exact ⟨blanks, _, rest, by simp, isBlanks, .object areMembers,
        rest_marked⟩

theorem exists_areElements
    {elements : List Document} {text : List Char}
    {trailing : Option Separator} {later : List Mark}
    (nonempty : elements ≠ [])
    (marked :
      Marked text (elementMarks none elements ++ ⟨none, .bracketClose⟩ :: later)
        trailing) :
    ∃ inner rest, text = inner ++ ']' :: rest ∧ AreElements elements inner ∧
      Marked rest later trailing := by
  match elements with
  | [] => exact absurd rfl nonempty
  | document :: [] =>
      rw [elementMarks, List.append_assoc] at marked
      rcases exists_isValue marked with
          ⟨blanks, written, behind, rfl, isBlanks, isValue, behind_marked⟩
      rw [elementMarks, List.nil_append] at behind_marked
      rcases behind_marked.first_split with
          ⟨after, _, rest, rfl, afterBlank, closing, rest_marked⟩
      cases closing
      exact ⟨_, rest, by simp, .last (.padded isBlanks isValue afterBlank),
        rest_marked⟩
  | document :: next :: documents =>
      rw [elementMarks, List.append_assoc] at marked
      rcases exists_isValue marked with
          ⟨blanks, written, behind, rfl, isBlanks, isValue, behind_marked⟩
      rw [elementMarks, List.append_assoc] at behind_marked
      rcases separator_split behind_marked with
          ⟨after, others, rfl, afterBlank, others_marked⟩
      rw [← List.append_assoc, ← elementMarks] at others_marked
      rcases exists_areElements (List.cons_ne_nil _ _) others_marked with
          ⟨inner, rest, rfl, areElements, rest_marked⟩
      exact ⟨_, rest, by simp [Separator.character],
        .more (.padded isBlanks isValue afterBlank) areElements, rest_marked⟩

theorem exists_areMembers
    {members : List (String × Document)} {text : List Char}
    {trailing : Option Separator} {later : List Mark}
    (nonempty : members ≠ [])
    (marked :
      Marked text (memberMarks none members ++ ⟨none, .braceClose⟩ :: later)
        trailing) :
    ∃ inner rest, text = inner ++ '\x7d' :: rest ∧ AreMembers members inner ∧
      Marked rest later trailing := by
  match members with
  | [] => exact absurd rfl nonempty
  | (name, value) :: [] =>
      rw [memberMarks, List.cons_append, List.append_assoc] at marked
      rcases exists_isName marked with ⟨nameText, _, rfl, isName, valued⟩
      rcases exists_isValue valued with
          ⟨before, written, behind, rfl, beforeBlank, isValue, behind_marked⟩
      rw [memberMarks, List.nil_append] at behind_marked
      rcases behind_marked.first_split with
          ⟨after, _, rest, rfl, afterBlank, closing, rest_marked⟩
      cases closing
      exact ⟨_, rest, by simp,
        .last isName (.padded beforeBlank isValue afterBlank), rest_marked⟩
  | (name, value) :: (nextName, next) :: members =>
      rw [memberMarks, List.cons_append, List.append_assoc] at marked
      rcases exists_isName marked with ⟨nameText, _, rfl, isName, valued⟩
      rcases exists_isValue valued with
          ⟨before, written, behind, rfl, beforeBlank, isValue, behind_marked⟩
      rw [memberMarks, List.cons_append, List.append_assoc] at behind_marked
      rcases behind_marked.separator_split with
          ⟨after, others, rfl, afterBlank, others_marked⟩
      rw [← List.append_assoc, ← List.cons_append,
        ← memberMarks] at others_marked
      rcases exists_areMembers (List.cons_ne_nil _ _) others_marked with
          ⟨inner, rest, rfl, areMembers, rest_marked⟩
      exact ⟨_, rest, by simp [Separator.character],
        .more isName (.padded beforeBlank isValue afterBlank) areMembers,
        rest_marked⟩

end

/--
A text is a text of a document exactly when it is taken apart into its marks.
-/
theorem isText_iff_marked {document : Document} {text : List Char} :
    document.IsText text ↔ Marked text (document.marks none) none := by
  constructor
  · intro isText
    have nothing : Marked [] [] none := .finished (.blank isBlanks_nil)
    simpa only [List.nil_append, List.append_nil] using
      isText.marked (.blank isBlanks_nil) delimits_nil nothing
  · intro marked
    rw [← List.append_nil (document.marks none)] at marked
    rcases exists_isValue marked with
        ⟨blanks, written, rest, rfl, isBlanks, isValue, rest_marked⟩
    exact .padded isBlanks isValue (isBlanks_of_marked_nil rest_marked)

/-! ## Marks tell documents apart -/

mutual

/--
The marks of a document at the head of a sequence of marks tell which document
it is.
-/
theorem marks_append_inj
    {left right : Document} {separator : Option Separator}
    {leftLater rightLater : List Mark}
    (equal : left.marks separator ++ leftLater = right.marks separator ++
      rightLater) :
    left = right ∧ leftLater = rightLater := by
  match left, right with
  | .literal leftValue, .literal rightValue =>
      simp only [marks, List.cons_append, List.nil_append, List.cons.injEq,
        Mark.mk.injEq, Token.literal.injEq, true_and] at equal
      exact ⟨by rw [equal.1], equal.2⟩
  | .array lefts, .array rights =>
      simp only [marks, List.cons_append, List.append_assoc, List.nil_append,
        List.cons.injEq, true_and] at equal
      rcases elementMarks_append_inj equal with ⟨rfl, same⟩
      exact ⟨rfl, same⟩
  | .object lefts, .object rights =>
      simp only [marks, List.cons_append, List.append_assoc, List.nil_append,
        List.cons.injEq, true_and] at equal
      rcases memberMarks_append_inj equal with ⟨rfl, same⟩
      exact ⟨rfl, same⟩
  | .literal _, .array _ => simp [marks] at equal
  | .literal _, .object _ => simp [marks] at equal
  | .array _, .literal _ => simp [marks] at equal
  | .array _, .object _ => simp [marks] at equal
  | .object _, .literal _ => simp [marks] at equal
  | .object _, .array _ => simp [marks] at equal

theorem elementMarks_append_inj
    {lefts rights : List Document} {separator : Option Separator}
    {leftLater rightLater : List Mark}
    (equal : elementMarks separator lefts ++ ⟨none, .bracketClose⟩ ::
      leftLater =
      elementMarks separator rights ++ ⟨none, .bracketClose⟩ :: rightLater) :
    lefts = rights ∧ leftLater = rightLater := by
  match lefts, rights with
  | [], [] => simpa [elementMarks] using equal
  | left :: lefts, right :: rights =>
      simp only [elementMarks, List.append_assoc] at equal
      rcases marks_append_inj equal with ⟨rfl, others⟩
      rcases elementMarks_append_inj others with ⟨rfl, same⟩
      exact ⟨rfl, same⟩
  | [], right :: rights =>
      rcases right.exists_marks_eq_cons with ⟨more, split⟩
      cases right <;> simp [elementMarks, split, firstToken] at equal
  | left :: lefts, [] =>
      rcases left.exists_marks_eq_cons with ⟨more, split⟩
      cases left <;> simp [elementMarks, split, firstToken] at equal

theorem memberMarks_append_inj
    {lefts rights : List (String × Document)} {separator : Option Separator}
    {leftLater rightLater : List Mark}
    (equal : memberMarks separator lefts ++ ⟨none, .braceClose⟩ :: leftLater =
      memberMarks separator rights ++ ⟨none, .braceClose⟩ :: rightLater) :
    lefts = rights ∧ leftLater = rightLater := by
  match lefts, rights with
  | [], [] => simpa [memberMarks] using equal
  | (leftName, left) :: lefts, (rightName, right) :: rights =>
      simp only [memberMarks, List.cons_append, List.append_assoc,
        List.cons.injEq, Mark.mk.injEq, Token.literal.injEq,
        Literal.string.injEq, true_and] at equal
      rcases equal with ⟨rfl, values⟩
      rcases marks_append_inj values with ⟨rfl, others⟩
      rcases memberMarks_append_inj others with ⟨rfl, same⟩
      exact ⟨rfl, same⟩
  | [], (rightName, right) :: rights => simp [memberMarks] at equal
  | (leftName, left) :: lefts, [] => simp [memberMarks] at equal

end

theorem marks_inj
    {left right : Document} {separator : Option Separator}
    (equal : left.marks separator = right.marks separator) :
    left = right := by
  have padded : left.marks separator ++ [] = right.marks separator ++ [] := by
    rw [List.append_nil, List.append_nil, equal]
  exact (marks_append_inj padded).1

end Document

namespace Node

/-! ## The marks of trees -/

/-- The marks of a tree that stands behind a separator, or behind none. -/
def marks (separator : Option Separator) (node : Node) : List Mark :=
  node.document.marks separator

/-- The marks of elements of an array. -/
def elementMarks (separator : Option Separator) (nodes : List Node) :
    List Mark :=
  Document.elementMarks separator (documents nodes)

@[simp]
theorem marks_literal (separator : Option Separator) (value : Literal) :
    (literal value).marks separator = [⟨separator, .literal value⟩] := by
  simp only [marks, document, Document.marks]

@[simp]
theorem marks_array (separator : Option Separator) (elements : List Node) :
    (array elements).marks separator =
      ⟨separator, .bracketOpen⟩ ::
        (elementMarks none elements ++ [⟨none, .bracketClose⟩]) := by
  simp only [marks, document, Document.marks, elementMarks]

@[simp]
theorem marks_function (separator : Option Separator) (name : String)
    (argument : Node) :
    (function name argument).marks separator =
      ⟨separator, .braceOpen⟩ :: ⟨none, .literal (.string name)⟩ ::
        (argument.marks (some .colon) ++ [⟨none, .braceClose⟩]) := by
  simp only [marks, document, Document.marks, Document.memberMarks,
    List.append_nil, List.cons_append]

@[simp]
theorem elementMarks_nil (separator : Option Separator) :
    elementMarks separator [] = [] := by
  simp only [elementMarks, documents, Document.elementMarks]

@[simp]
theorem elementMarks_cons (separator : Option Separator) (node : Node)
    (nodes : List Node) :
    elementMarks separator (node :: nodes) =
      node.marks separator ++ elementMarks (some .comma) nodes := by
  simp only [elementMarks, documents, Document.elementMarks, marks]

end Node

end Criteria
