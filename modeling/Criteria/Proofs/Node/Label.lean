import Criteria.Node.Tree
import Criteria.Proofs.Evaluation.Calls
import Criteria.Proofs.Number.Style

/-!
# Labels tell nodes apart

The label of a node shows what the node is, apart from its children: literals,
arrays and functions begin differently, kinds of literals have different names,
and a number is written so that it reads back.  If its texts hold no line feed
and its numbers are finite, a label is a single line.
-/

namespace Criteria

/-! ## Numbers -/

/-- A number is written in one line. -/
theorem NumberStyle.lineFeed_notMem_writeFinite
    (style : NumberStyle) (double : FiniteDouble) :
    '\n' ∉ style.writeFinite double := by
  rcases style.exists_numeral double with ⟨numeral, wellFormed, text, _⟩
  rw [← text]
  intro member
  exact absurd (wellFormed.bounds_of_mem_text member).1 (by decide)

/-- Doubles that a style writes alike are the same. -/
theorem NumberStyle.writeFinite_injective (style : NumberStyle) :
    Function.Injective style.writeFinite := by
  intro left right equal
  rcases style.exists_numeral left with
    ⟨first, leftFormed, leftText, leftDouble⟩
  rcases style.exists_numeral right with
    ⟨second, rightFormed, rightText, rightDouble⟩
  have leftRead := Numeral.read?_text_append leftFormed
    (stopsAt_nil Numeral.goesOn)
  have rightRead := Numeral.read?_text_append rightFormed
    (stopsAt_nil Numeral.goesOn)
  rw [leftText, equal, ← rightText, rightRead] at leftRead
  simp only [Option.some.injEq, Prod.mk.injEq, and_true] at leftRead
  rw [leftRead, leftDouble] at rightDouble
  exact Double.finite.inj rightDouble

/-! ## Literals -/

namespace Literal

/-- A literal whose number is finite and whose text is a single line. -/
def FitsLine : Literal → Prop
  | .number value => ∃ double, value = .finite double
  | .string text => '\n' ∉ text.toList
  | .boolean _ | .null => True

/-- What stands between the brackets of a label. -/
def labelInside (literal : Literal) : List Char :=
  literal.kind.name.toList ++
    literal.labelText.elim [] fun text => "::".toList ++ text

theorem toList_label (literal : Literal) :
    literal.label.toList =
      "LITERAL<".toList ++ (literal.labelInside ++ ['>']) := by
  rw [label, labelInside]
  cases literal.labelText <;> simp

theorem lineFeed_notMem_labelInside
    {literal : Literal} (fits : literal.FitsLine) :
    '\n' ∉ literal.labelInside := by
  cases literal with
  | number value =>
      rcases fits with ⟨double, rfl⟩
      have text := NumberStyle.label.lineFeed_notMem_writeFinite double
      simp [labelInside, labelText, kind, Kind.name, NumberStyle.write, text]
  | string text =>
      have single : '\n' ∉ text.toList := fits
      simp [labelInside, labelText, kind, Kind.name, single]
  | boolean value => cases value <;> decide
  | null => decide

/-- A label tells literals apart. -/
theorem eq_of_labelInside
    {left right : Literal} (leftFits : left.FitsLine)
    (rightFits : right.FitsLine)
    (equal : left.labelInside = right.labelInside) : left = right := by
  cases left with
  | number value =>
      rcases leftFits with ⟨double, rfl⟩
      cases right with
      | number other =>
          rcases rightFits with ⟨other, rfl⟩
          simp only [labelInside, labelText, kind, NumberStyle.write,
            Option.elim_some, List.append_cancel_left_eq] at equal
          rw [NumberStyle.writeFinite_injective _ equal]
      | _ => simp [labelInside, labelText, kind, Kind.name] at equal
  | string text =>
      cases right with
      | string other =>
          simp only [labelInside, labelText, kind, Option.elim_some,
            List.append_cancel_left_eq] at equal
          rw [String.toList_injective equal]
      | _ => simp [labelInside, labelText, kind, Kind.name] at equal
  | boolean value =>
      cases right with
      | boolean other =>
          cases value <;> cases other <;>
            simp [labelInside, labelText, kind] at equal ⊢
      | _ => simp [labelInside, kind, Kind.name] at equal
  | null =>
      cases right with
      | null => rfl
      | _ => simp [labelInside, labelText, kind, Kind.name] at equal

end Literal

/-! ## Nodes -/

namespace Node

/-- A node whose label is a single line. -/
def FitsLine : Node → Prop
  | .literal value => value.FitsLine
  | .array _ => True
  | .function name _ => '\n' ∉ name.toList

/-- A tree all of whose labels are single lines. -/
def Drawable (root : Node) : Prop :=
  ∀ node, root.Contains node → node.FitsLine

theorem Drawable.fitsLine {root : Node} (drawable : root.Drawable) :
    root.FitsLine :=
  drawable root .refl

theorem Drawable.of_mem_children
    {root child : Node} (drawable : root.Drawable)
    (member : child ∈ root.children) : child.Drawable :=
  fun node contains => drawable node (.head member contains)

theorem lineFeed_notMem_label
    {node : Node} (fits : node.FitsLine) : '\n' ∉ node.label.toList := by
  cases node with
  | literal value =>
      rw [label, value.toList_label]
      simp [Literal.lineFeed_notMem_labelInside fits]
  | array => simp [label]
  | function name argument =>
      have single : '\n' ∉ name.toList := fits
      simp [label, single]

/-- A label tells nodes apart, but for their children. -/
theorem eq_of_label
    {left right : Node} (leftFits : left.FitsLine) (rightFits : right.FitsLine)
    (labels : left.label.toList = right.label.toList)
    (sameChildren : left.children = right.children) : left = right := by
  cases left with
  | literal value =>
      cases right with
      | literal other =>
          simp only [label, Literal.toList_label, List.append_cancel_left_eq,
            List.append_cancel_right_eq] at labels
          rw [Literal.eq_of_labelInside leftFits rightFits labels]
      | _ => simp [label, Literal.toList_label] at labels
  | array elements =>
      cases right with
      | array others =>
          have same : elements = others := sameChildren
          rw [same]
      | _ => simp [label, Literal.toList_label] at labels
  | function name argument =>
      cases right with
      | function other operand =>
          simp only [label, String.toList_append, List.append_cancel_left_eq,
            List.append_cancel_right_eq] at labels
          rw [String.toList_injective labels,
            List.singleton_inj.mp sameChildren]
      | _ => simp [label, Literal.toList_label] at labels

end Node

end Criteria
