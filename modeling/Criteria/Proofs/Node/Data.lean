import Criteria.Proofs.Json.Form
import Criteria.Proofs.Node.Acceptance

/-!
# Data as conditions

A value without objects is written like a condition without functions, which
has the same shape.  A number becomes the literal of its double, for that is
what a faithful style writes of it; so all faithful styles write texts of one
condition, although they write different texts.
-/

namespace Criteria

namespace Json

/-! ## Values without objects -/

mutual

/-- No object stands anywhere within a value. -/
def ObjectFree : Json → Prop
  | .null | .bool _ | .number _ | .string _ => True
  | .array items => ItemsObjectFree items
  | .object _ => False

/-- No object stands anywhere within the items. -/
def ItemsObjectFree : List Json → Prop
  | [] => True
  | item :: items => ObjectFree item ∧ ItemsObjectFree items

end

mutual

/-- How deep arrays and objects nest within a value; others have no nesting. -/
def nesting : Json → Nat
  | .null | .bool _ | .number _ | .string _ => 0
  | .array items => itemNesting items + 1
  | .object members => memberNesting members + 1

/-- The greatest nesting among items, zero if there are none. -/
def itemNesting : List Json → Nat
  | [] => 0
  | item :: items => max (nesting item) (itemNesting items)

/-- The greatest nesting among the values of members, zero if there are none. -/
def memberNesting : List (String × Json) → Nat
  | [] => 0
  | (_, value) :: members => max (nesting value) (memberNesting members)

end

mutual

/-- The number of values within a value, which is one of them. -/
def size : Json → Nat
  | .null | .bool _ | .number _ | .string _ => 1
  | .array items => itemSize items + 1
  | .object members => memberSize members + 1

/-- The size of several items together. -/
def itemSize : List Json → Nat
  | [] => 0
  | item :: items => size item + itemSize items

/-- The size of the values of several members together. -/
def memberSize : List (String × Json) → Nat
  | [] => 0
  | (_, value) :: members => size value + memberSize members

end

/-! ## The condition that a value is -/

mutual

/-- A value without objects as a condition. -/
def condition : (value : Json) → value.ObjectFree → Node
  | .null, _ => .literal .null
  | .bool value, _ => .literal (.boolean value)
  | .number value, _ => .literal (.number value.toDouble)
  | .string value, _ => .literal (.string value)
  | .array items, free => .array (conditions items free)
  | .object _, free => free.elim

/-- Items without objects as conditions. -/
def conditions : (items : List Json) → ItemsObjectFree items → List Node
  | [], _ => []
  | item :: items, free => condition item free.1 :: conditions items free.2

end

mutual

@[simp]
theorem nesting_condition (value : Json) (free : value.ObjectFree) :
    (value.condition free).nesting = value.nesting := by
  match value with
  | .null | .bool _ | .number _ | .string _ => rfl
  | .array items =>
      exact congrArg (· + 1) (greatestNesting_conditions items free)
  | .object _ => exact free.elim

theorem greatestNesting_conditions
    (items : List Json) (free : ItemsObjectFree items) :
    Node.greatestNesting (conditions items free) = itemNesting items := by
  match items with
  | [] => rfl
  | item :: items =>
      rw [conditions, Node.greatestNesting, itemNesting, nesting_condition item,
        greatestNesting_conditions items]

end

mutual

@[simp]
theorem nodeCount_condition (value : Json) (free : value.ObjectFree) :
    (value.condition free).nodeCount = value.size := by
  match value with
  | .null | .bool _ | .number _ | .string _ => rfl
  | .array items =>
      exact congrArg (· + 1) (totalCount_conditions items free)
  | .object _ => exact free.elim

theorem totalCount_conditions
    (items : List Json) (free : ItemsObjectFree items) :
    Node.totalCount (conditions items free) = itemSize items := by
  match items with
  | [] => rfl
  | item :: items =>
      rw [conditions, Node.totalCount, itemSize, nodeCount_condition item,
        totalCount_conditions items]

end

/-! ## The text of the condition -/

variable {style : Style}

/-- What a style writes of a number is a written form of its double. -/
theorem spells_number (faithful : style.Faithful) (number : Number) :
    (Literal.number number.toDouble).Spells (style.number number) := by
  rcases faithful.number number with ⟨numeral, wellFormed, text, double⟩
  rcases number.exists_toDouble_eq_finite with ⟨nearest, finite⟩
  rw [finite] at double ⊢
  rcases Token.toDouble_eq_finite_iff.mp double with ⟨sign, rounded⟩
  rw [← text]
  exact .number wellFormed sign rounded

theorem spells_string (faithful : style.Faithful) (text : String) :
    (Literal.string text).Spells (writeString style text) :=
  .string (.flatMap faithful.character text.toList)

theorem isText_of_isValue
    {document : Document} {written : List Char}
    (isValue : document.IsValue written) : document.IsText written := by
  have padded := Document.IsText.padded Token.isBlanks_nil isValue
    Token.isBlanks_nil
  rwa [List.nil_append, List.append_nil] at padded

mutual

/-- A written value is a text of its condition. -/
theorem isValue_write
    (faithful : style.Faithful) (value : Json) (free : value.ObjectFree) :
    (value.condition free).document.IsValue (value.write style) := by
  match value with
  | .null => exact .literal .null
  | .bool true => exact .literal .true
  | .bool false => exact .literal .false
  | .number value => exact .literal (spells_number faithful value)
  | .string text => exact .literal (spells_string faithful text)
  | .array items =>
      cases items with
      | nil => exact .emptyArray Token.isBlanks_nil
      | cons item others =>
          rcases areElements_writeItems faithful (item :: others) free
            nofun with ⟨texts, split, areElements⟩
          have behindComma := (List.cons.inj split).2
          rw [write, behindComma]
          exact .array areElements
  | .object _ => exact free.elim

/--
Written items, if there are any, are texts of their conditions with commas
between them, behind a comma and in front of the bracket.
-/
theorem areElements_writeItems
    (faithful : style.Faithful) (items : List Json)
    (free : ItemsObjectFree items) (nonempty : items ≠ []) :
    ∃ texts, writeItems style items = ',' :: (texts ++ [']']) ∧
      Document.AreElements (Node.documents (conditions items free)) texts := by
  match items with
  | item :: items =>
      have isText := isText_of_isValue (isValue_write faithful item free.1)
      have later := areElements_writeItems faithful items free.2
      cases items with
      | nil => exact ⟨_, rfl, .last isText⟩
      | cons next others =>
          rcases later nofun with ⟨texts, split, areElements⟩
          refine ⟨item.write style ++ ',' :: texts, ?_,
            .more isText areElements⟩
          rw [writeItems, split, List.append_assoc, List.cons_append]

end

/--
A written value parses as its condition under all limits that allow for its
nesting and its size.
-/
theorem parse_write
    (faithful : style.Faithful) {value : Json} (free : value.ObjectFree)
    {limits : Limits} (shallow : value.nesting ≤ limits.maxDepth)
    (small : value.size ≤ limits.maxNodes) :
    parse limits (String.ofList (value.write style)) =
      .ok (value.condition free) := by
  refine parse_eq_ok_iff.mpr ⟨?_, ?_, ?_⟩
  · rw [String.toList_ofList]
    exact isText_of_isValue (isValue_write faithful value free)
  · rwa [nesting_condition]
  · rwa [nodeCount_condition]

end Json

end Criteria
