import Mathlib.Data.List.Forall2
import Criteria.Entries
import Criteria.Evaluation.Lookup

/-!
# Equality of values is an equivalence

Deep equality is reflexive, symmetric and transitive, since numbers are
compared by their doubles and the doubles of numbers are never not-a-number.
What conditions ask of a value does not tell equal values apart: its kind, its
truth, its order among numbers, and what stands at a path into it.  Objects
are compared member by member; since their members are in order, that is the
same as comparing what they have under every key.
-/

namespace Criteria

/-! ## Doubles of the same value -/

namespace FiniteDouble

theorem units_eq_natAbs (double : FiniteDouble) :
    double.units = double.signedUnits.natAbs := by
  unfold signedUnits
  split <;> simp

end FiniteDouble

namespace Double

/--
Doubles have the same value if they are finite with the same units, or the same
infinity.
-/
theorem sameValue_iff {left right : Double} :
    left.sameValue right = true ↔
      (∃ first second, left = .finite first ∧ right = .finite second ∧
        first.signedUnits = second.signedUnits) ∨
      ∃ isNegative, left = .infinite isNegative ∧
        right = .infinite isNegative := by
  constructor
  · intro same
    cases left with
    | finite first =>
        cases right with
        | finite second =>
            have equal : first.signedUnits = second.signedUnits :=
              eq_of_beq same
            exact Or.inl ⟨first, second, rfl, rfl, equal⟩
        | infinite => cases same
        | nan => cases same
    | infinite first =>
        cases right with
        | finite => cases same
        | infinite second =>
            obtain rfl : first = second := by simpa [sameValue] using same
            exact Or.inr ⟨first, rfl, rfl⟩
        | nan => cases same
    | nan => cases right <;> cases same
  · rintro (⟨first, second, rfl, rfl, equal⟩ | ⟨isNegative, rfl, rfl⟩)
    · simpa [sameValue, FiniteDouble.sameValue] using equal
    · simp [sameValue]

theorem sameValue_refl {double : Double} (isNumber : double ≠ .nan) :
    double.sameValue double = true := by
  rw [sameValue_iff]
  cases double with
  | finite value => exact Or.inl ⟨value, value, rfl, rfl, rfl⟩
  | infinite isNegative => exact Or.inr ⟨isNegative, rfl, rfl⟩
  | nan => exact absurd rfl isNumber

theorem sameValue_symm
    {left right : Double} (same : left.sameValue right = true) :
    right.sameValue left = true := by
  rw [sameValue_iff] at same ⊢
  rcases same with ⟨first, second, rfl, rfl, equal⟩ | ⟨isNegative, rfl, rfl⟩
  · exact Or.inl ⟨second, first, rfl, rfl, equal.symm⟩
  · exact Or.inr ⟨isNegative, rfl, rfl⟩

theorem sameValue_trans
    {left middle right : Double}
    (leftSame : left.sameValue middle = true)
    (rightSame : middle.sameValue right = true) :
    left.sameValue right = true := by
  rw [sameValue_iff] at leftSame rightSame ⊢
  rcases leftSame with ⟨first, second, rfl, rfl, equal⟩ | ⟨isNegative, rfl, rfl⟩
  · rcases rightSame with ⟨_, third, same, rfl, later⟩ | ⟨_, infinite, _⟩
    · cases same
      exact Or.inl ⟨first, third, rfl, rfl, equal.trans later⟩
    · cases infinite
  · rcases rightSame with ⟨_, _, finite, _⟩ | ⟨_, same, rfl⟩
    · cases finite
    · cases same
      exact Or.inr ⟨isNegative, rfl, rfl⟩

/-- The order of doubles does not tell doubles of the same value apart. -/
theorem lt_congr
    {left left' right right' : Double}
    (leftSame : left.sameValue left' = true)
    (rightSame : right.sameValue right' = true) :
    left.lt right = left'.lt right' := by
  rw [sameValue_iff] at leftSame rightSame
  rcases leftSame with ⟨first, first', rfl, rfl, leftEqual⟩ |
    ⟨isNegative, rfl, rfl⟩
  · rcases rightSame with ⟨second, second', rfl, rfl, rightEqual⟩ |
      ⟨_, rfl, rfl⟩
    · simp only [lt, FiniteDouble.lt, leftEqual, rightEqual]
    · rfl
  · rcases rightSame with ⟨second, second', rfl, rfl, _⟩ | ⟨_, rfl, rfl⟩
    · rfl
    · rfl

/-- Equality of doubles does not tell doubles of the same value apart. -/
theorem sameValue_congr
    {left left' right right' : Double}
    (leftSame : left.sameValue left' = true)
    (rightSame : right.sameValue right' = true) :
    left.sameValue right = left'.sameValue right' := by
  rw [Bool.eq_iff_iff]
  constructor
  · intro same
    exact sameValue_trans (sameValue_symm leftSame)
      (sameValue_trans same rightSame)
  · intro same
    exact sameValue_trans leftSame
      (sameValue_trans same (sameValue_symm rightSame))

theorem le_congr
    {left left' right right' : Double}
    (leftSame : left.sameValue left' = true)
    (rightSame : right.sameValue right' = true) :
    left.le right = left'.le right' := by
  rw [le, le, lt_congr leftSame rightSame, sameValue_congr leftSame rightSame]

end Double

/-! ## Numbers of the same value -/

namespace Number

theorem toDouble_ne_nan (number : Number) : number.toDouble ≠ .nan := by
  cases number with
  | integer value inRange =>
      simp only [toDouble, Double.ofInt, Double.ofRatio, Double.ofPattern]
      split <;> simp
  | float value => simp [toDouble]

theorem sameValue_refl (number : Number) : number.sameValue number = true :=
  Double.sameValue_refl number.toDouble_ne_nan

/-- Numbers of the same value stand for the same position. -/
theorem position?_congr
    {left right : Number} (same : left.sameValue right = true) :
    left.position? = right.position? := by
  rw [sameValue, Double.sameValue_iff] at same
  rcases same with ⟨first, second, leftFinite, rightFinite, equal⟩ |
    ⟨_, leftInfinite, rightInfinite⟩
  · have units : first.units = second.units := by
      rw [first.units_eq_natAbs, second.units_eq_natAbs, equal]
    simp only [position?, leftFinite, rightFinite, FiniteDouble.isIntegral,
      FiniteDouble.wholePart, equal, units]
    rfl
  · simp only [position?, leftInfinite, rightInfinite]

end Number

namespace Json

/-! ## What equals a value -/

theorem eq_null_of_deepEqual {right : Json}
    (equal : null.deepEqual right = true) :
    right = .null := by
  cases right <;> simp_all [deepEqual]

theorem eq_bool_of_deepEqual {left : Bool} {right : Json}
    (equal : (bool left).deepEqual right = true) :
    right = .bool left := by
  cases right <;> simp_all [deepEqual]

theorem eq_string_of_deepEqual {left : String} {right : Json}
    (equal : (string left).deepEqual right = true) :
    right = .string left := by
  cases right <;> simp_all [deepEqual]

theorem exists_number_of_deepEqual {left : Number} {right : Json}
    (equal : (number left).deepEqual right = true) :
    ∃ other, right = .number other ∧ left.sameValue other = true := by
  cases right <;> simp_all [deepEqual]

theorem exists_array_of_deepEqual {lefts : List Json} {right : Json}
    (equal : (array lefts).deepEqual right = true) :
    ∃ rights, right = .array rights ∧ itemsEqual lefts rights = true := by
  cases right <;> simp_all [deepEqual]

theorem exists_object_of_deepEqual {lefts : List (String × Json)} {right : Json}
    (equal : (object lefts).deepEqual right = true) :
    ∃ rights, right = .object rights ∧ membersEqual lefts rights = true := by
  cases right <;> simp_all [deepEqual]

theorem exists_cons_of_itemsEqual {left : Json} {lefts rights : List Json}
    (equal : itemsEqual (left :: lefts) rights = true) :
    ∃ right others, rights = right :: others ∧ left.deepEqual right = true ∧
      itemsEqual lefts others = true := by
  cases rights <;> simp_all [itemsEqual]

theorem exists_cons_of_membersEqual
    {key : String} {left : Json} {lefts rights : List (String × Json)}
    (equal : membersEqual ((key, left) :: lefts) rights = true) :
    ∃ right others, rights = (key, right) :: others ∧
      left.deepEqual right = true ∧
      membersEqual lefts others = true := by
  match rights with
  | [] => cases equal
  | (otherKey, right) :: others =>
      simp only [membersEqual, Bool.and_eq_true, beq_iff_eq] at equal
      rcases equal with ⟨⟨rfl, value⟩, later⟩
      exact ⟨right, others, rfl, value, later⟩

/-! ## The equivalence -/

mutual

theorem deepEqual_refl (value : Json) : value.deepEqual value = true := by
  match value with
  | .null => rfl
  | .bool _ => simp [deepEqual]
  | .number found =>
      simp only [deepEqual]
      exact found.sameValue_refl
  | .string _ => simp [deepEqual]
  | .array items =>
      simp only [deepEqual]
      exact itemsEqual_refl items
  | .object members =>
      simp only [deepEqual]
      exact membersEqual_refl members

theorem itemsEqual_refl (items : List Json) :
    itemsEqual items items = true := by
  match items with
  | [] => rfl
  | item :: items =>
      simp only [itemsEqual, deepEqual_refl item, itemsEqual_refl items,
        Bool.and_self]

theorem membersEqual_refl (members : List (String × Json)) :
    membersEqual members members = true := by
  match members with
  | [] => rfl
  | (key, value) :: members =>
      simp only [membersEqual, deepEqual_refl value, membersEqual_refl members,
        beq_self_eq_true, Bool.and_self]

end

mutual

theorem deepEqual_symm
    {left right : Json} (equal : left.deepEqual right = true) :
    right.deepEqual left = true := by
  match left with
  | .null =>
      rw [eq_null_of_deepEqual equal]
      rfl
  | .bool _ =>
      rw [eq_bool_of_deepEqual equal]
      exact deepEqual_refl _
  | .number _ =>
      rcases exists_number_of_deepEqual equal with ⟨other, rfl, same⟩
      simp only [deepEqual]
      exact Double.sameValue_symm same
  | .string _ =>
      rw [eq_string_of_deepEqual equal]
      exact deepEqual_refl _
  | .array lefts =>
      rcases exists_array_of_deepEqual equal with ⟨rights, rfl, items⟩
      simp only [deepEqual]
      exact itemsEqual_symm items
  | .object lefts =>
      rcases exists_object_of_deepEqual equal with ⟨rights, rfl, members⟩
      simp only [deepEqual]
      exact membersEqual_symm members

theorem itemsEqual_symm
    {lefts rights : List Json} (equal : itemsEqual lefts rights = true) :
    itemsEqual rights lefts = true := by
  match lefts with
  | [] => cases rights <;> first | rfl | cases equal
  | left :: lefts =>
      rcases exists_cons_of_itemsEqual equal with
          ⟨right, others, rfl, item, items⟩
      simp only [itemsEqual, Bool.and_eq_true]
      exact ⟨deepEqual_symm item, itemsEqual_symm items⟩

theorem membersEqual_symm
    {lefts rights : List (String × Json)}
    (equal : membersEqual lefts rights = true) :
    membersEqual rights lefts = true := by
  match lefts with
  | [] => cases rights <;> first | rfl | cases equal
  | (key, left) :: lefts =>
      rcases exists_cons_of_membersEqual equal with
          ⟨right, others, rfl, value, members⟩
      simp only [membersEqual, Bool.and_eq_true, beq_iff_eq]
      exact ⟨⟨trivial, deepEqual_symm value⟩, membersEqual_symm members⟩

end

mutual

theorem deepEqual_trans
    {left middle right : Json}
    (first : left.deepEqual middle = true)
    (second : middle.deepEqual right = true) :
    left.deepEqual right = true := by
  match left with
  | .null =>
      rw [eq_null_of_deepEqual first] at second
      exact second
  | .bool _ =>
      rw [eq_bool_of_deepEqual first] at second
      exact second
  | .number _ =>
      rcases exists_number_of_deepEqual first with ⟨_, rfl, same⟩
      rcases exists_number_of_deepEqual second with ⟨_, rfl, later⟩
      simp only [deepEqual]
      exact Double.sameValue_trans same later
  | .string _ =>
      rw [eq_string_of_deepEqual first] at second
      exact second
  | .array _ =>
      rcases exists_array_of_deepEqual first with ⟨_, rfl, items⟩
      rcases exists_array_of_deepEqual second with ⟨_, rfl, later⟩
      simp only [deepEqual]
      exact itemsEqual_trans items later
  | .object _ =>
      rcases exists_object_of_deepEqual first with ⟨_, rfl, members⟩
      rcases exists_object_of_deepEqual second with ⟨_, rfl, later⟩
      simp only [deepEqual]
      exact membersEqual_trans members later

theorem itemsEqual_trans
    {lefts middles rights : List Json}
    (first : itemsEqual lefts middles = true)
    (second : itemsEqual middles rights = true) :
    itemsEqual lefts rights = true := by
  match lefts with
  | [] =>
      cases middles with
      | nil => exact second
      | cons => cases first
  | left :: lefts =>
      rcases exists_cons_of_itemsEqual first with ⟨_, _, rfl, item, items⟩
      rcases exists_cons_of_itemsEqual second with ⟨_, _, rfl, laterItem, later⟩
      simp only [itemsEqual, Bool.and_eq_true]
      exact ⟨deepEqual_trans item laterItem, itemsEqual_trans items later⟩

theorem membersEqual_trans
    {lefts middles rights : List (String × Json)}
    (first : membersEqual lefts middles = true)
    (second : membersEqual middles rights = true) :
    membersEqual lefts rights = true := by
  match lefts with
  | [] =>
      cases middles with
      | nil => exact second
      | cons => cases first
  | (key, left) :: lefts =>
      rcases exists_cons_of_membersEqual first with ⟨_, _, rfl, value, members⟩
      rcases exists_cons_of_membersEqual second with
          ⟨_, _, rfl, laterValue, later⟩
      simp only [membersEqual, Bool.and_eq_true, beq_iff_eq]
      exact ⟨⟨trivial, deepEqual_trans value laterValue⟩,
        membersEqual_trans members later⟩

end

theorem deepEqual_congr
    {left left' right right' : Json}
    (leftEqual : left.deepEqual left' = true)
    (rightEqual : right.deepEqual right' = true) :
    left.deepEqual right = left'.deepEqual right' := by
  rw [Bool.eq_iff_iff]
  constructor
  · intro equal
    exact deepEqual_trans (deepEqual_symm leftEqual)
      (deepEqual_trans equal rightEqual)
  · intro equal
    exact deepEqual_trans leftEqual
      (deepEqual_trans equal (deepEqual_symm rightEqual))

/-- Items are equal when they are equal one by one. -/
theorem itemsEqual_of_forall₂
    {lefts rights : List Json}
    (equal : List.Forall₂ (fun left right => left.deepEqual right = true)
      lefts rights) :
    itemsEqual lefts rights = true := by
  induction equal with
  | nil => rfl
  | cons first _ ih => rw [itemsEqual, first, ih, Bool.and_self]

/-! ## What conditions ask of a value -/

theorem kind_congr {left right : Json} (equal : left.deepEqual right = true) :
    left.kind = right.kind := by
  cases left <;> cases right <;> first | rfl | simp [deepEqual] at equal

theorem isTruthy_congr {left right : Json}
    (equal : left.deepEqual right = true) :
    left.isTruthy = right.isTruthy := by
  cases left with
  | bool value => rw [eq_bool_of_deepEqual equal]
  | null => rw [eq_null_of_deepEqual equal]
  | number => obtain ⟨_, rfl, _⟩ := exists_number_of_deepEqual equal; rfl
  | string => rw [eq_string_of_deepEqual equal]
  | array => obtain ⟨_, rfl, _⟩ := exists_array_of_deepEqual equal; rfl
  | object => obtain ⟨_, rfl, _⟩ := exists_object_of_deepEqual equal; rfl

/-- Both values are missing, or both are there and equal. -/
def OptionsEqual (left right : Option Json) : Prop :=
  Option.Rel (fun left right => left.deepEqual right = true) left right

theorem OptionsEqual.isSome_eq
    {left right : Option Json} (equal : OptionsEqual left right) :
    left.isSome = right.isSome := by
  cases equal with
  | some => rfl
  | none => rfl

theorem getElem?_congr
    {lefts rights : List Json} (equal : itemsEqual lefts rights = true)
    (position : Nat) :
    OptionsEqual lefts[position]? rights[position]? := by
  induction lefts generalizing rights position with
  | nil =>
      cases rights with
      | nil => exact .none
      | cons => cases equal
  | cons left lefts ih =>
      rcases exists_cons_of_itemsEqual equal with
          ⟨right, others, rfl, item, items⟩
      cases position with
      | zero => exact .some item
      | succ position => simpa using ih items position

theorem lookup_congr
    {lefts rights : List (String × Json)}
    (equal : membersEqual lefts rights = true)
    (key : String) :
    OptionsEqual (lefts.lookup key) (rights.lookup key) := by
  induction lefts generalizing rights with
  | nil =>
      cases rights with
      | nil => exact .none
      | cons => cases equal
  | cons member lefts ih =>
      rcases member with ⟨memberKey, left⟩
      rcases exists_cons_of_membersEqual equal with
          ⟨right, others, rfl, value, members⟩
      rw [List.lookup_cons, List.lookup_cons]
      cases key == memberKey with
      | true => exact .some value
      | false => exact ih members

/-! ## Objects as maps -/

/-- No value is found under a key before all others. -/
theorem lookup_eq_none_of_above
    {key : String} {members : List (String × Json)}
    (above : ∀ member ∈ members, key < member.1) :
    members.lookup key = none := by
  rw [List.lookup_eq_none_iff]
  intro member isMember
  rw [bne_iff_ne]
  exact String.ne_of_lt (above member isMember)

/-- The first key is the least under which a value is found. -/
theorem le_of_isSome_lookup
    {first key : String} {value : Json} {members : List (String × Json)}
    (above : ∀ member ∈ members, first < member.1)
    (found : (((first, value) :: members).lookup key).isSome = true) :
    first ≤ key := by
  apply String.not_lt.mp
  intro below
  rw [lookup_eq_none_of_above] at found
  · cases found
  · intro member isMember
    rcases List.mem_cons.mp isMember with rfl | later
    · exact below
    · exact String.lt_trans below (above member later)

/-- Objects with equal values under every key have a common first key. -/
theorem first_keys_eq
    {leftKey rightKey : String} {left right : Json}
    {lefts rights : List (String × Json)}
    (leftAbove : ∀ member ∈ lefts, leftKey < member.1)
    (rightAbove : ∀ member ∈ rights, rightKey < member.1)
    (equal : ∀ key,
      OptionsEqual (((leftKey, left) :: lefts).lookup key)
        (((rightKey, right) :: rights).lookup key)) :
    leftKey = rightKey := by
  have atLeft := (equal leftKey).isSome_eq
  have atRight := (equal rightKey).isSome_eq
  rw [List.lookup_cons_self] at atLeft atRight
  apply String.le_antisymm
  · exact le_of_isSome_lookup leftAbove atRight
  · exact le_of_isSome_lookup rightAbove atLeft.symm

/--
Objects with a common first key and equal values under every key have so without
that key.
-/
theorem optionsEqual_lookup_tails
    {key : String} {left right : Json} {lefts rights : List (String × Json)}
    (leftAbove : ∀ member ∈ lefts, key < member.1)
    (rightAbove : ∀ member ∈ rights, key < member.1)
    (equal : ∀ wanted,
      OptionsEqual (((key, left) :: lefts).lookup wanted)
        (((key, right) :: rights).lookup wanted))
    (wanted : String) :
    OptionsEqual (lefts.lookup wanted) (rights.lookup wanted) := by
  by_cases same : wanted = key
  · rw [same, lookup_eq_none_of_above leftAbove,
      lookup_eq_none_of_above rightAbove]
    exact .none
  · have later := equal wanted
    rw [List.lookup_cons, List.lookup_cons,
      beq_eq_false_iff_ne.mpr same] at later
    exact later

/--
Ordered objects are equal exactly when they have equal values under every key.
-/
theorem membersEqual_iff_lookup
    {lefts rights : List (String × Json)}
    (leftOrdered : Entries.Ordered lefts)
    (rightOrdered : Entries.Ordered rights) :
    membersEqual lefts rights = true ↔
      ∀ key, OptionsEqual (lefts.lookup key) (rights.lookup key) := by
  constructor
  · exact lookup_congr
  · intro equal
    induction lefts generalizing rights with
    | nil =>
        cases rights with
        | nil => rfl
        | cons member rights =>
            have first := equal member.1
            rw [List.lookup_nil, List.lookup_cons_self] at first
            cases first
    | cons member lefts ih =>
        rcases member with ⟨leftKey, left⟩
        rcases List.pairwise_cons.mp leftOrdered with ⟨leftAbove, leftsOrdered⟩
        cases rights with
        | nil =>
            have first := equal leftKey
            rw [List.lookup_nil, List.lookup_cons_self] at first
            cases first
        | cons member rights =>
            rcases member with ⟨rightKey, right⟩
            rcases List.pairwise_cons.mp rightOrdered with
                ⟨rightAbove, rightsOrdered⟩
            obtain rfl := first_keys_eq leftAbove rightAbove equal
            have first := equal leftKey
            rw [List.lookup_cons_self, List.lookup_cons_self] at first
            have value : left.deepEqual right = true := by
              cases first with
              | some value => exact value
            have later := ih leftsOrdered rightsOrdered
              (optionsEqual_lookup_tails leftAbove rightAbove equal)
            rw [membersEqual, value, later, beq_self_eq_true, Bool.and_self,
              Bool.and_self]

end Json

end Criteria
