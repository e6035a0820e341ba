import Criteria.Proofs.Json.Writer

/-!
# Canonical text is equality

Values with one canonical text are equal.  The converse fails in two places
only: a negative zero keeps its sign in the text, and integers beyond `2 ^ 53`
share their doubles with others.  Away from both, equal values have one
canonical text, because a float that is an integer is written by the digits of
that integer.
-/

namespace Criteria

/-! ## Doubles of one value -/

namespace FiniteDouble

/-- Whether a double is the zero that differs from zero in its sign only. -/
def isNegativeZero (double : FiniteDouble) : Bool :=
  double.isNegative && double.isZero

theorem isZero_iff_units {double : FiniteDouble} :
    double.isZero = true ↔ double.units = 0 := by
  have zero : patternUnits 0 = 0 := rfl
  rw [isZero, beq_iff_eq, units]
  constructor
  · intro pattern
    rw [pattern, zero]
  · intro none'
    exact strictMono_patternUnits.injective (none'.trans zero.symm)

/--
Two doubles of one value are the same unless one of them is the negative zero.
-/
theorem eq_of_signedUnits
    {left right : FiniteDouble}
    (leftSigned : left.isNegativeZero = false)
    (rightSigned : right.isNegativeZero = false)
    (equal : left.signedUnits = right.signedUnits) :
    left = right := by
  have units : left.units = right.units := by
    rw [units_eq_natAbs, units_eq_natAbs, equal]
  have pattern : left.pattern = right.pattern :=
    strictMono_patternUnits.injective units
  have sign : left.isNegative = right.isNegative := by
    rcases Nat.eq_zero_or_pos right.units with zero | positive
    · have leftZero := isZero_iff_units.mpr (units.trans zero)
      have rightZero := isZero_iff_units.mpr zero
      rw [isNegativeZero, leftZero, Bool.and_true] at leftSigned
      rw [isNegativeZero, rightZero, Bool.and_true] at rightSigned
      rw [leftSigned, rightSigned]
    · unfold signedUnits at equal
      rw [units] at equal
      split_ifs at equal with leftNegative rightNegative rightNegative
      · rw [leftNegative, rightNegative]
      · omega
      · omega
      · rw [Bool.eq_false_iff.mpr leftNegative,
          Bool.eq_false_iff.mpr rightNegative]
  cases left
  cases right
  simp only [mk.injEq]
  exact ⟨sign, pattern⟩

end FiniteDouble

/-! ## Numbers -/

namespace Number

/--
A number that is not the negative zero and does not exceed `2 ^ 53` in
magnitude.
-/
def IsPlain : Number → Prop
  | .integer value _ => value.natAbs ≤ 2 ^ 53
  | .float value =>
      value.units ≤ 2 ^ 53 * unitsPerOne ∧ value.isNegativeZero = false

/-- A plain number is written like its double. -/
theorem IsPlain.exists_double
    {number : Number} (plain : number.IsPlain) :
    ∃ double : FiniteDouble, number.toDouble = .finite double ∧
      double.isNegativeZero = false ∧
        Json.Style.canonical.number number =
          NumberStyle.canonical.writeFinite double := by
  cases number with
  | float value => exact ⟨value, rfl, plain.2, rfl⟩
  | integer value inRange =>
      rcases Double.exists_ofInt plain with ⟨double, isDouble, sign, units⟩
      refine ⟨double, isDouble, ?_, ?_⟩
      · refine Bool.eq_false_iff.mpr fun negativeZero => ?_
        rw [FiniteDouble.isNegativeZero, sign, Bool.and_eq_true,
          decide_eq_true_eq, FiniteDouble.isZero_iff_units, units,
          Nat.mul_eq_zero] at negativeZero
        have one := unitsPerOne_pos
        omega
      · have inPlace :
            NumberStyle.canonical.isPositional
              (floorLog10 value.natAbs) = true := by
          have few : floorLog10 value.natAbs < 16 :=
            floorLog10_lt (by decide) (Nat.lt_of_le_of_lt plain (by decide))
          simp only [NumberStyle.canonical, Bool.and_eq_true, decide_eq_true_eq]
          omega
        rw [NumberStyle.writeFinite_of_units units plain inPlace rfl, sign]
        simp [Json.Style.canonical, integerText]

/-- Plain numbers of one value have one canonical text. -/
theorem canonical_congr
    {left right : Number}
    (leftPlain : left.IsPlain) (rightPlain : right.IsPlain)
    (same : left.sameValue right = true) :
    Json.Style.canonical.number left = Json.Style.canonical.number right := by
  rcases leftPlain.exists_double with ⟨first, leftDouble, leftSigned, leftText⟩
  rcases rightPlain.exists_double with
      ⟨second, rightDouble, rightSigned, rightText⟩
  have value : first.signedUnits = second.signedUnits := by
    rw [sameValue, leftDouble, rightDouble] at same
    exact eq_of_beq same
  rw [leftText, rightText,
    FiniteDouble.eq_of_signedUnits leftSigned rightSigned value]

end Number

/-! ## Values -/

namespace Json

mutual

/-- Every number within a value has a property. -/
def EveryNumber (property : Number → Prop) : Json → Prop
  | .number value => property value
  | .array items => EveryNumberOfItems property items
  | .object members => EveryNumberOfMembers property members
  | .null | .bool _ | .string _ => True

/-- Every number within the items has a property. -/
def EveryNumberOfItems (property : Number → Prop) : List Json → Prop
  | [] => True
  | item :: items =>
      EveryNumber property item ∧ EveryNumberOfItems property items

/-- Every number within the values of the members has a property. -/
def EveryNumberOfMembers (property : Number → Prop) :
    List (String × Json) → Prop
  | [] => True
  | (_, value) :: members =>
      EveryNumber property value ∧ EveryNumberOfMembers property members

end

theorem write_array_congr
    {style : Style} {lefts rights : List Json}
    (equal : writeItems style lefts = writeItems style rights) :
    (array lefts).write style = (array rights).write style := by
  cases lefts with
  | nil => cases rights with
    | nil => rfl
    | cons => cases equal
  | cons left lefts => cases rights with
    | nil => cases equal
    | cons right rights => exact congrArg ('[' :: ·) (List.cons.inj equal).2

theorem write_object_congr
    {style : Style} {lefts rights : List (String × Json)}
    (equal : writeMembers style lefts = writeMembers style rights) :
    (object lefts).write style = (object rights).write style := by
  cases lefts with
  | nil => cases rights with
    | nil => rfl
    | cons => cases equal
  | cons left lefts => cases rights with
    | nil => cases equal
    | cons right rights => exact congrArg ('\x7b' :: ·) (List.cons.inj equal).2

mutual

/-- Equal values with plain numbers have one canonical text. -/
theorem write_canonical_congr
    {left right : Json}
    (leftPlain : left.EveryNumber Number.IsPlain)
    (rightPlain : right.EveryNumber Number.IsPlain)
    (equal : left.deepEqual right = true) :
    left.write .canonical = right.write .canonical := by
  match left with
  | .null => rw [eq_null_of_deepEqual equal]
  | .bool _ => rw [eq_bool_of_deepEqual equal]
  | .number _ =>
      rcases exists_number_of_deepEqual equal with ⟨other, rfl, same⟩
      exact Number.canonical_congr leftPlain rightPlain same
  | .string _ => rw [eq_string_of_deepEqual equal]
  | .array lefts =>
      rcases exists_array_of_deepEqual equal with ⟨rights, rfl, items⟩
      exact write_array_congr
        (writeItems_canonical_congr leftPlain rightPlain items)
  | .object lefts =>
      rcases exists_object_of_deepEqual equal with ⟨rights, rfl, members⟩
      exact write_object_congr
        (writeMembers_canonical_congr leftPlain rightPlain members)

theorem writeItems_canonical_congr
    {lefts rights : List Json}
    (leftPlain : EveryNumberOfItems Number.IsPlain lefts)
    (rightPlain : EveryNumberOfItems Number.IsPlain rights)
    (equal : itemsEqual lefts rights = true) :
    writeItems .canonical lefts = writeItems .canonical rights := by
  match lefts with
  | [] =>
      cases rights with
      | nil => rfl
      | cons => cases equal
  | left :: lefts =>
      rcases exists_cons_of_itemsEqual equal with
          ⟨right, others, rfl, item, items⟩
      rw [writeItems, writeItems,
        write_canonical_congr leftPlain.1 rightPlain.1 item,
        writeItems_canonical_congr leftPlain.2 rightPlain.2 items]

theorem writeMembers_canonical_congr
    {lefts rights : List (String × Json)}
    (leftPlain : EveryNumberOfMembers Number.IsPlain lefts)
    (rightPlain : EveryNumberOfMembers Number.IsPlain rights)
    (equal : membersEqual lefts rights = true) :
    writeMembers .canonical lefts = writeMembers .canonical rights := by
  match lefts with
  | [] =>
      cases rights with
      | nil => rfl
      | cons => cases equal
  | (key, left) :: lefts =>
      rcases exists_cons_of_membersEqual equal with
          ⟨right, others, rfl, value, members⟩
      rw [writeMembers, writeMembers,
        write_canonical_congr leftPlain.1 rightPlain.1 value,
        writeMembers_canonical_congr leftPlain.2 rightPlain.2 members]

end

/--
Values with one canonical text are equal; and equal values have one canonical
text if no number in them is a negative zero or exceeds `2 ^ 53` in magnitude.
-/
theorem canonicalText_identifies (left right : Json) :
    (left.canonicalText = right.canonicalText → left.deepEqual right = true) ∧
      (left.EveryNumber Number.IsPlain → right.EveryNumber Number.IsPlain →
        left.deepEqual right = true →
          left.canonicalText = right.canonicalText) := by
  constructor
  · intro equal
    have same := String.ofList_injective equal
    rw [← List.append_nil (left.write .canonical),
      ← List.append_nil (right.write .canonical)] at same
    exact (write_append_inj Style.canonical_faithful left right (stopsAt_nil _)
      (stopsAt_nil _) same).1
  · intro leftPlain rightPlain equal
    rw [canonicalText, canonicalText,
      write_canonical_congr leftPlain rightPlain equal]

/-- The float `1.0` has the canonical text of the integer `1`. -/
theorem canonicalText_identifies_one :
    (Json.number (.integer 1 (by decide))).EveryNumber Number.IsPlain ∧
      (Json.number (.float ⟨false, 1023 * 2 ^ 52, by decide⟩)).EveryNumber
        Number.IsPlain ∧
        (Json.number (.integer 1 (by decide))).deepEqual
            (.number (.float ⟨false, 1023 * 2 ^ 52, by decide⟩)) = true ∧
          (Json.number (.integer 1 (by decide))).canonicalText =
            (Json.number
              (.float ⟨false, 1023 * 2 ^ 52, by decide⟩)).canonicalText := by
  have integerPlain :
      (Json.number (.integer 1 (by decide))).EveryNumber Number.IsPlain :=
    show Int.natAbs 1 ≤ 2 ^ 53 by decide
  have floatPlain :
      (Json.number (.float ⟨false, 1023 * 2 ^ 52, by decide⟩)).EveryNumber
        Number.IsPlain :=
    show patternUnits (1023 * 2 ^ 52) ≤ 2 ^ 53 * unitsPerOne ∧ _ by
      decide +kernel
  have equal : (Json.number (.integer 1 (by decide))).deepEqual
      (.number (.float ⟨false, 1023 * 2 ^ 52, by decide⟩)) = true := by
    decide +kernel
  exact ⟨integerPlain, floatPlain, equal,
    (canonicalText_identifies _ _).2 integerPlain floatPlain equal⟩

end Json

end Criteria
