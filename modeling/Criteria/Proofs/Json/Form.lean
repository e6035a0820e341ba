import Criteria.Proofs.Json.Canonical
import Criteria.Proofs.Number.Integer

/-!
# The form of numbers

Every number has a finite double.  A double gives its number the form of an
integer up to `2 ^ 53` in magnitude and of a float otherwise, whichever of the
two it was before; so the form depends on the value only.  A number that some
double gives is the number that its own double gives, and between values made
of such numbers equality is identity.
-/

namespace Criteria

/-! ## The doubles of numbers -/

/-- The double nearest to an integer up to `2 ^ 64` is finite. -/
theorem Double.exists_ofInt_eq_finite
    {value : Int} (inRange : value.natAbs ≤ 2 ^ 64) :
    ∃ double, Double.ofInt value = .finite double := by
  have last : patternValue (1087 * 2 ^ 52) = (2 ^ 64 : Nat) :=
    patternValue_eq_natCast (by decide +kernel)
  have nearest := isNearest_nearestPattern_natCast value.natAbs
  have ordered : (value.natAbs : ℚ) ≤ patternValue (1087 * 2 ^ 52) := by
    rw [last]
    exact_mod_cast inRange
  have below := nearest.mono strictMono_patternValue ordered
    (IsNearest.self strictMono_patternValue _)
  have finite : nearestPattern value.natAbs 1 < infinityPattern :=
    Nat.lt_of_le_of_lt below (by decide)
  exact ⟨_, dif_pos finite⟩

theorem Number.exists_toDouble_eq_finite (number : Number) :
    ∃ double, number.toDouble = .finite double := by
  cases number with
  | float value => exact ⟨value, rfl⟩
  | integer value inRange =>
      exact Double.exists_ofInt_eq_finite (by omega)

/-! ## The form that a double gives to its number -/

namespace FiniteDouble

theorem signedUnits_of_isIntegral
    {double : FiniteDouble} (integral : double.isIntegral = true) :
    double.signedUnits = double.truncated * unitsPerOne := by
  have whole : double.wholePart * unitsPerOne = double.units :=
    Nat.div_mul_cancel (Nat.dvd_of_mod_eq_zero (beq_iff_eq.mp integral))
  rw [signedUnits, truncated, ← whole, Nat.cast_mul]
  split
  · rw [Int.neg_mul]
  · rfl

/-- A double that does not give an integer is not the negative zero. -/
theorem isNegativeZero_eq_false
    {double : FiniteDouble}
    (large : ¬(double.isIntegral = true ∧ double.wholePart ≤ 2 ^ 53)) :
    double.isNegativeZero = false := by
  refine Bool.eq_false_iff.mpr fun negativeZero => large ?_
  have zero := isZero_iff_units.mp (Bool.and_eq_true _ _ ▸ negativeZero).2
  rw [isIntegral, wholePart, zero, Nat.zero_mod, Nat.zero_div]
  exact ⟨rfl, Nat.zero_le _⟩

end FiniteDouble

namespace Double

/-- Doubles of one value give one number. -/
theorem toJson_congr
    {left right : Double} (same : left.sameValue right = true) :
    left.toJson = right.toJson := by
  rcases sameValue_iff.mp same with
    ⟨first, second, rfl, rfl, equal⟩ | ⟨_, rfl, rfl⟩
  · have units : first.units = second.units := by
      rw [first.units_eq_natAbs, second.units_eq_natAbs, equal]
    have integral : first.isIntegral = second.isIntegral := by
      rw [FiniteDouble.isIntegral, units, FiniteDouble.isIntegral]
    have whole : first.wholePart = second.wholePart := by
      rw [FiniteDouble.wholePart, units, FiniteDouble.wholePart]
    by_cases small : first.isIntegral = true ∧ first.wholePart ≤ 2 ^ 53
    · have others := small
      rw [integral, whole] at others
      have truncated : first.truncated = second.truncated := by
        rw [FiniteDouble.signedUnits_of_isIntegral small.1,
          FiniteDouble.signedUnits_of_isIntegral others.1] at equal
        exact Int.eq_of_mul_eq_mul_right
          (Int.natCast_ne_zero.mpr (Nat.ne_of_gt unitsPerOne_pos)) equal
      simp only [toJson, dif_pos small, dif_pos others, truncated]
    · have others := small
      rw [integral, whole] at others
      rw [FiniteDouble.eq_of_signedUnits
        (FiniteDouble.isNegativeZero_eq_false small)
        (FiniteDouble.isNegativeZero_eq_false others) equal]
  · rfl

/-- Up to `2 ^ 53` in magnitude the double of an integer gives that integer. -/
theorem toJson_ofInt_of_natAbs_le
    {integer : Int} (small : integer.natAbs ≤ 2 ^ 53) :
    (Double.ofInt integer).toJson = .number (.integer integer (by omega)) := by
  rcases exists_ofInt small with ⟨double, isDouble, sign, units⟩
  have whole : double.wholePart = integer.natAbs := by
    rw [FiniteDouble.wholePart, units, Nat.mul_div_cancel _ unitsPerOne_pos]
  have integral : double.isIntegral = true := by
    rw [FiniteDouble.isIntegral, units, Nat.mul_mod_left]
    rfl
  have truncated : double.truncated = integer := by
    simp only [FiniteDouble.truncated, sign, whole, decide_eq_true_eq]
    split <;> omega
  rw [isDouble, toJson, dif_pos ⟨integral, whole ▸ small⟩]
  simp only [truncated]

theorem exists_ofInt_signedUnits
    {integer : Int} (small : integer.natAbs ≤ 2 ^ 53) :
    ∃ double, Double.ofInt integer = .finite double ∧
      double.signedUnits = integer * unitsPerOne := by
  rcases exists_ofInt small with ⟨double, isDouble, sign, units⟩
  refine ⟨double, isDouble, ?_⟩
  rw [FiniteDouble.signedUnits, sign, units, Nat.cast_mul]
  rcases lt_or_ge integer 0 with negative | positive
  · rw [if_pos (decide_eq_true negative),
      Int.ofNat_natAbs_of_nonpos (Int.le_of_lt negative), Int.neg_mul,
      Int.neg_neg]
  · rw [if_neg (by simpa using positive), Int.natAbs_of_nonneg positive]

/-- A finite double gives a number of the same value. -/
theorem exists_toJson_finite (double : FiniteDouble) :
    ∃ number, (Double.finite double).toJson = .number number ∧
      number.toDouble.sameValue (.finite double) = true := by
  by_cases small : double.isIntegral = true ∧ double.wholePart ≤ 2 ^ 53
  · refine ⟨_, dif_pos small, ?_⟩
    have bounded : double.truncated.natAbs ≤ 2 ^ 53 := by
      have whole := small.2
      unfold FiniteDouble.truncated
      split <;> omega
    rcases exists_ofInt_signedUnits bounded with ⟨again, isAgain, value⟩
    rw [← FiniteDouble.signedUnits_of_isIntegral small.1] at value
    rw [Number.toDouble, isAgain]
    exact beq_iff_eq.mpr value
  · exact ⟨_, dif_neg small, Number.sameValue_refl (.float double)⟩

end Double

namespace Number

/-- The double of a number gives the number itself. -/
def IsOwn (number : Number) : Prop :=
  number.toDouble.toJson = .number number

/-- A number that a double gives is given by the double of the number. -/
theorem isOwn_of_toJson
    {double : Double} {number : Number}
    (given : double.toJson = .number number) : number.IsOwn := by
  cases double with
  | infinite => cases given
  | nan => cases given
  | finite value =>
      rcases Double.exists_toJson_finite value with ⟨other, isOther, same⟩
      rw [isOther] at given
      cases given
      exact (Double.toJson_congr same).trans isOther

/-- Numbers of one value are the same if their doubles give them. -/
theorem IsOwn.eq
    {left right : Number} (leftOwn : left.IsOwn) (rightOwn : right.IsOwn)
    (same : left.sameValue right = true) : left = right := by
  have equal := Double.toJson_congr same
  rw [leftOwn, rightOwn] at equal
  exact Json.number.inj equal

end Number

namespace Json

mutual

/-- Equal values are the same if the doubles of their numbers give these. -/
theorem eq_of_deepEqual
    {left right : Json}
    (leftOwn : left.EveryNumber Number.IsOwn)
    (rightOwn : right.EveryNumber Number.IsOwn)
    (equal : left.deepEqual right = true) : left = right := by
  match left with
  | .null => exact (eq_null_of_deepEqual equal).symm
  | .bool _ => exact (eq_bool_of_deepEqual equal).symm
  | .number _ =>
      rcases exists_number_of_deepEqual equal with ⟨other, rfl, same⟩
      rw [Number.IsOwn.eq leftOwn rightOwn same]
  | .string _ => exact (eq_string_of_deepEqual equal).symm
  | .array lefts =>
      rcases exists_array_of_deepEqual equal with ⟨rights, rfl, items⟩
      rw [eq_of_itemsEqual leftOwn rightOwn items]
  | .object lefts =>
      rcases exists_object_of_deepEqual equal with ⟨rights, rfl, members⟩
      rw [eq_of_membersEqual leftOwn rightOwn members]

theorem eq_of_itemsEqual
    {lefts rights : List Json}
    (leftOwn : EveryNumberOfItems Number.IsOwn lefts)
    (rightOwn : EveryNumberOfItems Number.IsOwn rights)
    (equal : itemsEqual lefts rights = true) : lefts = rights := by
  match lefts with
  | [] =>
      cases rights with
      | nil => rfl
      | cons => cases equal
  | left :: lefts =>
      rcases exists_cons_of_itemsEqual equal with
          ⟨right, others, rfl, item, items⟩
      rw [eq_of_deepEqual leftOwn.1 rightOwn.1 item,
        eq_of_itemsEqual leftOwn.2 rightOwn.2 items]

theorem eq_of_membersEqual
    {lefts rights : List (String × Json)}
    (leftOwn : EveryNumberOfMembers Number.IsOwn lefts)
    (rightOwn : EveryNumberOfMembers Number.IsOwn rights)
    (equal : membersEqual lefts rights = true) : lefts = rights := by
  match lefts with
  | [] =>
      cases rights with
      | nil => rfl
      | cons => cases equal
  | (key, left) :: lefts =>
      rcases exists_cons_of_membersEqual equal with
          ⟨right, others, rfl, value, members⟩
      rw [eq_of_deepEqual leftOwn.1 rightOwn.1 value,
        eq_of_membersEqual leftOwn.2 rightOwn.2 members]

end

end Json

end Criteria
