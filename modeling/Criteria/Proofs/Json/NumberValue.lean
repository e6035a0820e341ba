import Mathlib.Algebra.Order.Floor.Ring
import Mathlib.Data.Rat.Floor
import Criteria.Proofs.Json.Form

/-!
# The exact values of numbers

A number has a value, and so has the double that it is rounded to where it is
compared, used as a position or as a modulus.  The value of a double is its
count of units over the units of one.  Its fraction is cut off as that of any
rational: towards zero.
-/

namespace Criteria

namespace FiniteDouble

/-- The exact value of a double with its sign. -/
def signedValue (double : FiniteDouble) : ℚ :=
  if double.isNegative then -double.value else double.value

theorem value_of_isIntegral
    {double : FiniteDouble} (integral : double.isIntegral = true) :
    double.value = double.wholePart := by
  have whole : double.wholePart * unitsPerOne = double.units :=
    Nat.div_mul_cancel (Nat.dvd_of_mod_eq_zero (beq_iff_eq.mp integral))
  exact patternValue_eq_natCast whole.symm

theorem cast_unitsPerOne_pos : (0 : ℚ) < unitsPerOne :=
  Nat.cast_pos.mpr unitsPerOne_pos

theorem value_nonneg (double : FiniteDouble) : 0 ≤ double.value :=
  div_nonneg (Nat.cast_nonneg _) (Nat.cast_nonneg _)

theorem signedValue_eq (double : FiniteDouble) :
    double.signedValue = double.signedUnits / unitsPerOne := by
  have units : double.value = double.units / unitsPerOne := rfl
  rw [signedValue, signedUnits, units]
  split
  · push_cast
    exact (neg_div _ _).symm
  · rfl

theorem signedValue_lt_iff {left right : FiniteDouble} :
    left.signedValue < right.signedValue ↔
      left.signedUnits < right.signedUnits := by
  rw [signedValue_eq, signedValue_eq,
    div_lt_div_iff_of_pos_right cast_unitsPerOne_pos, Int.cast_lt]

theorem signedValue_eq_iff {left right : FiniteDouble} :
    left.signedValue = right.signedValue ↔
      left.signedUnits = right.signedUnits := by
  rw [signedValue_eq, signedValue_eq, div_left_inj' cast_unitsPerOne_pos.ne',
    Int.cast_inj]

/-- A double has the value of an integer if it is as many ones in units. -/
theorem signedValue_eq_intCast_iff {double : FiniteDouble} {integer : Int} :
    double.signedValue = integer ↔
      double.signedUnits = integer * unitsPerOne := by
  rw [signedValue_eq, div_eq_iff cast_unitsPerOne_pos.ne']
  exact_mod_cast Iff.rfl

/-- The integer that is left of a value once its fraction is cut off. -/
theorem truncated_eq (double : FiniteDouble) :
    double.truncated =
      if 0 ≤ double.signedValue then ⌊double.signedValue⌋
      else ⌈double.signedValue⌉ := by
  have whole : ⌊double.value⌋ = double.wholePart := by
    have units : double.value = double.units / unitsPerOne := rfl
    rw [units, Rat.floor_natCast_div_natCast]
    rfl
  cases sign : double.isNegative with
  | false =>
      have value : double.signedValue = double.value := by
        simp [signedValue, sign]
      have truncated : double.truncated = double.wholePart := by
        simp [FiniteDouble.truncated, sign]
      rw [truncated, value, if_pos double.value_nonneg, whole]
  | true =>
      have value : double.signedValue = -double.value := by
        simp [signedValue, sign]
      have truncated : double.truncated = -double.wholePart := by
        simp [FiniteDouble.truncated, sign]
      rw [truncated, value, ← whole]
      split
      · -- Only zero is neither above zero nor below it.
        rename_i notBelow
        have zero : double.value = 0 :=
          le_antisymm (neg_nonneg.mp notBelow) double.value_nonneg
        rw [zero, neg_zero, Int.floor_zero, neg_zero]
      · exact Int.ceil_neg.symm

end FiniteDouble

namespace Number

/-- The exact value of a number, which needs no rounding to a double. -/
def exactValue : Number → ℚ
  | .integer value _ => value
  | .float value => value.signedValue

/-- The value of the double that a number is rounded to. -/
def doubleValue (number : Number) : ℚ :=
  match number.toDouble with
  | .finite value => value.signedValue
  | .infinite _ | .nan => 0

theorem doubleValue_of_toDouble
    {number : Number} {double : FiniteDouble}
    (isDouble : number.toDouble = .finite double) :
    number.doubleValue = double.signedValue := by
  rw [doubleValue, isDouble]

/-- The number that a double gives has the value of that double. -/
theorem doubleValue_of_toJson
    {number : Number} {double : FiniteDouble}
    (given : (Double.finite double).toJson = .number number) :
    number.doubleValue = double.signedValue := by
  rcases Double.exists_toJson_finite double with ⟨same, isSame, equal⟩
  cases given.symm.trans isSame
  rcases Double.sameValue_iff.mp equal with
    ⟨first, second, isFirst, isSecond, units⟩ | ⟨_, _, infinite⟩
  · cases isSecond
    rw [doubleValue_of_toDouble isFirst]
    exact FiniteDouble.signedValue_eq_iff.mpr units
  · cases infinite

/-- The double of a number with its fraction cut off. -/
def truncation (number : Number) : Int :=
  if 0 ≤ number.doubleValue then ⌊number.doubleValue⌋
  else ⌈number.doubleValue⌉

theorem truncation_of_toDouble
    {number : Number} {double : FiniteDouble}
    (isDouble : number.toDouble = .finite double) :
    number.truncation = double.truncated := by
  rw [truncation, doubleValue_of_toDouble isDouble, double.truncated_eq]

end Number

end Criteria
