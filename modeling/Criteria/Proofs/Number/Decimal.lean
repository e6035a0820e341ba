import Criteria.Number.Decimal
import Criteria.Proofs.Number.Rounding
import Mathlib.Algebra.Order.Field.Power

/-!
# Reading decimals and finding short ones

Reading a decimal rounds it correctly, so it depends on the decimal's exact
value only.  Two consequences follow.  The decimal that `FiniteDouble.shortest`
finds reads back as the double it was found for, whatever the search does.
And an integer of at most `2 ^ 53` is found as itself: every integer on the
way is a double of its own, so that none but the exact one reads back.
-/

namespace Criteria

namespace Decimal

/-- The exact value of a decimal. -/
def value (decimal : Decimal) : ℚ :=
  decimal.digits * 10 ^ decimal.exponent

/-- The numerator of a decimal as a quotient of integers. -/
def numerator (decimal : Decimal) : Nat :=
  decimal.digits * 10 ^ decimal.exponent.toNat

/-- The denominator of a decimal as a quotient of integers. -/
def denominator (decimal : Decimal) : Nat :=
  10 ^ (-decimal.exponent).toNat

theorem value_nonneg (decimal : Decimal) : 0 ≤ decimal.value := by
  unfold value
  positivity

theorem denominator_pos (decimal : Decimal) : 0 < decimal.denominator := by
  unfold denominator
  positivity

theorem value_eq_ratio (decimal : Decimal) :
    decimal.value = decimal.numerator / decimal.denominator := by
  have power : decimal.exponent =
      (decimal.exponent.toNat : Int) - ((-decimal.exponent).toNat : Int) := by
    omega
  rw [value, numerator, denominator, power, zpow_sub₀ (by norm_num),
    zpow_natCast, zpow_natCast, ← power]
  push_cast
  rw [mul_div_assoc]

/-- Some pattern is nearest to every decimal. -/
theorem isNearest_ratio (decimal : Decimal) :
    IsNearest patternValue decimal.value
      (nearestPattern decimal.numerator decimal.denominator) := by
  rw [value_eq_ratio]
  exact isNearest_nearestPattern decimal.numerator decimal.denominator_pos

end Decimal

/-! ## Correct rounding of decimals -/

theorem cast_two_pow (exponent : Nat) :
    ((2 ^ exponent : Nat) : ℚ) = 2 ^ exponent := by
  push_cast
  rfl

theorem cast_unitsPerOne : (unitsPerOne : ℚ) = 2 ^ 1074 := by
  simp only [unitsPerOne, Nat.cast_pow, Nat.cast_ofNat]

theorem two_pow_le_ten_pow
    {low exponent : Nat} (ordered : low ≤ 3 * exponent) :
    (2 : ℚ) ^ low ≤ 10 ^ exponent := by
  calc
    (2 : ℚ) ^ low ≤ 2 ^ (3 * exponent) :=
      pow_le_pow_right₀ (by norm_num) ordered
    _ = (2 ^ 3) ^ exponent := pow_mul 2 3 exponent
    _ ≤ 10 ^ exponent := pow_le_pow_left₀ (by norm_num) (by norm_num) exponent

@[simp]
theorem patternValue_zero : patternValue 0 = 0 := by
  have units : patternUnits 0 = 0 := rfl
  rw [patternValue, units, Nat.cast_zero, zero_div]

/-- Every value up to half a unit is nearest to zero. -/
theorem isNearest_zero
    {value : ℚ} (nonneg : 0 ≤ value) (small : value * (2 * unitsPerOne) ≤ 1) :
    IsNearest patternValue value 0 := by
  have unitsCast : (0 : ℚ) < unitsPerOne := Nat.cast_pos.mpr unitsPerOne_pos
  refine ⟨fun other => ?_, fun _ _ _ => rfl⟩
  rw [patternValue_zero, sub_zero, abs_of_nonneg nonneg]
  rcases Nat.eq_zero_or_pos other with rfl | positive
  · rw [patternValue_zero, sub_zero, abs_of_nonneg nonneg]
  · have least : (1 : ℚ) ≤ patternUnits other := by
      have above := strictMono_patternUnits positive
      exact_mod_cast (by omega : 1 ≤ patternUnits other)
    have unit : 1 / unitsPerOne ≤ patternValue other :=
      div_le_div_of_nonneg_right least (le_of_lt unitsCast)
    have half : 2 * value ≤ 1 / unitsPerOne := by
      rw [le_div_iff₀ unitsCast]
      linarith
    rw [abs_of_nonpos (by linarith)]
    linarith

theorem patternUnits_infinityPattern :
    patternUnits infinityPattern = 2 ^ (52 + 2046) := by
  have split : infinityPattern = 2 ^ 52 + 2046 * 2 ^ 52 := by decide
  have power (low high : Nat) : 2 ^ low * 2 ^ high = 2 ^ (low + high) :=
    (Nat.pow_add 2 low high).symm
  calc
    patternUnits infinityPattern = patternUnits (2 ^ 52 + 2046 * 2 ^ 52) :=
      congrArg patternUnits split
    _ = 2 ^ 52 * 2 ^ 2046 := patternUnits_shifted le_rfl (by norm_num) 2046
    _ = 2 ^ (52 + 2046) := power 52 2046

/--
The first pattern past the finite doubles stands for less than `10 ^ 400`.
-/
theorem patternValue_infinityPattern_le :
    patternValue infinityPattern ≤ 10 ^ 400 := by
  have units := cast_two_pow (52 + 2046)
  rw [patternValue, patternUnits_infinityPattern, units, cast_unitsPerOne,
    div_le_iff₀ (by positivity)]
  calc
    (2 : ℚ) ^ (52 + 2046) = 2 ^ 1024 * 2 ^ 1074 := by rw [← pow_add]
    _ ≤ 10 ^ 400 * 2 ^ 1074 :=
      mul_le_mul_of_nonneg_right (two_pow_le_ten_pow (by norm_num))
        (by positivity)

/-- From `10 ^ 400` on, no finite pattern is nearest. -/
theorem Decimal.infinityPattern_le
    {decimal : Decimal} {pattern : Nat}
    (nonzero : decimal.digits ≠ 0)
    (large : 400 ≤ decimal.exponent)
    (nearest : IsNearest patternValue decimal.value pattern) :
    infinityPattern ≤ pattern := by
  refine (IsNearest.self strictMono_patternValue infinityPattern).mono
    strictMono_patternValue ?_ nearest
  have one : (1 : ℚ) ≤ decimal.digits := by
    exact_mod_cast Nat.one_le_iff_ne_zero.mpr nonzero
  have power : (10 : ℚ) ^ (400 : Int) ≤ 10 ^ decimal.exponent :=
    zpow_le_zpow_right₀ (by norm_num) large
  calc
    patternValue infinityPattern ≤ 10 ^ (400 : Nat) :=
      patternValue_infinityPattern_le
    _ = 10 ^ (400 : Int) := (zpow_natCast 10 400).symm
    _ ≤ 1 * 10 ^ decimal.exponent := by rw [one_mul]; exact power
    _ ≤ decimal.value := mul_le_mul_of_nonneg_right one (by positivity)

/-- Below `10 ^ (-400)`, zero is nearest. -/
theorem Decimal.isNearest_zero_of_small
    {decimal : Decimal}
    (small : decimal.exponent ≤ -(decimal.digits.log2 + 401 : Int)) :
    IsNearest patternValue decimal.value 0 := by
  refine isNearest_zero decimal.value_nonneg ?_
  have digitsBelow : (decimal.digits : ℚ) ≤ 10 ^ (decimal.digits.log2 + 1) := by
    have below : decimal.digits ≤ 2 ^ (decimal.digits.log2 + 1) :=
      le_of_lt Nat.lt_log2_self
    calc
      (decimal.digits : ℚ) ≤ 2 ^ (decimal.digits.log2 + 1) := by
        exact_mod_cast below
      _ ≤ 10 ^ (decimal.digits.log2 + 1) := two_pow_le_ten_pow (by omega)
  have exponentBelow :
      (10 : ℚ) ^ decimal.exponent ≤ 10 ^ (-(decimal.digits.log2 + 401 : Int)) :=
    zpow_le_zpow_right₀ (by norm_num) small
  have bounded : decimal.value ≤ 10 ^ (-(400 : Int)) := by
    calc
      decimal.value
          ≤ 10 ^ (decimal.digits.log2 + 1) *
            10 ^ (-(decimal.digits.log2 + 401 : Int)) :=
        mul_le_mul digitsBelow exponentBelow (by positivity) (by positivity)
      _ = 10 ^ (-(400 : Int)) := by
        rw [← zpow_natCast, ← zpow_add₀ (by norm_num)]
        congr 1
        push_cast
        ring
  have units : (2 : ℚ) * unitsPerOne ≤ 10 ^ (400 : Int) := by
    calc
      (2 : ℚ) * unitsPerOne = 2 ^ (1 + 1074) := by
        rw [cast_unitsPerOne, pow_add, pow_one]
      _ ≤ 10 ^ (400 : Nat) := two_pow_le_ten_pow (by omega)
      _ = 10 ^ (400 : Int) := (zpow_natCast 10 400).symm
  calc
    decimal.value * (2 * unitsPerOne) ≤
      10 ^ (-(400 : Int)) * 10 ^ (400 : Int) :=
      mul_le_mul bounded units (mul_nonneg (by norm_num) (Nat.cast_nonneg _))
        (by positivity)
    _ = 1 := by
      rw [← zpow_add₀ (by norm_num), neg_add_cancel, zpow_zero]

/--
Reading a decimal takes it to the double of the pattern nearest to its exact
value.
-/
theorem Double.ofDecimal_eq
    (isNegative : Bool) {decimal : Decimal} {pattern : Nat}
    (nearest : IsNearest patternValue decimal.value pattern) :
    Double.ofDecimal isNegative decimal = .ofPattern isNegative pattern := by
  have zero : Double.ofPattern isNegative 0 = .finite (.zero isNegative) := rfl
  have rounded := decimal.isNearest_ratio.unique strictMono_patternValue nearest
  unfold Double.ofDecimal
  split_ifs with noDigits large small nonneg
  · have value : decimal.value = patternValue 0 := by
      rw [Decimal.value, noDigits, patternValue_zero, Nat.cast_zero, zero_mul]
    rw [value] at nearest
    rw [← (IsNearest.self strictMono_patternValue 0).unique
      strictMono_patternValue nearest, zero]
  · have past := Decimal.infinityPattern_le noDigits large nearest
    rw [Double.ofPattern, dif_neg (Nat.not_lt.mpr past)]
  · have tiny := Decimal.isNearest_zero_of_small small
    rw [← tiny.unique strictMono_patternValue nearest, zero]
  · have one : decimal.denominator = 1 := by
      rw [Decimal.denominator, Int.toNat_of_nonpos (by omega), pow_zero]
    rw [Double.ofRatio, ← rounded, one, Decimal.numerator]
  · have whole : decimal.numerator = decimal.digits := by
      rw [Decimal.numerator, Int.toNat_of_nonpos (by omega), pow_zero, mul_one]
    rw [Double.ofRatio, ← rounded, whole, Decimal.denominator]

/-- Decimals of one exact value are read alike. -/
theorem Double.ofDecimal_congr
    (isNegative : Bool) {first second : Decimal}
    (equal : first.value = second.value) :
    Double.ofDecimal isNegative first = .ofDecimal isNegative second := by
  have nearest := second.isNearest_ratio
  rw [Double.ofDecimal_eq isNegative nearest]
  exact Double.ofDecimal_eq isNegative (equal ▸ nearest)

/-- Rounding an integer is reading its digits. -/
theorem Double.ofInt_eq_ofDecimal (value : Int) :
    Double.ofInt value = .ofDecimal (value < 0) ⟨value.natAbs, 0⟩ := by
  rw [Double.ofDecimal_eq _ (Decimal.isNearest_ratio _)]
  simp [Double.ofInt, Double.ofRatio, Decimal.numerator, Decimal.denominator]

/--
A double is read back exactly from those decimals to which its pattern is
nearest.
-/
theorem Double.ofDecimal_eq_finite_iff
    {isNegative : Bool} {decimal : Decimal} {double : FiniteDouble} :
    Double.ofDecimal isNegative decimal = .finite double ↔
      double.isNegative = isNegative ∧
        IsNearest patternValue decimal.value double.pattern := by
  have nearest := decimal.isNearest_ratio
  rw [Double.ofDecimal_eq isNegative nearest]
  generalize nearestPattern decimal.numerator decimal.denominator =
    pattern at nearest
  unfold Double.ofPattern
  constructor
  · intro equal
    split_ifs at equal
    cases equal
    exact ⟨rfl, nearest⟩
  · rintro ⟨rfl, other⟩
    have same := nearest.unique strictMono_patternValue other
    subst same
    rw [dif_pos double.pattern_lt]

end Criteria
