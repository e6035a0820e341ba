import Criteria.Number.Double
import Mathlib.Algebra.Order.Field.Rat
import Mathlib.Data.Nat.Cast.Order.Field
import Mathlib.Order.Monotone.Basic
import Mathlib.Tactic.FieldSimp
import Mathlib.Tactic.Linarith
import Mathlib.Tactic.Positivity
import Mathlib.Tactic.Ring

/-!
# Correct rounding

A rounding picks, from an increasing grid of values, the one nearest to the
exact value; of two equally near ones it picks the one with the even place in
the grid.  `IsNearest` states this for any grid, and the choice is unique and
monotone whenever the grid is strictly increasing.

The grid of interest is that of all patterns, those past the finite doubles
included, so that a value counts as too large exactly when its nearest pattern
is no finite one.  `isNearest_nearestPattern` proves that the shifting and
carrying of `nearestPattern` rounds to this grid, for every quotient of
integers.
-/

namespace Criteria

/-! ## Nearest places in a grid -/

/--
A place of a grid is nearest to a value if no other place is nearer, and if it
is even in case another place is just as near.
-/
structure IsNearest (grid : Nat → ℚ) (value : ℚ) (place : Nat) : Prop where
  closest : ∀ other, |value - grid place| ≤ |value - grid other|
  even_of_tie :
    ∀ other, other ≠ place → |value - grid place| = |value - grid other| →
      place % 2 = 0

namespace IsNearest

variable {grid : Nat → ℚ} {value : ℚ} {place other : Nat}

/-- A value of the grid is nearest to itself. -/
theorem self (increasing : StrictMono grid) (place : Nat) :
    IsNearest grid (grid place) place := by
  refine ⟨fun other => ?_, fun other different tie => ?_⟩
  · rw [sub_self, abs_zero]
    exact abs_nonneg _
  · rw [sub_self, abs_zero] at tie
    have equal : grid place = grid other :=
      sub_eq_zero.mp (abs_eq_zero.mp tie.symm)
    exact absurd (increasing.injective equal).symm different

/--
Two places that are nearest to one value with equal distances enclose it
halfway.
-/
theorem halfway
    (increasing : StrictMono grid)
    (below : place < other)
    (tie : |value - grid place| = |value - grid other|) :
    value - grid place = grid other - value := by
  have ordered := increasing below
  rcases abs_eq_abs.mp tie with equal | opposite
  · linarith
  · linarith

theorem not_lt
    (increasing : StrictMono grid)
    (first : IsNearest grid value place)
    (second : IsNearest grid value other) :
    ¬ place < other := by
  intro below
  have tie : |value - grid place| = |value - grid other| :=
    le_antisymm (first.closest other) (second.closest place)
  have middle := halfway increasing below tie
  have firstEven := first.even_of_tie other (Nat.ne_of_gt below) tie
  have secondEven := second.even_of_tie place (Nat.ne_of_lt below) tie.symm
  -- Both places are even, so an odd one lies strictly between them and is
  -- nearer.
  have between : place + 1 < other := by omega
  have above := increasing (Nat.lt_succ_self place)
  have under := increasing between
  have nearer : |value - grid (place + 1)| < |value - grid place| := by
    rw [abs_of_nonneg (by linarith : 0 ≤ value - grid place), abs_lt]
    constructor <;> linarith
  exact absurd (first.closest (place + 1)) (not_le.mpr nearer)

/-- The nearest place is unique. -/
theorem unique
    (increasing : StrictMono grid)
    (first : IsNearest grid value place)
    (second : IsNearest grid value other) :
    place = other :=
  Nat.le_antisymm
    (Nat.not_lt.mp (not_lt increasing second first))
    (Nat.not_lt.mp (not_lt increasing first second))

/-- A greater value has no smaller nearest place. -/
theorem mono
    {greater : ℚ}
    (increasing : StrictMono grid)
    (ordered : value ≤ greater)
    (first : IsNearest grid value place)
    (second : IsNearest grid greater other) :
    place ≤ other := by
  rcases eq_or_lt_of_le ordered with rfl | strict
  · exact le_of_eq (unique increasing first second)
  · by_contra notLe
    have below := increasing (Nat.lt_of_not_le notLe)
    have firstClosest := first.closest other
    have secondClosest := second.closest place
    -- Crossing choices would put both values on the wrong side of the midpoint.
    have lower : grid place + grid other ≤ 2 * value := by
      by_contra contrary
      rcases abs_cases (value - grid place) with ⟨equal, _⟩ | ⟨equal, _⟩ <;>
        rcases abs_cases (value - grid other) with ⟨equal', _⟩ | ⟨equal', _⟩ <;>
          rw [equal, equal'] at firstClosest <;> linarith
    have upper : 2 * greater ≤ grid place + grid other := by
      by_contra contrary
      rcases abs_cases (greater - grid place) with ⟨equal, _⟩ | ⟨equal, _⟩ <;>
        rcases abs_cases (greater - grid other) with ⟨equal', _⟩ |
          ⟨equal', _⟩ <;>
          rw [equal, equal'] at secondClosest <;> linarith
    linarith

/-- Stretching the grid and the value by one factor keeps the nearest place. -/
theorem scale
    {factor : ℚ}
    (positive : 0 < factor)
    (nearest : IsNearest grid value place) :
    IsNearest (fun place => factor * grid place) (factor * value) place := by
  have stretched (other : Nat) :
      |factor * value - factor * grid other| =
        factor * |value - grid other| := by
    rw [← mul_sub, abs_mul, abs_of_pos positive]
  refine ⟨fun other => ?_, fun other different tie => ?_⟩
  · rw [stretched, stretched]
    exact mul_le_mul_of_nonneg_left (nearest.closest other) (le_of_lt positive)
  · rw [stretched, stretched] at tie
    exact nearest.even_of_tie other different
      (mul_left_cancel₀ (ne_of_gt positive) tie)

end IsNearest

/-! ## Rounding to integers -/

theorem strictMono_natCast : StrictMono (fun integer : Nat => (integer : ℚ)) :=
  fun _ _ below => Nat.cast_lt.mpr below

/--
An integer within half a unit is nearest, if it is even when it is exactly half
a unit off.
-/
theorem isNearest_natCast
    {value : ℚ} {integer : Nat}
    (close : |value - integer| ≤ 1 / 2)
    (even : |value - integer| = 1 / 2 → integer % 2 = 0) :
    IsNearest (fun integer => (integer : ℚ)) value integer := by
  have far (other : Nat) (different : other ≠ integer) :
      1 / 2 ≤ |value - other| := by
    have apart : (1 : ℚ) ≤ |(integer : ℚ) - other| := by
      have nonzero : (integer : Int) - other ≠ 0 := by omega
      exact_mod_cast Int.one_le_abs nonzero
    have triangle := abs_sub_le (integer : ℚ) value other
    rw [abs_sub_comm (integer : ℚ) value] at triangle
    linarith
  refine ⟨fun other => ?_, fun other different tie => ?_⟩
  · by_cases same : other = integer
    · rw [same]
    · exact le_trans close (far other same)
  · exact even (le_antisymm close (tie ▸ far other different))

section

variable {quotient : Nat} {fraction : ℚ}

/-- Below a half, the quotient is nearest. -/
theorem isNearest_below_half (nonneg : 0 ≤ fraction)
    (below : fraction < 1 / 2) :
    IsNearest (fun integer => (integer : ℚ)) (quotient + fraction)
      quotient := by
  have distance : |(quotient : ℚ) + fraction - quotient| = fraction := by
    rw [add_sub_cancel_left, abs_of_nonneg nonneg]
  apply isNearest_natCast
  · rw [distance]
    exact le_of_lt below
  · intro half
    rw [distance] at half
    exact absurd half (ne_of_lt below)

/-- Above a half, the integer behind the quotient is nearest. -/
theorem isNearest_above_half (above : 1 / 2 < fraction) (below : fraction < 1) :
    IsNearest (fun integer => (integer : ℚ)) (quotient + fraction)
      (quotient + 1) := by
  have distance :
      |(quotient : ℚ) + fraction - (quotient + 1 : Nat)| = 1 - fraction := by
    rw [abs_of_nonpos] <;> push_cast <;> linarith
  apply isNearest_natCast
  · rw [distance]
    linarith
  · intro half
    rw [distance] at half
    linarith

/-- At a half, the even neighbour is nearest. -/
theorem isNearest_half :
    IsNearest (fun integer => (integer : ℚ)) (quotient + 1 / 2)
      (quotient + quotient % 2) := by
  apply isNearest_natCast
  · rcases Nat.mod_two_eq_zero_or_one quotient with zero | one
    · rw [zero, Nat.add_zero, add_sub_cancel_left, abs_of_nonneg (by norm_num)]
    · rw [one, abs_of_nonpos] <;> push_cast <;> linarith
  · intro _
    omega

end

/-- Rounding a quotient half to even picks the nearest integer. -/
theorem isNearest_roundHalfEven
    (numerator : Nat) {denominator : Nat} (positive : 0 < denominator) :
    IsNearest (fun integer => (integer : ℚ)) (numerator / denominator)
      (roundHalfEven numerator denominator) := by
  have positiveCast : (0 : ℚ) < denominator := Nat.cast_pos.mpr positive
  have parts : (numerator : ℚ) / denominator =
      (numerator / denominator : Nat) + (numerator % denominator : Nat) /
        denominator := by
    have whole : (numerator : ℚ) =
        denominator * (numerator / denominator : Nat) +
          (numerator % denominator : Nat) := by
      exact_mod_cast (Nat.div_add_mod numerator denominator).symm
    field_simp
    linarith
  have below := Nat.mod_lt numerator positive
  unfold roundHalfEven
  simp only
  rw [parts]
  generalize numerator / denominator = quotient at *
  generalize numerator % denominator = remainder at *
  split_ifs with lower upper
  · apply isNearest_below_half
    · positivity
    · rw [div_lt_div_iff₀ positiveCast (by norm_num)]
      exact_mod_cast (by omega : remainder * 2 < 1 * denominator)
  · apply isNearest_above_half
    · rw [div_lt_div_iff₀ (by norm_num) positiveCast]
      exact_mod_cast (by omega : 1 * denominator < remainder * 2)
    · exact (div_lt_one positiveCast).mpr (Nat.cast_lt.mpr below)
  · have half : (remainder : ℚ) / denominator = 1 / 2 := by
      rw [div_eq_div_iff (ne_of_gt positiveCast) (by norm_num)]
      exact_mod_cast (by omega : remainder * 2 = 1 * denominator)
    rw [half]
    exact isNearest_half

/-! ## The grid of patterns -/

/--
A significand of 53 bits under a shift is the value of the pattern made of the
two.
-/
theorem patternUnits_shifted
    {significand : Nat}
    (lower : 2 ^ 52 ≤ significand) (upper : significand ≤ 2 ^ 53)
    (shift : Nat) :
    patternUnits (significand + shift * 2 ^ 52) = significand * 2 ^ shift := by
  have high : ¬ significand + shift * 2 ^ 52 < 2 ^ 52 := by omega
  rw [patternUnits, if_neg high]
  rcases Nat.lt_or_eq_of_le upper with below | rfl
  · have low :
        (significand + shift * 2 ^ 52) % 2 ^ 52 = significand - 2 ^ 52 := by
      omega
    have shifted : (significand + shift * 2 ^ 52) / 2 ^ 52 - 1 = shift := by
      omega
    rw [low, shifted, Nat.add_sub_cancel' lower]
  · have low : (2 ^ 53 + shift * 2 ^ 52) % 2 ^ 52 = 0 := by omega
    have shifted : (2 ^ 53 + shift * 2 ^ 52) / 2 ^ 52 - 1 = shift + 1 := by
      omega
    rw [low, shifted, Nat.pow_succ]
    ring

/-- Up to `2 ^ 53` a pattern is its own value. -/
theorem patternUnits_small
    {pattern : Nat} (small : pattern ≤ 2 ^ 53) :
    patternUnits pattern = pattern := by
  by_cases low : pattern < 2 ^ 52
  · exact if_pos low
  · simpa using patternUnits_shifted (Nat.le_of_not_lt low) small 0

/-- Every other pattern is a significand of 53 bits under a shift. -/
theorem exists_shifted
    {pattern : Nat} (high : 2 ^ 52 ≤ pattern) :
    ∃ significand shift,
      2 ^ 52 ≤ significand ∧ significand < 2 ^ 53 ∧
        pattern = significand + shift * 2 ^ 52 := by
  refine ⟨2 ^ 52 + pattern % 2 ^ 52, pattern / 2 ^ 52 - 1, ?_, ?_, ?_⟩ <;> omega

/-- Greater patterns stand for greater values. -/
theorem strictMono_patternUnits : StrictMono patternUnits := by
  refine strictMono_nat_of_lt_succ fun pattern => ?_
  by_cases low : pattern < 2 ^ 53
  · rw [patternUnits_small (Nat.le_of_lt low), patternUnits_small low]
    exact Nat.lt_succ_self pattern
  · rcases exists_shifted (by omega : 2 ^ 52 ≤ pattern) with
        ⟨significand, shift, lower, upper, rfl⟩
    have next :
        significand + shift * 2 ^ 52 + 1 =
          significand + 1 + shift * 2 ^ 52 := by
      omega
    rw [next, patternUnits_shifted lower (Nat.le_of_lt upper) shift,
      patternUnits_shifted (by omega) upper shift]
    exact Nat.mul_lt_mul_of_pos_right (Nat.lt_succ_self _)
      (Nat.two_pow_pos shift)

theorem exists_unitsPerOne_eq :
    ∃ exponent ≤ 1074, unitsPerOne = 2 ^ exponent := by
  obtain ⟨exponent, equal⟩ : ∃ exponent, exponent = 1074 := ⟨1074, rfl⟩
  refine ⟨exponent, Nat.le_of_eq equal, ?_⟩
  rw [unitsPerOne, ← equal]

theorem unitsPerOne_pos : 0 < unitsPerOne := by
  unfold unitsPerOne
  positivity

/-- The absolute value that a pattern stands for. -/
def patternValue (pattern : Nat) : ℚ :=
  patternUnits pattern / unitsPerOne

theorem strictMono_patternValue : StrictMono patternValue := by
  intro first second below
  exact div_lt_div_of_pos_right
    (Nat.cast_lt.mpr (strictMono_patternUnits below))
    (Nat.cast_pos.mpr unitsPerOne_pos)

/--
Patterns from a shift on stand for multiples of the power of two of that shift.
-/
theorem exists_multiple
    {pattern shift : Nat} (high : 2 ^ 52 + shift * 2 ^ 52 ≤ pattern) :
    ∃ multiple, patternUnits pattern = multiple * 2 ^ shift := by
  rcases exists_shifted (by omega : 2 ^ 52 ≤ pattern) with
      ⟨significand, greater, lower, upper, rfl⟩
  have ordered : shift ≤ greater := by omega
  refine ⟨significand * 2 ^ (greater - shift), ?_⟩
  rw [patternUnits_shifted lower (Nat.le_of_lt upper) greater, Nat.mul_assoc,
    ← Nat.pow_add, Nat.sub_add_cancel ordered]

/-! ## The nearest pattern -/

/--
A quotient lies below the power of two that is 53 bits above its dropped bits.
-/
theorem lt_two_pow_dropped (quotient : Nat) :
    quotient < 2 ^ (53 + (quotient.log2 - 52)) := by
  refine lt_of_lt_of_le Nat.lt_log2_self (Nat.pow_le_pow_right (by decide) ?_)
  omega

/-- If bits are dropped, 53 bits remain. -/
theorem two_pow_dropped_le
    (quotient : Nat) (dropped : 0 < quotient.log2 - 52) :
    2 ^ (52 + (quotient.log2 - 52)) ≤ quotient := by
  have nonzero : quotient ≠ 0 := by
    rintro rfl
    simp at dropped
  have exact' : 52 + (quotient.log2 - 52) = quotient.log2 := by omega
  rw [exact']
  exact Nat.log2_self_le nonzero

section

variable {numerator denominator shift significand : Nat}

/--
Rounding what is left after dropping bits gives a significand of at most 53
bits.
-/
theorem significand_le
    (positive : 0 < denominator)
    (below : numerator / denominator < 2 ^ (53 + shift))
    (rounded : IsNearest (fun integer => (integer : ℚ))
      (numerator / (denominator * 2 ^ shift : Nat)) significand) :
    significand ≤ 2 ^ 53 := by
  apply rounded.mono strictMono_natCast ?_ (.self strictMono_natCast (2 ^ 53))
  have bound : numerator ≤ 2 ^ 53 * (denominator * 2 ^ shift) := by
    have strict := (Nat.div_lt_iff_lt_mul positive).mp below
    rw [Nat.pow_add] at strict
    linarith
  rw [div_le_iff₀ (by positivity)]
  exact_mod_cast bound

/-- If 53 bits are left after dropping bits, the significand has as many. -/
theorem le_significand
    (positive : 0 < denominator)
    (above : 2 ^ (52 + shift) ≤ numerator / denominator)
    (rounded : IsNearest (fun integer => (integer : ℚ))
      (numerator / (denominator * 2 ^ shift : Nat)) significand) :
    2 ^ 52 ≤ significand := by
  apply (IsNearest.self strictMono_natCast (2 ^ 52)).mono strictMono_natCast ?_
    rounded
  have bound : 2 ^ 52 * (denominator * 2 ^ shift) ≤ numerator := by
    have weak := (Nat.le_div_iff_mul_le positive).mp above
    rw [Nat.pow_add] at weak
    linarith
  rw [le_div_iff₀ (by positivity)]
  exact_mod_cast bound

/--
Distances from multiples of the dropped power are distances after dropping,
scaled.
-/
theorem distance_of_multiple
    {pattern multiple : Nat}
    (positive : 0 < denominator)
    (units : patternUnits pattern = multiple * 2 ^ shift) :
    |(numerator : ℚ) / denominator - patternUnits pattern| =
      2 ^ shift * |numerator / (denominator * 2 ^ shift : Nat) -
        (multiple : ℚ)| := by
  have positiveCast : (0 : ℚ) < denominator := Nat.cast_pos.mpr positive
  have power : (0 : ℚ) < 2 ^ shift := by positivity
  have value : (numerator : ℚ) / denominator =
      2 ^ shift * (numerator / (denominator * 2 ^ shift : Nat)) := by
    push_cast
    field_simp
  rw [value, units]
  push_cast
  rw [mul_comm (multiple : ℚ), ← mul_sub, abs_mul, abs_of_pos power]

/--
A pattern below the multiples of the dropped power is farther off than the one
chosen.
-/
theorem distance_lt_of_low
    {pattern : Nat}
    (positive : 0 < denominator)
    (above : 2 ^ (52 + shift) ≤ numerator / denominator)
    (rounded : IsNearest (fun integer => (integer : ℚ))
      (numerator / (denominator * 2 ^ shift : Nat)) significand)
    (chosen : patternUnits (significand + shift * 2 ^ 52) =
      significand * 2 ^ shift)
    (low : pattern < 2 ^ 52 + shift * 2 ^ 52) :
    |(numerator : ℚ) / denominator - patternUnits
      (significand + shift * 2 ^ 52)| <
      |(numerator : ℚ) / denominator - patternUnits pattern| := by
  have positiveCast : (0 : ℚ) < denominator := Nat.cast_pos.mpr positive
  have power : (0 : ℚ) ≤ 2 ^ shift := by positivity
  have least : patternUnits (2 ^ 52 + shift * 2 ^ 52) = 2 ^ 52 * 2 ^ shift :=
    patternUnits_shifted le_rfl (by norm_num) shift
  have under :
      (patternUnits pattern : ℚ) < patternUnits (2 ^ 52 + shift * 2 ^ 52) :=
    Nat.cast_lt.mpr (strictMono_patternUnits low)
  have reached :
      (patternUnits (2 ^ 52 + shift * 2 ^ 52) : ℚ) ≤
        numerator / denominator := by
    rw [le_div_iff₀ positiveCast, least, ← Nat.pow_add]
    exact_mod_cast (Nat.le_div_iff_mul_le positive).mp above
  have nearer := mul_le_mul_of_nonneg_left (rounded.closest (2 ^ 52)) power
  rw [← distance_of_multiple positive chosen,
    ← distance_of_multiple positive least,
    abs_of_nonneg (sub_nonneg.mpr reached)] at nearer
  rw [abs_of_nonneg (sub_nonneg.mpr (le_trans (le_of_lt under) reached))]
  exact lt_of_le_of_lt nearer (sub_lt_sub_left under _)

end

/--
Dropping bits, rounding and putting the shift back picks the pattern nearest
to a quotient of units.
-/
theorem isNearest_patternUnits
    (numerator : Nat) {denominator : Nat} (positive : 0 < denominator) :
    IsNearest (fun pattern => (patternUnits pattern : ℚ))
      (numerator / denominator)
      (roundHalfEven numerator
          (denominator * 2 ^ ((numerator / denominator).log2 - 52)) +
        ((numerator / denominator).log2 - 52) * 2 ^ 52) := by
  have below := lt_two_pow_dropped (numerator / denominator)
  have above := two_pow_dropped_le (numerator / denominator)
  generalize (numerator / denominator).log2 - 52 = shift at *
  have power : (0 : ℚ) < 2 ^ shift := by positivity
  have rounded := isNearest_roundHalfEven numerator
    (Nat.mul_pos positive (Nat.two_pow_pos shift))
  generalize roundHalfEven numerator (denominator * 2 ^ shift) =
    significand at *
  have upper := significand_le positive below rounded
  have chosen :
      patternUnits (significand + shift * 2 ^ 52) =
        significand * 2 ^ shift := by
    rcases Nat.eq_zero_or_pos shift with rfl | drops
    · simpa using patternUnits_small upper
    · exact patternUnits_shifted (le_significand positive (above drops) rounded)
        upper shift
  -- A pattern is a multiple of the dropped power, or lies below all that are.
  have classify (other : Nat) :
      (∃ multiple, patternUnits other = multiple * 2 ^ shift) ∨
        |(numerator : ℚ) / denominator - patternUnits
          (significand + shift * 2 ^ 52)| <
          |(numerator : ℚ) / denominator - patternUnits other| := by
    rcases Nat.eq_zero_or_pos shift with rfl | drops
    · exact Or.inl ⟨patternUnits other, by simp⟩
    · rcases Nat.lt_or_ge other (2 ^ 52 + shift * 2 ^ 52) with low | high
      · exact Or.inr
          (distance_lt_of_low positive (above drops) rounded chosen low)
      · exact Or.inl (exists_multiple high)
  constructor
  · intro other
    rcases classify other with ⟨multiple, equal⟩ | farther
    · rw [distance_of_multiple positive chosen,
        distance_of_multiple positive equal]
      exact mul_le_mul_of_nonneg_left (rounded.closest multiple)
        (le_of_lt power)
    · exact le_of_lt farther
  · intro other different tie
    rcases classify other with ⟨multiple, equal⟩ | farther
    · rw [distance_of_multiple positive chosen,
        distance_of_multiple positive equal] at tie
      have multipleTie := mul_left_cancel₀ (ne_of_gt power) tie
      have distinct : multiple ≠ significand := by
        rintro rfl
        exact different
          (strictMono_patternUnits.injective (equal.trans chosen.symm))
      have even := rounded.even_of_tie multiple distinct multipleTie
      omega
    · exact absurd tie (ne_of_lt farther)

/-- The pattern chosen for a quotient of integers is the one nearest to it. -/
theorem isNearest_nearestPattern
    (numerator : Nat) {denominator : Nat} (positive : 0 < denominator) :
    IsNearest patternValue (numerator / denominator)
      (nearestPattern numerator denominator) := by
  have unitsCast : (0 : ℚ) < unitsPerOne := Nat.cast_pos.mpr unitsPerOne_pos
  have nearest := isNearest_patternUnits (numerator * unitsPerOne) positive
  have scaled := nearest.scale (inv_pos.mpr unitsCast)
  have grid :
      (fun pattern => (unitsPerOne : ℚ)⁻¹ * patternUnits pattern) =
        patternValue := by
    funext pattern
    rw [patternValue, div_eq_inv_mul]
  have value :
      (unitsPerOne : ℚ)⁻¹ * ((numerator * unitsPerOne : Nat) / denominator) =
      numerator / denominator := by
    push_cast
    field_simp
  rw [grid, value] at scaled
  exact scaled

end Criteria
