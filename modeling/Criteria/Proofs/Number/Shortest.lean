import Criteria.Proofs.Number.Decimal
import Criteria.Proofs.Number.Digits

/-!
# Short decimals of doubles

The decimal that `FiniteDouble.shortest` finds reads back as the double it was
found for, under either rule for ties and whatever the search does.  For an
integer of at most `2 ^ 53` it is that integer exactly: every integer that the
search may meet up to there is a double of its own, so that no shorter one
reads back in its place.
-/

namespace Criteria

/-! ## Zeros at the end -/

@[simp]
theorem Decimal.value_trimmed (decimal : Decimal) :
    decimal.trimmed.value = decimal.value := by
  fun_induction Decimal.trimmed decimal with
  | case1 decimal divisible ih =>
      have whole : decimal.digits = decimal.digits / 10 * 10 := by omega
      have digits :
          (decimal.digits : ℚ) = (decimal.digits / 10 : Nat) * 10 := by
        exact_mod_cast whole
      rw [ih, value, value, digits, zpow_add_one₀ (by norm_num)]
      ring
  | case2 => rfl

/-- A trimmed decimal has no zero at the end of its digits. -/
theorem Decimal.trimmed_mod_ten (decimal : Decimal) :
    decimal.trimmed.digits = 0 ∨ decimal.trimmed.digits % 10 ≠ 0 := by
  fun_induction Decimal.trimmed decimal with
  | case1 decimal divisible ih => exact ih
  | case2 decimal notDivisible => omega

/-! ## The search reads back -/

namespace FiniteDouble

/-- The exact absolute value of a double. -/
def value (double : FiniteDouble) : ℚ :=
  patternValue double.pattern

/-- A decimal of the exact value reads back. -/
theorem ofDecimal_eq_of_value_eq
    {double : FiniteDouble} {decimal : Decimal}
    (equal : decimal.value = double.value) :
    Double.ofDecimal double.isNegative decimal = .finite double := by
  rw [Double.ofDecimal_eq_finite_iff, equal]
  exact ⟨rfl, .self strictMono_patternValue _⟩

theorem value_exactDecimal (double : FiniteDouble) :
    double.exactDecimal.value = double.value := by
  have halves (exponent : Nat) :
      (5 : ℚ) ^ exponent * 10 ^ (-(exponent : Int)) = 1 / 2 ^ exponent := by
    rw [zpow_neg, zpow_natCast, ← div_eq_mul_inv, ← div_pow, one_div, ← inv_pow]
    norm_num
  have power : (10 : ℚ) ^ (-1074 : Int) = 10 ^ (-((1074 : Nat) : Int)) := rfl
  rw [exactDecimal, Decimal.value, value, patternValue, cast_unitsPerOne]
  simp only [Nat.cast_mul, Nat.cast_pow, Nat.cast_ofNat]
  rw [mul_assoc, power, halves, mul_one_div]
  rfl

/-- What a grid contributes to the search reads back. -/
theorem ofDecimal_neighbour?
    {rule : TieRule} {double : FiniteDouble} {exponent : Int}
    {decimal : Decimal}
    (found : neighbour? rule double exponent = some decimal) :
    Double.ofDecimal double.isNegative decimal = .finite double := by
  have readBack (candidate : Decimal)
      (reads : double.isReadFrom candidate = true) :
      Double.ofDecimal double.isNegative candidate = .finite double :=
    eq_of_beq reads
  unfold neighbour? at found
  simp only at found
  split at found
  · rename_i belowReads aboveReads
    split_ifs at found <;> cases found
    · exact readBack _ belowReads
    · exact readBack _ aboveReads
    · exact readBack _ belowReads
    · exact readBack _ aboveReads
  · cases found
    exact readBack _ ‹_›
  · cases found
    exact readBack _ ‹_›
  · cases found

/-- The decimal found for a double reads back as that double. -/
theorem ofDecimal_shortest (rule : TieRule) (double : FiniteDouble) :
    Double.ofDecimal double.isNegative (double.shortest rule) =
      .finite double := by
  unfold shortest
  split_ifs with zero
  · apply ofDecimal_eq_of_value_eq
    rw [value, eq_of_beq zero]
    simp [Decimal.value]
  · simp only
    cases search : (List.range 17).findSome? fun extra =>
        neighbour? rule double (double.leadingExponent - (extra : Nat)) with
    | none =>
        apply ofDecimal_eq_of_value_eq
        rw [Option.getD_none, Decimal.value_trimmed, value_exactDecimal]
    | some decimal =>
        rcases List.exists_of_findSome?_eq_some search with ⟨extra, _, found⟩
        rw [Option.getD_some, ← ofDecimal_neighbour? found]
        exact Double.ofDecimal_congr _ decimal.value_trimmed

end FiniteDouble

/-! ## Integers up to `2 ^ 53` -/

/--
A significand of at most 53 bits under a shift is the value of some pattern.
-/
theorem exists_patternUnits
    {significand : Nat} (small : significand ≤ 2 ^ 53) (shift : Nat) :
    ∃ pattern, patternUnits pattern = significand * 2 ^ shift := by
  induction shift generalizing significand with
  | zero =>
      exact ⟨significand,
        by rw [patternUnits_small small, Nat.pow_zero, Nat.mul_one]⟩
  | succ shift ih =>
      rcases Nat.lt_or_ge significand (2 ^ 52) with below | above
      · rcases ih (by omega : 2 * significand ≤ 2 ^ 53) with ⟨pattern, units⟩
        refine ⟨pattern, ?_⟩
        rw [units, Nat.pow_succ]
        ring
      · exact ⟨_, patternUnits_shifted above small (shift + 1)⟩

/-- A number of units that is a pattern's own is that pattern's value. -/
theorem patternValue_eq_natCast
    {pattern integer : Nat}
    (units : patternUnits pattern = integer * unitsPerOne) :
    patternValue pattern = integer := by
  have positive : (unitsPerOne : ℚ) ≠ 0 := by
    exact_mod_cast unitsPerOne_pos.ne'
  rw [patternValue, units, Nat.cast_mul, mul_div_assoc, div_self positive,
    mul_one]

/--
A significand of at most 53 bits under a shift is an integer that some pattern
stands for.
-/
theorem exists_patternValue
    {significand : Nat} (small : significand ≤ 2 ^ 53) (shift : Nat) :
    ∃ pattern, patternValue pattern = (significand * 2 ^ shift : Nat) := by
  rcases exists_unitsPerOne_eq with ⟨exponent, _, one⟩
  rcases exists_patternUnits small (shift + exponent) with ⟨pattern, units⟩
  refine ⟨pattern, patternValue_eq_natCast ?_⟩
  rw [units, one, Nat.pow_add, Nat.mul_assoc]

/--
An integer that is nearest to a value of at most `2 ^ 53` is that value, unless
it is the integer halfway to the next double.
-/
theorem eq_of_isNearest_natCast
    {integer whole pattern : Nat}
    (value : patternValue pattern = whole)
    (small : whole ≤ 2 ^ 53)
    (nearest : IsNearest patternValue integer pattern)
    (notHalfway : integer ≠ 2 ^ 53 + 1) :
    integer = whole := by
  rcases Nat.lt_or_ge (2 ^ 53) integer with large | exact'
  · rcases exists_patternValue (by norm_num : 2 ^ 52 + 1 ≤ 2 ^ 53) 1 with
        ⟨past, pastValue⟩
    have ordered : patternValue past ≤ integer := by
      rw [pastValue]
      exact_mod_cast (by omega : (2 ^ 52 + 1) * 2 ^ 1 ≤ integer)
    have places := (IsNearest.self strictMono_patternValue past).mono
      strictMono_patternValue ordered nearest
    have values := strictMono_patternValue.monotone places
    rw [pastValue, value] at values
    have contrary : (2 ^ 52 + 1) * 2 ^ 1 ≤ whole := by exact_mod_cast values
    omega
  · rcases exists_patternValue exact' 0 with ⟨own, ownValue⟩
    rw [Nat.pow_zero, Nat.mul_one] at ownValue
    have self := IsNearest.self strictMono_patternValue own
    rw [ownValue] at self
    have same := self.unique strictMono_patternValue nearest
    rw [same, value] at ownValue
    exact_mod_cast ownValue.symm

/--
An integer of at most `2 ^ 53` in magnitude is a finite double of its own.
-/
theorem Double.exists_ofInt
    {integer : Int} (small : integer.natAbs ≤ 2 ^ 53) :
    ∃ double : FiniteDouble, Double.ofInt integer = .finite double ∧
      double.isNegative = decide (integer < 0) ∧
        double.units = integer.natAbs * unitsPerOne := by
  rcases exists_unitsPerOne_eq with ⟨exponent, bounded, one⟩
  rcases exists_patternUnits small exponent with ⟨pattern, units⟩
  have finite : pattern < infinityPattern := by
    rw [← strictMono_patternUnits.lt_iff_lt, units,
      patternUnits_infinityPattern]
    calc
      integer.natAbs * 2 ^ exponent ≤ 2 ^ 53 * 2 ^ exponent :=
        Nat.mul_le_mul_right _ small
      _ = 2 ^ (53 + exponent) := (Nat.pow_add 2 53 exponent).symm
      _ < 2 ^ (52 + 2046) := Nat.pow_lt_pow_right (by decide) (by omega)
  rw [← one] at units
  refine ⟨⟨integer < 0, pattern, finite⟩, ?_, rfl, units⟩
  have exact' : Decimal.value ⟨integer.natAbs, 0⟩ = patternValue pattern := by
    rw [patternValue_eq_natCast units]
    simp [Decimal.value]
  rw [Double.ofInt_eq_ofDecimal, Double.ofDecimal_eq_finite_iff, exact']
  exact ⟨rfl, .self strictMono_patternValue pattern⟩

/-- The first hit of a search through a range has no hit before it. -/
theorem exists_first_of_findSome?_range
    {α : Type} {probe : Nat → Option α} {bound : Nat} {result : α}
    (search : (List.range bound).findSome? probe = some result) :
    ∃ place, probe place = some result ∧
      ∀ earlier < place, probe earlier = none := by
  induction bound with
  | zero => simp at search
  | succ bound ih =>
      rw [List.range_succ, List.findSome?_append] at search
      cases before : (List.range bound).findSome? probe with
      | some found =>
          rw [before, Option.some_or] at search
          exact ih (before.trans search)
      | none =>
          rw [before, Option.none_or, List.findSome?_singleton] at search
          refine ⟨bound, search, fun earlier below => ?_⟩
          exact List.findSome?_eq_none_iff.mp before earlier
            (List.mem_range.mpr below)

namespace FiniteDouble

variable {double : FiniteDouble} {whole : Nat} {rule : TieRule}

theorem value_of_units (units : double.units = whole * unitsPerOne) :
    double.value = whole :=
  patternValue_eq_natCast units

theorem leadingExponent_of_units
    (units : double.units = whole * unitsPerOne) (positive : 0 < whole) :
    double.leadingExponent = floorLog10 whole := by
  have above : unitsPerOne ≤ double.units := by
    rw [units]
    exact Nat.le_mul_of_pos_left unitsPerOne positive
  rw [leadingExponent, if_pos above, units,
    Nat.mul_div_cancel _ unitsPerOne_pos]

/-- A point of a grid that is the exact value is its own neighbour there. -/
theorem neighbour?_of_quotient
    {exponent : Int} {digits denominator : Nat}
    (quotient : double.quotientByPower exponent =
      (digits * denominator, denominator))
    (positive : 0 < denominator)
    (reads : double.isReadFrom ⟨digits, exponent⟩ = true) :
    neighbour? rule double exponent = some ⟨digits, exponent⟩ := by
  unfold neighbour?
  rw [quotient]
  simp only [Nat.mul_div_cancel _ positive, Nat.mul_mod_left, reads,
    Nat.mul_zero]
  rw [if_pos positive]
  split
  · rfl
  · rfl
  · contradiction
  · contradiction

/-- On the grid of the integers, an integer is its own neighbour. -/
theorem neighbour?_zero_of_units (units : double.units = whole * unitsPerOne) :
    neighbour? rule double 0 = some ⟨whole, 0⟩ := by
  refine neighbour?_of_quotient ?_ unitsPerOne_pos
    (beq_iff_eq.mpr (ofDecimal_eq_of_value_eq ?_))
  · simp [quotientByPower, units]
  · rw [value_of_units units]
    simp [Decimal.value]

/-- A neighbour lies on its grid. -/
theorem exponent_neighbour?
    {exponent : Int} {decimal : Decimal}
    (found : neighbour? rule double exponent = some decimal) :
    decimal.exponent = exponent := by
  unfold neighbour? at found
  simp only at found
  split at found
  · split_ifs at found <;> cases found <;> rfl
  · cases found
    rfl
  · cases found
    rfl
  · cases found

/--
On a coarser grid, an integer up to `2 ^ 53` is the only neighbour that reads
back.
-/
theorem value_neighbour?_of_units
    {exponent : Nat} {decimal : Decimal}
    (units : double.units = whole * unitsPerOne) (small : whole ≤ 2 ^ 53)
    (found : neighbour? rule double (exponent + 1 : Nat) = some decimal) :
    decimal.value = whole := by
  have natural :
      decimal.value = (decimal.digits * 10 ^ (exponent + 1) : Nat) := by
    rw [Decimal.value, exponent_neighbour? found, zpow_natCast]
    push_cast
    rfl
  have nearest :=
    (Double.ofDecimal_eq_finite_iff.mp (ofDecimal_neighbour? found)).2
  rw [natural] at nearest ⊢
  -- A multiple of ten is not the integer halfway between `2 ^ 53` and the next
  -- double.
  have tens := mul_pow_mod_ten decimal.digits exponent
  have equal :=
    eq_of_isNearest_natCast (value_of_units units) small nearest (by omega)
  exact_mod_cast equal

/-- An integer of at most `2 ^ 53` is the decimal found for it. -/
theorem value_shortest_of_units
    (units : double.units = whole * unitsPerOne) (small : whole ≤ 2 ^ 53) :
    (double.shortest rule).value = whole := by
  unfold shortest
  split_ifs with zero
  · have pattern : double.pattern = 0 := eq_of_beq zero
    rw [← value_of_units units, value, pattern]
    simp [Decimal.value]
  · have positive : 0 < whole := by
      refine Nat.pos_of_ne_zero ?_
      rintro rfl
      have none' : patternUnits double.pattern = patternUnits 0 := by
        rw [show patternUnits double.pattern = 0 * unitsPerOne from units,
          Nat.zero_mul]
        rfl
      exact zero (beq_iff_eq.mpr (strictMono_patternUnits.injective none'))
    have lead : floorLog10 whole < 16 := by
      refine floorLog10_lt (by decide) ?_
      omega
    have atZero :
        neighbour? rule double
          (double.leadingExponent - (floorLog10 whole : Nat)) =
        some ⟨whole, 0⟩ := by
      rw [leadingExponent_of_units units positive, sub_self]
      exact neighbour?_zero_of_units units
    simp only
    cases search : (List.range 17).findSome? fun extra =>
        neighbour? rule double (double.leadingExponent - (extra : Nat)) with
    | none =>
        have missed := List.findSome?_eq_none_iff.mp search (floorLog10 whole)
          (List.mem_range.mpr (by omega))
        rw [atZero] at missed
        cases missed
    | some decimal =>
        rcases exists_first_of_findSome?_range search with
            ⟨extra, found, before⟩
        rw [Option.getD_some, Decimal.value_trimmed]
        rcases Nat.lt_trichotomy extra (floorLog10 whole) with earlier |
          rfl | later
        · have grid : double.leadingExponent - (extra : Nat) =
              ((floorLog10 whole - extra - 1 + 1 : Nat) : Int) := by
            rw [leadingExponent_of_units units positive]
            omega
          rw [grid] at found
          exact value_neighbour?_of_units units small found
        · rw [atZero] at found
          cases found
          simp [Decimal.value]
        · have missed := before (floorLog10 whole) later
          rw [atZero] at missed
          cases missed

end FiniteDouble

end Criteria
