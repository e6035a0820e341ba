import Criteria.Proofs.Number.Shortest

/-!
# Integers among the doubles

From `2 ^ 52` on every double is an integer, so that the double nearest to an
integer is one too, and so is every double with its fraction cut off.  Up to
`2 ^ 53` all integers are doubles; above, the doubles lie further and further
apart, and an integer in front of a double may be rounded up to it.
`exists_nearest_natCast` states exactly which integers are: those that lie past
the middle between that double and the one before it, and the middle itself if
the double is the even one of the two.
-/

namespace Criteria

/--
A value below a place of a grid is nearest to that place from the middle to the
place before it on; the middle itself goes to the even one of the two.
-/
theorem IsNearest.eq_succ_iff
    {grid : Nat → ℚ} {value : ℚ} {place before : Nat}
    (increasing : StrictMono grid)
    (nearest : IsNearest grid value place)
    (below : value < grid (before + 1)) :
    place = before + 1 ↔
      grid before + grid (before + 1) < 2 * value ∨
        grid before + grid (before + 1) = 2 * value ∧ (before + 1) % 2 = 0 := by
  have step := increasing (Nat.lt_succ_self before)
  have toNext : |value - grid (before + 1)| = grid (before + 1) - value := by
    rw [abs_of_neg (by linarith), neg_sub]
  constructor
  · rintro rfl
    have closest := nearest.closest before
    rw [toNext] at closest
    have above : grid before ≤ value := by
      by_contra under
      rw [abs_of_neg (by linarith)] at closest
      linarith
    have toLast : |value - grid before| = value - grid before :=
      abs_of_nonneg (by linarith)
    rw [toLast] at closest
    rcases lt_or_eq_of_le
      (by linarith : grid before + grid (before + 1) ≤ 2 * value) with
        past | middle
    · exact Or.inl past
    · have tie : |value - grid (before + 1)| = |value - grid before| := by
        rw [toNext, toLast]
        linarith
      exact Or.inr ⟨middle,
        nearest.even_of_tie before (Nat.ne_of_lt before.lt_succ_self) tie⟩
  · intro past
    have half : grid before + grid (before + 1) ≤ 2 * value :=
      past.elim le_of_lt fun middle => le_of_eq middle.1
    have toLast : |value - grid before| = value - grid before :=
      abs_of_nonneg (by linarith)
    have lower := (IsNearest.self increasing before).mono increasing
      (by linarith) nearest
    have upper := nearest.mono increasing (le_of_lt below)
      (IsNearest.self increasing (before + 1))
    by_contra different
    have same : place = before := by omega
    subst same
    have closest := nearest.closest (place + 1)
    rw [toNext, toLast] at closest
    rcases past with past | ⟨middle, even⟩
    · linarith
    · have tie : |value - grid place| = |value - grid (place + 1)| := by
        rw [toNext, toLast]
        linarith
      have also := nearest.even_of_tie (place + 1)
        (Nat.ne_of_gt place.lt_succ_self) tie
      omega

/-! ## Doubles that are integers -/

/-- The pattern of `2 ^ 52` times a power of two that is one in units. -/
theorem patternValue_first
    {exponent : Nat} (one : unitsPerOne = 2 ^ exponent) :
    patternValue (2 ^ 52 + exponent * 2 ^ 52) = (2 ^ 52 : Nat) := by
  apply patternValue_eq_natCast
  rw [patternUnits_shifted le_rfl (by norm_num), one]

/-- From `2 ^ 52` on every double is an integer. -/
theorem exists_natCast_of_le
    {pattern : Nat} (large : ((2 ^ 52 : Nat) : ℚ) ≤ patternValue pattern) :
    ∃ integer : Nat, patternValue pattern = integer := by
  rcases exists_unitsPerOne_eq with ⟨exponent, _, one⟩
  rw [← patternValue_first one] at large
  have high := strictMono_patternValue.le_iff_le.mp large
  rcases exists_multiple high with ⟨multiple, units⟩
  exact ⟨multiple, patternValue_eq_natCast (one ▸ units)⟩

/-- Up to `2 ^ 53` every integer is a double. -/
theorem exists_patternValue_natCast
    {integer : Nat} (small : integer ≤ 2 ^ 53) :
    ∃ pattern, patternValue pattern = integer := by
  rcases exists_patternValue small 0 with ⟨pattern, value⟩
  rw [Nat.pow_zero, Nat.mul_one] at value
  exact ⟨pattern, value⟩

theorem isNearest_nearestPattern_natCast (integer : Nat) :
    IsNearest patternValue integer (nearestPattern integer 1) := by
  have nearest := isNearest_nearestPattern integer Nat.one_pos
  rwa [Nat.cast_one, div_one] at nearest

/-- An integer that is a double is rounded to itself. -/
theorem patternValue_nearestPattern
    {integer pattern : Nat} (value : patternValue pattern = integer) :
    patternValue (nearestPattern integer 1) = integer := by
  have self := IsNearest.self strictMono_patternValue pattern
  rw [value] at self
  rw [(isNearest_nearestPattern_natCast integer).unique strictMono_patternValue
    self, value]

/-- The double nearest to an integer is an integer. -/
theorem exists_natCast_nearestPattern (integer : Nat) :
    ∃ nearest : Nat, patternValue (nearestPattern integer 1) = nearest := by
  rcases Nat.le_total integer (2 ^ 53) with small | large
  · rcases exists_patternValue_natCast small with ⟨pattern, value⟩
    exact ⟨integer, patternValue_nearestPattern value⟩
  · apply exists_natCast_of_le
    rcases exists_patternValue_natCast (by norm_num : 2 ^ 52 ≤ 2 ^ 53) with
      ⟨first, value⟩
    have self := IsNearest.self strictMono_patternValue first
    have ordered : patternValue first ≤ integer := by
      rw [value]
      exact_mod_cast Nat.le_trans (by norm_num) large
    rw [← value]
    exact strictMono_patternValue.monotone
      (self.mono strictMono_patternValue ordered
        (isNearest_nearestPattern_natCast integer))

/-- A double with its fraction cut off is a double. -/
theorem FiniteDouble.exists_wholePart (double : FiniteDouble) :
    ∃ pattern ≤ double.pattern, patternValue pattern = double.wholePart := by
  have positive : (0 : ℚ) < unitsPerOne := Nat.cast_pos.mpr unitsPerOne_pos
  have cutOff : (double.wholePart : ℚ) ≤ patternValue double.pattern :=
    Nat.cast_div_le
  rcases le_or_gt ((2 ^ 52 : Nat) : ℚ) (patternValue double.pattern) with
    large | small
  · rcases exists_natCast_of_le large with ⟨integer, value⟩
    refine ⟨double.pattern, le_rfl, ?_⟩
    have units : double.units = integer * unitsPerOne := by
      rw [patternValue, div_eq_iff (ne_of_gt positive)] at value
      exact_mod_cast value
    rw [value, wholePart, units, Nat.mul_div_cancel _ unitsPerOne_pos]
  · have bounded : double.wholePart < 2 ^ 52 := by
      exact_mod_cast lt_of_le_of_lt cutOff small
    rcases exists_patternValue_natCast
      (Nat.le_trans (Nat.le_of_lt bounded) (by norm_num)) with ⟨pattern, value⟩
    refine ⟨pattern, ?_, value⟩
    rw [← value] at cutOff
    exact strictMono_patternValue.le_iff_le.mp cutOff

/-! ## Rounding up to a double -/

/--
The distance from an integer above `2 ^ 52` that is a double to the double
before it.
-/
def spacingBelow (integer : Nat) : Nat :=
  2 ^ ((integer - 1).log2 - 52)

/--
An integer lies past the middle between a double and the one before it, or is
the middle and the double is the even one of the two.
-/
def RoundsUpTo (double integer : Nat) : Prop :=
  2 * double < 2 * integer + spacingBelow double ∨
    2 * double = 2 * integer + spacingBelow double ∧
      double / spacingBelow double % 2 = 0

instance (double integer : Nat) : Decidable (RoundsUpTo double integer) :=
  inferInstanceAs (Decidable (_ ∨ _))

/-- Up to `2 ^ 53` nothing is rounded up. -/
theorem not_roundsUpTo_of_le
    {double integer : Nat} (below : integer < double)
    (small : double ≤ 2 ^ 53) :
    ¬RoundsUpTo double integer := by
  have spacing : spacingBelow double = 1 := by
    have bounded : (double - 1).log2 < 53 := by
      rcases Nat.eq_zero_or_pos (double - 1) with zero | positive
      · rw [zero]
        decide
      · exact (Nat.log2_lt (by omega)).mpr (by omega)
    rw [spacingBelow, Nat.sub_eq_zero_of_le (by omega), Nat.pow_zero]
  rw [RoundsUpTo, spacing]
  omega

/--
Doubles that share an exponent lie as far apart as the power of two that their
significands are scaled by.
-/
theorem spacingBelow_eq
    {significand : Nat} (lower : 2 ^ 52 ≤ significand)
    (upper : significand < 2 ^ 53) (extra : Nat) :
    spacingBelow ((significand + 1) * 2 ^ extra) = 2 ^ extra := by
  have power := Nat.two_pow_pos extra
  have least := Nat.mul_le_mul_right (2 ^ extra) lower
  have most := Nat.mul_le_mul_right (2 ^ extra) (Nat.succ_le_of_lt upper)
  rw [Nat.succ_eq_add_one] at most
  have expanded : (significand + 1) * 2 ^ extra =
      significand * 2 ^ extra + 2 ^ extra := Nat.succ_mul _ _
  have leading : ((significand + 1) * 2 ^ extra - 1).log2 = 52 + extra := by
    rw [Nat.log2_eq_iff (by omega), Nat.pow_add, Nat.add_right_comm,
      Nat.pow_add]
    omega
  rw [spacingBelow, leading, Nat.add_sub_cancel_left]

/-- The double before an integer above `2 ^ 52` that is a double. -/
theorem exists_before
    {double pattern : Nat} (large : 2 ^ 52 < double)
    (value : patternValue pattern = double) :
    ∃ before, pattern = before + 1 ∧
      patternValue before + spacingBelow double = double ∧
        pattern % 2 = double / spacingBelow double % 2 := by
  rcases exists_unitsPerOne_eq with ⟨exponent, _, one⟩
  have above : 2 ^ 52 + exponent * 2 ^ 52 < pattern := by
    rw [← strictMono_patternValue.lt_iff_lt, patternValue_first one, value]
    exact_mod_cast large
  rcases exists_shifted (by omega : 2 ^ 52 ≤ pattern - 1) with
    ⟨significand, shift, lower, upper, before⟩
  obtain ⟨extra, rfl⟩ : ∃ extra, shift = exponent + extra :=
    ⟨shift - exponent, by omega⟩
  have shifted (integer : Nat) :
      integer * 2 ^ (exponent + extra) =
        integer * 2 ^ extra * unitsPerOne := by
    rw [one, Nat.add_comm, Nat.pow_add, Nat.mul_assoc]
  have beforeValue : patternValue (pattern - 1) =
      (significand * 2 ^ extra : Nat) := by
    apply patternValue_eq_natCast
    rw [before, patternUnits_shifted lower (Nat.le_of_lt upper), shifted]
  have next : pattern = significand + 1 + (exponent + extra) * 2 ^ 52 := by
    omega
  have ownValue : patternValue pattern =
      ((significand + 1) * 2 ^ extra : Nat) := by
    apply patternValue_eq_natCast
    rw [next, patternUnits_shifted (by omega) upper, shifted]
  have whole : double = (significand + 1) * 2 ^ extra := by
    rw [value] at ownValue
    exact_mod_cast ownValue
  have power := Nat.two_pow_pos extra
  have spacing : spacingBelow double = 2 ^ extra := by
    rw [whole]
    exact spacingBelow_eq lower upper extra
  refine ⟨pattern - 1, by omega, ?_, ?_⟩
  · rw [beforeValue, spacing, whole, Nat.succ_mul]
    exact (Nat.cast_add _ _).symm
  · rw [spacing, whole, Nat.mul_div_cancel _ power, next]
    omega

/--
Above `2 ^ 53` the double nearest to an integer below a double is that double
exactly if the integer is rounded up to it.
-/
theorem nearestPattern_eq_iff
    {double pattern integer : Nat} (value : patternValue pattern = double)
    (large : 2 ^ 53 < double) (below : integer < double) :
    nearestPattern integer 1 = pattern ↔ RoundsUpTo double integer := by
  rcases exists_before (Nat.lt_trans (by norm_num) large) value with
    ⟨before, rfl, beforeValue, parity⟩
  have under : (integer : ℚ) < patternValue (before + 1) := by
    rw [value]
    exact_mod_cast below
  have sum : patternValue before + patternValue (before + 1) +
      spacingBelow double = 2 * double := by
    rw [value, ← beforeValue]
    ring
  have past : patternValue before + patternValue (before + 1) < 2 * integer ↔
      2 * double < 2 * integer + spacingBelow double := by
    rw [← @Nat.cast_lt ℚ]
    push_cast
    constructor <;> intro <;> linarith
  have middle : patternValue before + patternValue (before + 1) =
      2 * integer ↔ 2 * double = 2 * integer + spacingBelow double := by
    rw [← @Nat.cast_inj ℚ]
    push_cast
    constructor <;> intro <;> linarith
  rw [(isNearest_nearestPattern_natCast integer).eq_succ_iff
    strictMono_patternValue under, past, middle, parity]
  rfl

/--
The double nearest to an integer below a double is an integer that is no greater
than this double, and it is smaller unless the integer is rounded up.
-/
theorem exists_nearest_natCast
    {double pattern integer : Nat} (value : patternValue pattern = double)
    (below : integer < double) :
    ∃ nearest : Nat, patternValue (nearestPattern integer 1) = nearest ∧
      nearestPattern integer 1 ≤ pattern ∧ nearest ≤ double ∧
        (nearest < double ↔ ¬RoundsUpTo double integer) := by
  rcases exists_natCast_nearestPattern integer with ⟨nearest, nearestValue⟩
  have under : (integer : ℚ) ≤ patternValue pattern := by
    rw [value]
    exact_mod_cast Nat.le_of_lt below
  have places := (isNearest_nearestPattern_natCast integer).mono
    strictMono_patternValue under
      (IsNearest.self strictMono_patternValue pattern)
  have most : nearest ≤ double := by
    have values := strictMono_patternValue.monotone places
    rw [nearestValue, value] at values
    exact_mod_cast values
  refine ⟨nearest, nearestValue, places, most, ?_⟩
  rcases Nat.lt_or_ge (2 ^ 53) double with large | small
  · have equal : nearest = double ↔ RoundsUpTo double integer := by
      rw [← nearestPattern_eq_iff value large below, ← @Nat.cast_inj ℚ,
        ← nearestValue, ← value]
      exact strictMono_patternValue.injective.eq_iff
    rw [← equal]
    exact Nat.lt_iff_le_and_ne.trans (and_iff_right most)
  · rcases exists_patternValue_natCast
      (Nat.le_of_lt (Nat.lt_of_lt_of_le below small)) with ⟨own, ownValue⟩
    have same : nearest = integer := by
      rw [patternValue_nearestPattern ownValue] at nearestValue
      exact_mod_cast nearestValue.symm
    subst same
    exact iff_of_true below (not_roundsUpTo_of_le below small)

end Criteria
