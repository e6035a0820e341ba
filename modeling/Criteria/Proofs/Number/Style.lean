import Criteria.Number.Style
import Criteria.Proofs.Number.Numeral
import Criteria.Proofs.Number.Shortest

/-!
# Styles write numerals

Whatever its decisions, a number style writes a finite double as a numeral: a
well-formed text that reads back as the double.  The digits, the place of the
point and the exponent make up the decimal that was found for the double,
except that an integer may get zeros behind its digits, which its power of ten
then no longer counts.
-/

namespace Criteria

/-- A well-formed numeral with a given sign and the value of a given decimal. -/
structure Numeral.Expresses (numeral : Numeral) (isNegative : Bool)
    (decimal : Decimal) : Prop where
  wellFormed : numeral.WellFormed
  sign : numeral.isNegative = isNegative
  value : numeral.decimal.value = decimal.value

theorem Numeral.Expresses.toDouble
    {numeral : Numeral} {isNegative : Bool} {decimal : Decimal}
    (expresses : numeral.Expresses isNegative decimal) :
    numeral.toDouble = .ofDecimal isNegative decimal := by
  rw [Numeral.toDouble, expresses.sign]
  exact Double.ofDecimal_congr isNegative expresses.value

/-! ## Digits of decimals -/

namespace Decimal

variable {decimal : Decimal} {isNegative : Bool} {numeral : Numeral}

/-- The digits of a decimal, as they are written. -/
def digitChars (decimal : Decimal) : List Char :=
  decimalDigits decimal.digits

theorem digitChars_ne_nil (decimal : Decimal) : decimal.digitChars ≠ [] :=
  decimalDigits_ne_nil decimal.digits

@[simp]
theorem digitsValue_digitChars (decimal : Decimal) :
    digitsValue decimal.digitChars = decimal.digits :=
  digitsValue_decimalDigits decimal.digits

theorem isDigit_of_mem_digitChars {digit : Char}
    (member : digit ∈ decimal.digitChars) :
    digit.isDigit = true :=
  isDigit_of_mem_decimalDigits member

/--
The first digit stands at the leading power of ten, the last one at the
exponent.
-/
theorem leadingExponent_add_one (decimal : Decimal) :
    decimal.leadingExponent + 1 =
      decimal.exponent + decimal.digitChars.length := by
  rw [leadingExponent, digitChars, length_decimalDigits]
  push_cast
  ring

@[simp]
theorem digitsValue_cons_zero (digits : List Char) :
    digitsValue ('0' :: digits) = digitsValue digits := rfl

theorem isDigit_of_mem_zeros
    {digit : Char} {count : Nat} (member : digit ∈ List.replicate count '0') :
    digit.isDigit = true := by
  rw [List.eq_of_mem_replicate member]
  rfl

/-- Zeros behind the digits of a decimal go into its power of ten. -/
theorem value_eq_of_zeros
    {first second : Decimal}
    (zeros : Nat)
    (digits : first.digits = second.digits * 10 ^ zeros)
    (exponent : first.exponent + zeros = second.exponent) :
    first.value = second.value := by
  rw [value, value, digits, ← exponent, zpow_add₀ (by norm_num), zpow_natCast]
  push_cast
  ring

/-! ## The point in place -/

/-- A decimal below one, written with zeros between the point and its digits. -/
theorem expresses_belowOne (below : decimal.leadingExponent < 0) :
    Numeral.Expresses
      ⟨isNegative, ['0'],
        List.replicate (-decimal.leadingExponent - 1).toNat '0' ++
          decimal.digitChars, none⟩
      isNegative decimal := by
  have lead := leadingExponent_add_one decimal
  refine ⟨⟨by simp, by simp, fun _ => rfl, ?_, by simp⟩, rfl,
    value_eq_of_zeros 0 ?_ ?_⟩
  · intro digit member
    rcases List.mem_append.mp member with zero | digit'
    · exact isDigit_of_mem_zeros zero
    · exact isDigit_of_mem_digitChars digit'
  · simp [Numeral.decimal, digitsValue_append]
  · simp only [Numeral.decimal, Numeral.exponentValue, Option.map_none,
      Option.getD_none, List.length_append, List.length_replicate]
    omega

/--
A decimal whose digits end before the point, written with zeros up to the point.
-/
theorem expresses_integer
    (keepsFraction : Bool)
    (plain : decimal.digits = 0 → decimal.exponent = 0)
    (above : ¬ decimal.leadingExponent < 0)
    (short : decimal.digitChars.length ≤ decimal.leadingExponent.toNat + 1) :
    Numeral.Expresses
      ⟨isNegative,
        decimal.digitChars ++
          List.replicate
            (decimal.leadingExponent.toNat + 1 - decimal.digitChars.length) '0',
        if keepsFraction then ['0'] else [], none⟩
      isNegative decimal := by
  have lead := leadingExponent_add_one decimal
  refine ⟨⟨by simp [digitChars_ne_nil], ?_, ?_, ?_, by simp⟩, rfl, ?_⟩
  · intro digit member
    rcases List.mem_append.mp member with digit' | zero
    · exact isDigit_of_mem_digitChars digit'
    · exact isDigit_of_mem_zeros zero
  · intro leading
    rw [List.head?_append_of_ne_nil _ decimal.digitChars_ne_nil] at leading
    -- Only zero starts with a zero, and zero is written without zeros behind
    -- it.
    have alone : decimal.digitChars = ['0'] := decimalDigits_of_head? leading
    have zero : decimal.digits = 0 := by
      rw [← digitsValue_digitChars, alone, digitsValue_cons_zero,
        digitsValue_nil]
    have noZeros : decimal.leadingExponent.toNat = 0 := by
      have exponent := plain zero
      rw [alone, List.length_singleton] at lead
      omega
    rw [alone, noZeros]
    rfl
  · intro digit member
    cases keepsFraction <;> simp at member
    rw [member]
    rfl
  · cases keepsFraction with
    | false =>
        refine value_eq_of_zeros
          (decimal.leadingExponent.toNat + 1 - decimal.digitChars.length) ?_ ?_
        · simp [Numeral.decimal, digitsValue_append]
        · simp [Numeral.decimal, Numeral.exponentValue]
          omega
    | true =>
        refine value_eq_of_zeros
          (decimal.leadingExponent.toNat + 1 - decimal.digitChars.length + 1) ?_
          ?_
        · simp [Numeral.decimal, digitsValue_append, Nat.pow_succ]
        · simp [Numeral.decimal, Numeral.exponentValue]
          omega

/-- A decimal whose digits lie on both sides of the point. -/
theorem expresses_split
    (above : ¬ decimal.leadingExponent < 0)
    (long : ¬ decimal.digitChars.length ≤ decimal.leadingExponent.toNat + 1) :
    Numeral.Expresses
      ⟨isNegative, decimal.digitChars.take (decimal.leadingExponent.toNat + 1),
        decimal.digitChars.drop (decimal.leadingExponent.toNat + 1), none⟩
      isNegative decimal := by
  have lead := leadingExponent_add_one decimal
  refine ⟨⟨by simp [digitChars_ne_nil], ?_, ?_, ?_, by simp⟩, rfl,
    value_eq_of_zeros 0 ?_ ?_⟩
  · intro digit member
    exact isDigit_of_mem_digitChars (List.mem_of_mem_take member)
  · intro leading
    rw [List.head?_take, if_neg (Nat.succ_ne_zero _)] at leading
    have alone : decimal.digitChars = ['0'] := decimalDigits_of_head? leading
    rw [alone] at long
    simp at long
  · intro digit member
    exact isDigit_of_mem_digitChars (List.mem_of_mem_drop member)
  · simp [Numeral.decimal]
  · simp only [Numeral.decimal, Numeral.exponentValue, Option.map_none,
      Option.getD_none, List.length_drop]
    omega

/-- Setting the point in place writes a numeral of the decimal. -/
theorem exists_positional
    (isNegative keepsFraction : Bool)
    (plain : decimal.digits = 0 → decimal.exponent = 0) :
    ∃ numeral : Numeral, numeral.Expresses isNegative decimal ∧
      numeral.text = (if isNegative then ['-'] else []) ++
        NumberStyle.positional keepsFraction decimal.digitChars
          decimal.leadingExponent := by
  have nonempty := decimal.digitChars_ne_nil
  unfold NumberStyle.positional
  by_cases below : decimal.leadingExponent < 0
  · refine ⟨_, expresses_belowOne below, ?_⟩
    simp [Numeral.text, below, nonempty]
  · by_cases short : decimal.digitChars.length ≤
      decimal.leadingExponent.toNat + 1
    · refine ⟨_, expresses_integer keepsFraction plain below short, ?_⟩
      cases keepsFraction <;> simp [Numeral.text, below, short]
    · refine ⟨_, expresses_split below short, ?_⟩
      have behind :
          decimal.digitChars.drop (decimal.leadingExponent.toNat + 1) ≠ [] := by
        rw [ne_eq, List.drop_eq_nil_iff]
        exact short
      simp [Numeral.text, below, short, behind]

/-! ## The point after the first digit -/

/--
A decimal whose exponent is written, with a sign and perhaps with zeros before
it.
-/
theorem expresses_scientific
    {first : Char} {others : List Char}
    (zeros : Nat)
    (split : decimal.digitChars = first :: others) :
    Numeral.Expresses
      ⟨isNegative, [first], others,
        some ⟨'e', some (if decimal.leadingExponent < 0 then '-' else '+'),
          List.replicate zeros '0' ++ decimalDigits
            decimal.leadingExponent.natAbs⟩⟩
      isNegative decimal := by
  have lead := leadingExponent_add_one decimal
  have digit {character : Char} (member : character ∈ first :: others) :
      character.isDigit = true := by
    rw [← split] at member
    exact isDigit_of_mem_digitChars member
  refine ⟨⟨by simp, ?_, by simp, ?_, ?_⟩, rfl, value_eq_of_zeros 0 ?_ ?_⟩
  · intro character member
    rw [List.mem_singleton.mp member]
    exact digit List.mem_cons_self
  · intro character member
    exact digit (List.mem_cons_of_mem first member)
  · intro exponent member
    cases Option.mem_some.mp member
    refine ⟨Or.inl rfl, ?_, by simp [decimalDigits_ne_nil], ?_⟩
    · split_ifs
      · exact Or.inr (Or.inr rfl)
      · exact Or.inr (Or.inl rfl)
    · intro character member'
      rcases List.mem_append.mp member' with zero | digit'
      · exact isDigit_of_mem_zeros zero
      · exact isDigit_of_mem_decimalDigits digit'
  · have whole := digitsValue_digitChars decimal
    rw [split] at whole
    simpa [Numeral.decimal] using whole
  · rw [split, List.length_cons] at lead
    simp only [Numeral.decimal, Numeral.exponentValue, Exponent.value,
      Option.map_some, Option.getD_some, digitsValue_append,
      digitsValue_replicate_zero, digitsValue_decimalDigits]
    by_cases negative : decimal.leadingExponent < 0
    · simp only [negative, if_true]
      omega
    · have notMinus : ¬ some '+' = some '-' := by decide
      simp only [negative, if_false, if_neg notMinus]
      omega

/-- Writing the exponent writes a numeral of the decimal. -/
theorem exists_scientific (isNegative : Bool) (exponentWidth : Nat)
    (decimal : Decimal) :
    ∃ numeral : Numeral, numeral.Expresses isNegative decimal ∧
      numeral.text = (if isNegative then ['-'] else []) ++
        NumberStyle.scientific exponentWidth decimal.digitChars
          decimal.leadingExponent := by
  rcases List.exists_cons_of_ne_nil decimal.digitChars_ne_nil with
      ⟨first, others, split⟩
  refine ⟨_, expresses_scientific
    (exponentWidth - (decimalDigits decimal.leadingExponent.natAbs).length)
    split, ?_⟩
  unfold NumberStyle.scientific
  rw [split]
  cases others <;> simp [Numeral.text, Exponent.text]

end Decimal

/-! ## Writing doubles -/

/-- The decimal of a double has no power of ten if it has no digits. -/
theorem FiniteDouble.exponent_shortest
    {rule : TieRule} {double : FiniteDouble}
    (noDigits : (double.shortest rule).digits = 0) :
    (double.shortest rule).exponent = 0 := by
  have reads := double.ofDecimal_shortest rule
  rw [Double.ofDecimal, if_pos noDigits] at reads
  have zero : double.isZero = true := by
    rw [← Double.finite.inj reads]
    rfl
  rw [shortest, if_pos zero]

/-- Every style writes a double as a numeral that reads back as the double. -/
theorem NumberStyle.exists_numeral (style : NumberStyle)
    (double : FiniteDouble) :
    ∃ numeral : Numeral, numeral.WellFormed ∧
      numeral.text = style.writeFinite double ∧
      numeral.toDouble = .finite double := by
  have written : ∃ numeral : Numeral,
      numeral.Expresses double.isNegative (double.shortest style.tie) ∧
        numeral.text = style.writeFinite double := by
    unfold writeFinite
    simp only
    by_cases inPlace :
      style.isPositional (double.shortest style.tie).leadingExponent = true
    · rw [if_pos inPlace]
      exact Decimal.exists_positional _ _ FiniteDouble.exponent_shortest
    · rw [if_neg inPlace]
      exact Decimal.exists_scientific _ _ _
  rcases written with ⟨numeral, expresses, text⟩
  refine ⟨numeral, expresses.wellFormed, text, ?_⟩
  rw [expresses.toDouble, FiniteDouble.ofDecimal_shortest]

/-! ## Writing integers -/

namespace Decimal

variable {decimal : Decimal} {zeros : Nat}

/-- An integer is the digits of its trimmed decimal with zeros behind them. -/
theorem exists_zeros
    {whole : Nat}
    (trimmed : decimal.digits = 0 ∨ decimal.digits % 10 ≠ 0)
    (plain : decimal.digits = 0 → decimal.exponent = 0)
    (value : decimal.value = whole) :
    ∃ zeros : Nat,
      decimal.exponent = zeros ∧ whole = decimal.digits * 10 ^ zeros := by
  rcases lt_or_ge decimal.exponent 0 with below | above
  · -- An integer that needs digits behind the point would have a zero as its
    -- last digit.
    have behindPoint :
        ∃ places : Nat, decimal.exponent = -(places + 1 : Nat) :=
      ⟨(-decimal.exponent - 1).toNat, by omega⟩
    rcases behindPoint with ⟨places, exponent⟩
    have scaled : (decimal.digits : ℚ) = whole * 10 ^ (places + 1) := by
      rw [← value, Decimal.value, exponent, zpow_neg, zpow_natCast]
      field_simp
    have digits : decimal.digits = whole * 10 ^ (places + 1) := by
      exact_mod_cast scaled
    rcases trimmed with zero | lastDigit
    · have none' := plain zero
      omega
    · rw [digits] at lastDigit
      exact absurd (mul_pow_mod_ten whole places) lastDigit
  · rcases Int.eq_ofNat_of_zero_le above with ⟨zeros, exponent⟩
    refine ⟨zeros, exponent, ?_⟩
    rw [Decimal.value, exponent, zpow_natCast] at value
    exact_mod_cast value.symm

theorem decimalDigits_of_zeros
    (exponent : decimal.exponent = zeros)
    (plain : decimal.digits = 0 → decimal.exponent = 0) :
    decimalDigits (decimal.digits * 10 ^ zeros) =
      decimal.digitChars ++ List.replicate zeros '0' := by
  rcases Nat.eq_zero_or_pos decimal.digits with zero | positive
  · have none' : zeros = 0 := by
      have noExponent := plain zero
      omega
    rw [none', Nat.pow_zero, Nat.mul_one, List.replicate_zero, List.append_nil,
      digitChars]
  · exact decimalDigits_mul_pow positive zeros

theorem leadingExponent_of_zeros
    (exponent : decimal.exponent = zeros)
    (plain : decimal.digits = 0 → decimal.exponent = 0) :
    decimal.leadingExponent = floorLog10 (decimal.digits * 10 ^ zeros) := by
  have lead := leadingExponent_add_one decimal
  have length := length_decimalDigits (decimal.digits * 10 ^ zeros)
  rw [decimalDigits_of_zeros exponent plain, List.length_append,
    List.length_replicate] at length
  omega

/-- With the point in place, an integer is written by its digits. -/
theorem positional_of_zeros
    (exponent : decimal.exponent = zeros)
    (plain : decimal.digits = 0 → decimal.exponent = 0) :
    NumberStyle.positional false decimal.digitChars decimal.leadingExponent =
      decimalDigits (decimal.digits * 10 ^ zeros) := by
  have lead := leadingExponent_add_one decimal
  have above : ¬ decimal.leadingExponent < 0 := by
    rw [leadingExponent_of_zeros exponent plain]
    omega
  have short :
      decimal.digitChars.length ≤ decimal.leadingExponent.toNat + 1 := by
    omega
  have padding :
      decimal.leadingExponent.toNat + 1 - decimal.digitChars.length =
        zeros := by
    omega
  rw [NumberStyle.positional, if_neg above]
  simp only
  rw [if_pos short, padding, decimalDigits_of_zeros exponent plain]
  simp

end Decimal

/-- The decimal of a double has no zero at the end of its digits. -/
theorem FiniteDouble.trimmed_shortest (rule : TieRule) (double : FiniteDouble) :
    (double.shortest rule).digits = 0 ∨
      (double.shortest rule).digits % 10 ≠ 0 := by
  unfold shortest
  split_ifs
  · exact Or.inl rfl
  · exact Decimal.trimmed_mod_ten _

/--
A style that sets the point of an integer in place, and does not show an empty
fraction, writes an integer of at most `2 ^ 53` by its digits.
-/
theorem NumberStyle.writeFinite_of_units
    {style : NumberStyle} {double : FiniteDouble} {whole : Nat}
    (units : double.units = whole * unitsPerOne)
    (small : whole ≤ 2 ^ 53)
    (inPlace : style.isPositional (floorLog10 whole) = true)
    (noFraction : style.keepsFraction = false) :
    style.writeFinite double =
      (if double.isNegative then ['-'] else []) ++ decimalDigits whole := by
  have plain :
      (double.shortest style.tie).digits = 0 →
        (double.shortest style.tie).exponent = 0 :=
    FiniteDouble.exponent_shortest
  obtain ⟨zeros, exponent, equal⟩ :=
    Decimal.exists_zeros (double.trimmed_shortest style.tie) plain
      (FiniteDouble.value_shortest_of_units units small)
  have lead := Decimal.leadingExponent_of_zeros exponent plain
  rw [← equal] at lead
  have written := Decimal.positional_of_zeros exponent plain
  rw [← equal] at written
  unfold writeFinite
  simp only
  rw [lead, if_pos inPlace, noFraction, ← lead, ← written]
  rfl

end Criteria
