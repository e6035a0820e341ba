import Criteria.Number.Decimal

/-!
# Decimal digits

The digits of a number spell that number, have no superfluous zero in front,
and are one more than its greatest power of ten.  Zeros at the end of a number
are zeros at the end of its digits.
-/

namespace Criteria

/-! ## Runs of digits -/

theorem digitsValue_eq_ofDigitChars (digits : List Char) :
    digitsValue digits = Nat.ofDigitChars 10 digits 0 :=
  Nat.ofDigitChars_eq_foldl.symm

theorem digitsValue_append (front back : List Char) :
    digitsValue (front ++ back) =
      digitsValue front * 10 ^ back.length + digitsValue back := by
  rw [digitsValue_eq_ofDigitChars, Nat.ofDigitChars_append,
    Nat.ofDigitChars_eq_ofDigitChars_zero, ← digitsValue_eq_ofDigitChars,
    ← digitsValue_eq_ofDigitChars, Nat.mul_comm]

@[simp]
theorem digitsValue_replicate_zero (count : Nat) :
    digitsValue (List.replicate count '0') = 0 := by
  rw [digitsValue_eq_ofDigitChars, Nat.ofDigitChars_replicate_zero,
    Nat.mul_zero]

@[simp]
theorem digitsValue_decimalDigits (number : Nat) :
    digitsValue (decimalDigits number) = number := by
  rw [digitsValue_eq_ofDigitChars]
  exact Nat.ofDigitChars_ten_toDigits

theorem isDigit_of_mem_decimalDigits
    {number : Nat} {digit : Char} (member : digit ∈ decimalDigits number) :
    digit.isDigit = true :=
  Nat.isDigit_of_mem_toDigits (by decide) (by decide) member

theorem decimalDigits_ne_nil (number : Nat) : decimalDigits number ≠ [] :=
  Nat.toDigits_ne_nil

theorem decimalDigits_of_lt_ten {number : Nat} (below : number < 10) :
    decimalDigits number = [Nat.digitChar number] :=
  Nat.toDigits_of_lt_base below

theorem decimalDigits_of_ten_le {number : Nat} (above : 10 ≤ number) :
    decimalDigits number =
      decimalDigits (number / 10) ++ [Nat.digitChar (number % 10)] :=
  Nat.toDigits_of_base_le (by decide) above

/-- Only the digits of zero begin with a zero. -/
theorem head?_decimalDigits_ne_zero
    {number : Nat} (nonzero : number ≠ 0) :
    (decimalDigits number).head? ≠ some '0' := by
  induction number using Nat.strongRecOn with
  | ind number ih =>
      rcases Nat.lt_or_ge number 10 with below | above
      · rw [decimalDigits_of_lt_ten below]
        simpa using nonzero
      · rw [decimalDigits_of_ten_le above]
        have shorter := ih (number / 10) (by omega) (by omega)
        cases front : decimalDigits (number / 10) with
        | nil => exact absurd front (decimalDigits_ne_nil _)
        | cons first rest =>
            rw [front] at shorter
            simpa using shorter

/-- Digits that start with a zero are that zero. -/
theorem decimalDigits_of_head?
    {number : Nat} (leading : (decimalDigits number).head? = some '0') :
    decimalDigits number = ['0'] := by
  have zero : number = 0 :=
    Decidable.byContradiction fun nonzero =>
      head?_decimalDigits_ne_zero nonzero leading
  rw [zero]
  rfl

/-! ## Powers of ten -/

theorem floorLog10_of_lt_ten {number : Nat} (below : number < 10) :
    floorLog10 number = 0 := by
  rw [floorLog10, if_pos below]

theorem floorLog10_of_ten_le {number : Nat} (above : 10 ≤ number) :
    floorLog10 number = floorLog10 (number / 10) + 1 := by
  rw [floorLog10, if_neg (Nat.not_lt.mpr above)]

theorem length_decimalDigits (number : Nat) :
    (decimalDigits number).length = floorLog10 number + 1 := by
  induction number using Nat.strongRecOn with
  | ind number ih =>
      rcases Nat.lt_or_ge number 10 with below | above
      · rw [decimalDigits_of_lt_ten below, floorLog10_of_lt_ten below]
        rfl
      · rw [decimalDigits_of_ten_le above, floorLog10_of_ten_le above,
          List.length_append, ih (number / 10) (by omega),
          List.length_singleton]

/-- A number below a power of ten has a smaller greatest power of ten. -/
theorem floorLog10_lt
    {number exponent : Nat} (positive : 0 < exponent)
    (below : number < 10 ^ exponent) :
    floorLog10 number < exponent := by
  have bounded :=
    (Nat.length_toDigits_le_iff (b := 10) (by decide) positive).mpr below
  have length := length_decimalDigits number
  unfold decimalDigits at length
  omega

theorem ten_le_mul_pow
    {number : Nat} (positive : 0 < number) (zeros : Nat) :
    10 ≤ number * 10 ^ (zeros + 1) := by
  have power : 0 < number * 10 ^ zeros :=
    Nat.mul_pos positive (Nat.pow_pos (by decide))
  have split : number * 10 ^ (zeros + 1) = number * 10 ^ zeros * 10 := by
    rw [Nat.pow_succ, Nat.mul_assoc]
  omega

theorem mul_pow_div_ten (number zeros : Nat) :
    number * 10 ^ (zeros + 1) / 10 = number * 10 ^ zeros := by
  rw [Nat.pow_succ, ← Nat.mul_assoc, Nat.mul_div_cancel _ (by decide)]

theorem mul_pow_mod_ten (number zeros : Nat) :
    number * 10 ^ (zeros + 1) % 10 = 0 := by
  rw [Nat.pow_succ, ← Nat.mul_assoc, Nat.mul_mod_left]

/-- Zeros at the end of a number are zeros at the end of its digits. -/
theorem decimalDigits_mul_pow
    {number : Nat} (positive : 0 < number) (zeros : Nat) :
    decimalDigits (number * 10 ^ zeros) =
      decimalDigits number ++ List.replicate zeros '0' := by
  induction zeros with
  | zero => simp
  | succ zeros ih =>
      rw [decimalDigits_of_ten_le (ten_le_mul_pow positive zeros),
        mul_pow_div_ten, mul_pow_mod_ten, ih, List.append_assoc,
        List.replicate_succ']
      rfl

end Criteria
