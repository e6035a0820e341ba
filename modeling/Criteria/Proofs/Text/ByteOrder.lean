import Mathlib.Data.String.Basic
import Criteria.Text.Bytes

/-!
# The order of texts

Names are kept in the order of their characters.  That is the order of their
bytes as well: UTF-8 gives a character of a higher code a greater sequence of
bytes, and whatever follows two different characters no longer matters
(`bytesOfText_lt_iff`).
-/

namespace Criteria

/-- The bytes of a text are those of its characters. -/
theorem bytesOfText_eq (text : String) :
    bytesOfText text = text.toList.flatMap String.utf8EncodeChar := by
  conv_lhs => rw [← String.ofList_toList (s := text)]
  exact List.toList_data_toByteArray

/-- Bytes are compared one by one, until two of them differ. -/
theorem ofNat_cons_lt_iff
    {first second : Nat} (isByte : first < 256) (isOther : second < 256)
    {front back : List UInt8} :
    UInt8.ofNat first :: front < UInt8.ofNat second :: back ↔
      first < second ∨ first = second ∧ front < back := by
  rw [List.cons_lt_cons_iff, UInt8.lt_iff_toNat_lt, ← UInt8.toNat_inj,
    UInt8.toNat_ofNat', UInt8.toNat_ofNat', Nat.mod_eq_of_lt isByte,
    Nat.mod_eq_of_lt isOther]

/--
Of two different characters the one with the lower code has the lesser bytes,
whatever follows them.
-/
theorem utf8EncodeChar_append_lt
    {first second : Char} (less : first < second) (front back : List UInt8) :
    String.utf8EncodeChar first ++ front <
      String.utf8EncodeChar second ++ back := by
  have below : first.val.toNat < second.val.toNat := less
  have bounded : second.val.toNat < 0x110000 := by
    rcases second.valid with low | ⟨_, high⟩
    · exact Nat.lt_trans low (by decide)
    · exact high
  unfold String.utf8EncodeChar
  generalize first.val.toNat = code at *
  generalize second.val.toNat = other at *
  have digits (number : Nat) : number / 4096 = number / 64 / 64 ∧
      number / 262144 = number / 64 / 64 / 64 := by
    simp only [Nat.div_div_eq_div_mul, Nat.reduceMul, and_self]
  simp only [digits]
  -- With fewer bytes the leading byte is less; with as many bytes the digits
  -- of the codes to the base 64 are compared from the highest on.
  split_ifs
  all_goals
    simp (disch := omega) only [List.cons_append, List.nil_append,
      ofNat_cons_lt_iff]
    omega

theorem utf8EncodeChar_ne_nil (character : Char) :
    String.utf8EncodeChar character ≠ [] := by
  rw [← List.length_pos_iff, String.length_utf8EncodeChar]
  exact character.utf8Size_pos

theorem bytesOfText_lt_of_lt {first second : String} (less : first < second) :
    bytesOfText first < bytesOfText second := by
  have inOrder : List.Lex (· < ·) first.toList second.toList := less
  rw [bytesOfText_eq, bytesOfText_eq]
  generalize first.toList = front at inOrder
  generalize second.toList = back at inOrder
  induction inOrder with
  | @nil character rest =>
      rcases List.exists_cons_of_ne_nil (utf8EncodeChar_ne_nil character) with
        ⟨byte, bytes, encoded⟩
      rw [List.flatMap_nil, List.flatMap_cons, encoded]
      exact List.nil_lt_cons _ _
  | cons _ ih =>
      rw [List.flatMap_cons, List.flatMap_cons]
      exact List.append_left_lt ih
  | rel lower =>
      rw [List.flatMap_cons, List.flatMap_cons]
      exact utf8EncodeChar_append_lt lower _ _

/-- Texts are in the order of their bytes. -/
theorem bytesOfText_lt_iff {first second : String} :
    bytesOfText first < bytesOfText second ↔ first < second := by
  refine ⟨fun less => ?_, bytesOfText_lt_of_lt⟩
  rcases lt_trichotomy first second with below | same | above
  · exact below
  · subst same
    exact absurd less (List.lt_irrefl _)
  · exact absurd less (List.lt_asymm (bytesOfText_lt_of_lt above))

end Criteria
