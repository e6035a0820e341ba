/-!
# Length in bytes

Offsets and widths count the bytes of a text in UTF-8.  The length of a text
is the sum over its characters, so it adds up over the parts of a text; a text
of ASCII characters has as many bytes as characters.
-/

namespace Criteria

/-- The number of bytes of a text in UTF-8. -/
def byteLength : List Char → Nat
  | [] => 0
  | character :: text => character.utf8Size + byteLength text

@[simp]
theorem byteLength_nil : byteLength [] = 0 := rfl

@[simp]
theorem byteLength_cons (character : Char) (text : List Char) :
    byteLength (character :: text) = character.utf8Size + byteLength text := rfl

@[simp]
theorem byteLength_append (front back : List Char) :
    byteLength (front ++ back) = byteLength front + byteLength back := by
  induction front with
  | nil => rw [List.nil_append, byteLength_nil, Nat.zero_add]
  | cons character front ih =>
      rw [List.cons_append, byteLength_cons, byteLength_cons, ih, Nat.add_assoc]

/-- A character of the ASCII range takes one byte. -/
theorem utf8Size_of_lt {character : Char} (ascii : character.toNat < 128) :
    character.utf8Size = 1 := by
  have small : character.val ≤ 0x7F := by
    rw [UInt32.le_iff_toNat_le]
    exact Nat.le_of_lt_succ ascii
  exact if_pos small

theorem byteLength_of_ascii
    {text : List Char} (ascii : ∀ character ∈ text, character.toNat < 128) :
    byteLength text = text.length := by
  induction text with
  | nil => rfl
  | cons character text ih =>
      have later :=
        ih fun other member => ascii other (List.mem_cons_of_mem _ member)
      rw [byteLength_cons, utf8Size_of_lt (ascii character List.mem_cons_self),
        later, List.length_cons, Nat.add_comm]

end Criteria
