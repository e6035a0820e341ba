import Mathlib.Data.String.Basic
import Criteria.Proofs.Text.Length

/-!
# Parts of a text by their offsets

An offset counts bytes from the beginning of a text.  It is a boundary if no
character lies across it; the offsets behind the first characters of a text are
its boundaries, and what stands between two of them is a slice of the text.
-/

namespace Criteria

/-- No character of a text lies across an offset. -/
def IsBoundary (text : String) (offset : Nat) : Prop :=
  String.Pos.Raw.IsValid text ⟨offset⟩

/-- The part of a text from one offset to another. -/
def slice (text : String) (start stop : Nat) : String :=
  String.Pos.Raw.extract text ⟨start⟩ ⟨stop⟩

theorem byteLength_eq_utf8Len (text : List Char) :
    byteLength text = String.utf8Len text := by
  induction text with
  | nil => rfl
  | cons character text ih =>
      rw [byteLength_cons, String.utf8Len_cons, ih, Nat.add_comm]

theorem byteLength_toList (text : String) :
    byteLength text.toList = text.utf8ByteSize := by
  rw [byteLength_eq_utf8Len, ← String.utf8ByteSize_ofList, String.ofList_toList]

variable {text : String} {front middle back : List Char} {start stop : Nat}

/-- The front part of a text ends at a boundary. -/
theorem isBoundary_of_split
    (split : text.toList = front ++ back) (reached : start = byteLength front) :
    IsBoundary text start := by
  refine String.Pos.Raw.isValid_iff_exists_append.mpr
    ⟨String.ofList front, String.ofList back, ?_, ?_⟩
  · rw [← String.ofList_append, ← split, String.ofList_toList]
  · rw [String.rawEndPos_ofList, reached, byteLength_eq_utf8Len]

/-- The middle part of a text is the slice between its ends. -/
theorem slice_eq
    (split : text.toList = front ++ (middle ++ back))
    (reached : start = byteLength front)
    (ended : stop = start + byteLength middle) :
    slice text start stop = String.ofList middle := by
  have whole : text = String.ofList (front ++ middle ++ back) := by
    rw [List.append_assoc, ← split, String.ofList_toList]
  rw [slice, ended, reached, whole, byteLength_eq_utf8Len,
    byteLength_eq_utf8Len]
  exact String.extract_of_valid front middle back

theorem toList_slice
    (split : text.toList = front ++ (middle ++ back))
    (reached : start = byteLength front)
    (ended : stop = start + byteLength middle) :
    (slice text start stop).toList = middle := by
  rw [slice_eq split reached ended, String.toList_ofList]

/-- A character of a text starts at a boundary in front of the end. -/
theorem isBoundary_of_character {character : Char}
    (split : text.toList = front ++ character :: back)
    (reached : start = byteLength front) :
    IsBoundary text start ∧ start < text.utf8ByteSize := by
  refine ⟨isBoundary_of_split split reached, ?_⟩
  have size := character.utf8Size_pos
  rw [← byteLength_toList, split, byteLength_append, byteLength_cons]
  omega

end Criteria
