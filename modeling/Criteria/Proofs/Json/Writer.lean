import Criteria.Json.Writer
import Criteria.Proofs.Json.Equality
import Criteria.Proofs.Number.Style
import Criteria.Proofs.Text.StringLiteral

/-!
# Written values can be told apart

A style is faithful if it writes every number as a numeral of that number's
double and every character as itself or as one of its escapes.  Both styles in
use are.  A text that a faithful style wrote says what it was written for, up
to equality of values, and where it ends: the first character tells the kind,
a numeral goes on as far as it can, a string ends at the first quote that is
not escaped, and the items of an array are followed by a comma or a bracket.
-/

namespace Criteria

namespace StringLiteral

theorem Writes.append
    {firstWritten secondWritten first second : List Char}
    (firstWrites : Writes firstWritten first)
    (secondWrites : Writes secondWritten second) :
    Writes (firstWritten ++ secondWritten) (first ++ second) := by
  induction firstWrites with
  | done => exact secondWrites
  | raw printable noQuote noBackslash _ ih =>
      exact .raw printable noQuote noBackslash ih
  | escape escapes _ ih =>
      rw [List.cons_append, List.cons_append, List.append_assoc]
      exact .escape escapes ih

/--
Written forms of the characters of a string make up a written form of the
string.
-/
theorem Writes.flatMap
    {form : Char → List Char}
    (writes : ∀ character, Writes (form character) [character])
    (characters : List Char) :
    Writes (characters.flatMap form) characters := by
  induction characters with
  | nil => exact .done
  | cons character characters ih => exact (writes character).append ih

theorem Writes.short
    {letter character : Char} (known : (letter, character) ∈ shortEscapes) :
    Writes ['\\', letter] [character] :=
  .escape (.short known) .done

theorem hexValue?_digitChar {digit : Nat} (below : digit < 16) :
    hexValue? (Nat.digitChar digit) = some digit := by
  revert digit
  decide

/-- Padding goes before the digits, so the last digit can be split off. -/
theorem hexDigits_succ {width : Nat} (positive : 0 < width) (code : Nat) :
    hexDigits (width + 1) code =
      hexDigits width (code / 16) ++ [Nat.digitChar (code % 16)] := by
  rcases Nat.lt_or_ge code 16 with below | above
  · rcases Nat.exists_eq_add_of_lt positive with ⟨padding, rfl⟩
    rw [Nat.div_eq_of_lt below, Nat.mod_eq_of_lt below]
    simp only [hexDigits, Nat.toDigits_of_lt_base below, Nat.toDigits_zero,
      List.length_singleton, Nat.zero_add, Nat.add_sub_cancel]
    rw [List.replicate_succ']
  · simp only [hexDigits, Nat.toDigits_of_base_le (by decide : 1 < 16) above,
      List.length_append, List.length_singleton, Nat.add_sub_add_right,
      List.append_assoc]

/-- Four hexadecimal digits spell every number of at most 16 bits. -/
theorem isQuad_hexDigits {code : Nat} (small : code < 0x10000) :
    IsQuad (hexDigits 4 code) code := by
  have first : code / 16 / 16 / 16 < 16 := by omega
  have digits : hexDigits 4 code =
      [Nat.digitChar (code / 16 / 16 / 16), Nat.digitChar (code / 16 / 16 % 16),
        Nat.digitChar (code / 16 % 16), Nat.digitChar (code % 16)] := by
    rw [hexDigits_succ (by decide), hexDigits_succ (by decide),
      hexDigits_succ (by decide), hexDigits, Nat.toDigits_of_lt_base first]
    rfl
  have spelled := IsQuad.digits (hexValue?_digitChar first)
    (hexValue?_digitChar (Nat.mod_lt (code / 16 / 16) (by decide)))
    (hexValue?_digitChar (Nat.mod_lt (code / 16) (by decide)))
    (hexValue?_digitChar (Nat.mod_lt code (by decide)))
  rw [digits]
  convert spelled using 1
  omega

/--
An escape of a code point writes that character, if the code has at most 16
bits.
-/
theorem Writes.codePoint
    {character : Char} (small : character.toNat < 0x10000) :
    Writes (Json.codePointEscape character) [character] := by
  have valid : character.toNat < 0xD800 ∨ 0xE000 ≤ character.toNat := by
    rcases character.valid with low | high
    · exact Or.inl low
    · exact Or.inr (Nat.le_of_lt_succ (Nat.succ_lt_succ high.1))
  have escapes := Escapes.code (isQuad_hexDigits small) valid
  rw [Char.ofNat_toNat] at escapes
  have writes := Writes.escape escapes .done
  rw [List.append_nil] at writes
  exact writes

/--
A character other than the two with a meaning of their own may be escaped or
stay as it is.
-/
theorem Writes.other
    {character : Char} (escaped : Prop) [Decidable escaped]
    (noQuote : character ≠ '\x22') (noBackslash : character ≠ '\\')
    (control : character.toNat < 0x20 → escaped)
    (small : escaped → character.toNat < 0x10000) :
    Writes (if escaped then Json.codePointEscape character else [character])
      [character] := by
  split_ifs with isEscaped
  · exact .codePoint (small isEscaped)
  · refine .raw ?_ noQuote noBackslash .done
    exact Nat.le_of_not_lt fun isControl => isEscaped (control isControl)

end StringLiteral

namespace Json.Style

/--
Every number is written as a numeral of its double, every character in one of
its forms.
-/
structure Faithful (style : Style) : Prop where
  number :
    ∀ number : Number, ∃ numeral : Numeral,
      numeral.WellFormed ∧ numeral.text = style.number number ∧
        numeral.toDouble = number.toDouble
  character : ∀ character, StringLiteral.Writes (style.character character)
    [character]

/-- The decimal text of an integer is a numeral of it. -/
theorem exists_numeral_integerText (value : Int) :
    ∃ numeral : Numeral, numeral.WellFormed ∧ numeral.text = integerText value ∧
      numeral.toDouble = .ofInt value := by
  refine ⟨⟨decide (value < 0), decimalDigits value.natAbs, [], none⟩,
    ⟨decimalDigits_ne_nil _, ?_, ?_, by simp, by simp⟩, ?_, ?_⟩
  · intro digit member
    exact isDigit_of_mem_decimalDigits member
  · exact decimalDigits_of_head?
  · simp [Numeral.text, integerText]
  · rw [Double.ofInt_eq_ofDecimal]
    simp [Numeral.toDouble, Numeral.decimal, Numeral.exponentValue]

theorem canonical_faithful : canonical.Faithful where
  number := by
    intro number
    cases number with
    | integer value inRange => exact exists_numeral_integerText value
    | float value => exact NumberStyle.canonical.exists_numeral value
  character := by
    intro character
    unfold canonical
    simp only
    split
    · exact .short (by decide)
    · exact .short (by decide)
    · exact .short (by decide)
    · exact .short (by decide)
    · exact .short (by decide)
    · rename_i noQuote noBackslash _ _ _
      refine .other _ noQuote noBackslash Or.inl ?_
      rintro (control | marked)
      · omega
      · simp only [List.mem_cons, List.not_mem_nil, or_false] at marked
        rcases marked with rfl | rfl | rfl | rfl | rfl <;> decide

theorem compact_faithful : compact.Faithful where
  number := by
    intro number
    cases number with
    | integer value inRange => exact exists_numeral_integerText value
    | float value => exact NumberStyle.json.exists_numeral value
  character := by
    intro character
    unfold compact
    simp only
    split
    · exact .short (by decide)
    · exact .short (by decide)
    · exact .short (by decide)
    · exact .short (by decide)
    · exact .short (by decide)
    · exact .short (by decide)
    · exact .short (by decide)
    · rename_i noQuote noBackslash _ _ _ _ _
      refine .other _ noQuote noBackslash id ?_
      intro control
      omega

end Json.Style

namespace Json

variable {style : Style} {leftRest rightRest : List Char}

/-! ## Strings and numbers -/

/-- A written string is scanned back, whatever follows it. -/
theorem exists_scan_writeString (faithful : style.Faithful) (text : String)
    (rest : List Char) :
    ∃ width body, writeString style text ++ rest = '\x22' :: body ∧
      StringLiteral.scan body = .ok ⟨text, width, rest⟩ := by
  have writes := StringLiteral.Writes.flatMap faithful.character text.toList
  refine ⟨_, text.toList.flatMap style.character ++ '\x22' :: rest, ?_,
    StringLiteral.scan_eq_ok_iff.mpr ⟨_, writes, rfl, rfl⟩⟩
  simp [writeString]

theorem writeString_append_inj
    (faithful : style.Faithful) {left right : String}
    (equal : writeString style left ++ leftRest = writeString style right ++
      rightRest) :
    left = right ∧ leftRest = rightRest := by
  rcases exists_scan_writeString faithful left leftRest with
      ⟨leftWidth, leftBody, leftSplit, leftScan⟩
  rcases exists_scan_writeString faithful right rightRest with
      ⟨rightWidth, rightBody, rightSplit, rightScan⟩
  rw [leftSplit, rightSplit, List.cons.injEq] at equal
  rw [equal.2, rightScan] at leftScan
  simp only [Except.ok.injEq, Scanned.mk.injEq] at leftScan
  exact ⟨leftScan.1.symm, leftScan.2.2.symm⟩

theorem number_append_inj
    (faithful : style.Faithful) {left right : Number}
    (leftStops : StopsAt Numeral.goesOn leftRest)
    (rightStops : StopsAt Numeral.goesOn rightRest)
    (equal : style.number left ++ leftRest = style.number right ++ rightRest) :
    left.sameValue right = true ∧ leftRest = rightRest := by
  rcases faithful.number left with
      ⟨leftNumeral, leftFormed, leftText, leftDouble⟩
  rcases faithful.number right with
      ⟨rightNumeral, rightFormed, rightText, rightDouble⟩
  have leftRead := Numeral.read?_text_append leftFormed leftStops
  have rightRead := Numeral.read?_text_append rightFormed rightStops
  rw [leftText, equal, ← rightText, rightRead] at leftRead
  simp only [Option.some.injEq, Prod.mk.injEq] at leftRead
  rcases leftRead with ⟨rfl, sameRest⟩
  refine ⟨?_, sameRest.symm⟩
  rw [Number.sameValue, ← leftDouble, ← rightDouble, rightDouble]
  exact Double.sameValue_refl right.toDouble_ne_nan

/-! ## Kinds -/

/-- The kind of a value whose text starts with a character. -/
def kindOfFirst : Char → Option Kind
  | 'n' => some .null
  | 't' | 'f' => some .bool
  | '\x22' => some .string
  | '[' => some .array
  | '\x7b' => some .object
  | other => if other = '-' ∨ other.isDigit then some .number else none

theorem kindOfFirst_of_isDigit {first : Char} (digit : first.isDigit = true) :
    kindOfFirst first = some .number := by
  unfold kindOfFirst
  split
  · cases digit
  · cases digit
  · cases digit
  · cases digit
  · cases digit
  · cases digit
  · exact if_pos (Or.inr digit)

/-- The first character of a written value tells its kind. -/
theorem exists_first_write (faithful : style.Faithful) (value : Json) :
    ∃ first others, value.write style = first :: others ∧
      kindOfFirst first = some value.kind := by
  cases value with
  | null => exact ⟨_, _, rfl, rfl⟩
  | bool value => cases value <;> exact ⟨_, _, rfl, rfl⟩
  | number value =>
      rcases faithful.number value with ⟨numeral, wellFormed, text, _⟩
      rcases List.exists_cons_of_ne_nil wellFormed.nonempty with
          ⟨first, others, split⟩
      have digit :=
        wellFormed.whole first (by rw [split]; exact List.mem_cons_self)
      rw [write, ← text, Numeral.text, split]
      cases numeral.isNegative with
      | true => exact ⟨_, _, rfl, rfl⟩
      | false => exact ⟨_, _, rfl, kindOfFirst_of_isDigit digit⟩
  | string value => exact ⟨_, _, rfl, rfl⟩
  | array items => cases items <;> exact ⟨_, _, rfl, rfl⟩
  | object members =>
      cases members with
      | nil => exact ⟨_, _, rfl, rfl⟩
      | cons member members => exact ⟨_, _, rfl, rfl⟩

theorem kind_eq_of_write_append
    (faithful : style.Faithful) {left right : Json}
    (equal : left.write style ++ leftRest = right.write style ++ rightRest) :
    left.kind = right.kind := by
  rcases exists_first_write faithful left with
      ⟨first, others, leftSplit, leftKind⟩
  rcases exists_first_write faithful right with
      ⟨first', others', rightSplit, rightKind⟩
  rw [leftSplit, rightSplit, List.cons_append, List.cons_append,
    List.cons.injEq] at equal
  rw [equal.1, rightKind] at leftKind
  exact (Option.some.inj leftKind).symm

/--
A value does not start with the character that closes an array or an object.
-/
theorem write_append_ne
    (faithful : style.Faithful) {value : Json} {rest tail : List Char}
    {close : Char}
    (noKind : kindOfFirst close = none) :
    value.write style ++ rest ≠ close :: tail := by
  intro equal
  rcases exists_first_write faithful value with ⟨first, others, split, kind⟩
  rw [split, List.cons_append, List.cons.injEq] at equal
  rw [equal.1, noKind] at kind
  cases kind

/-! ## Values -/

theorem stopsAt_writeItems (items : List Json) (rest : List Char) :
    StopsAt Numeral.goesOn (writeItems style items ++ rest) := by
  cases items with
  | nil => exact stopsAt_cons.mpr (by decide)
  | cons item items => exact stopsAt_cons.mpr (by decide)

theorem stopsAt_writeMembers (members : List (String × Json))
    (rest : List Char) :
    StopsAt Numeral.goesOn (writeMembers style members ++ rest) := by
  cases members with
  | nil => exact stopsAt_cons.mpr (by decide)
  | cons member members => exact stopsAt_cons.mpr (by decide)

/--
An array differs from its items behind a comma in the first character only.
-/
theorem writeItems_eq_of_write
    (faithful : style.Faithful) {lefts rights : List Json}
    (equal :
      (array lefts).write style ++ leftRest = (array rights).write style ++
        rightRest) :
    writeItems style lefts ++ leftRest =
      writeItems style rights ++ rightRest := by
  cases lefts with
  | nil =>
      cases rights with
      | nil => exact (List.cons.inj equal).2
      | cons right rights =>
          simp only [write, List.cons_append, List.append_assoc,
            List.cons.injEq] at equal
          exact absurd equal.2.symm (write_append_ne faithful rfl)
  | cons left lefts =>
      cases rights with
      | nil =>
          simp only [write, List.cons_append, List.append_assoc,
            List.cons.injEq] at equal
          exact absurd equal.2 (write_append_ne faithful rfl)
      | cons right rights => exact congrArg (',' :: ·) (List.cons.inj equal).2

/--
An object differs from its members behind a comma in the first character only.
-/
theorem writeMembers_eq_of_write
    {lefts rights : List (String × Json)}
    (equal :
      (object lefts).write style ++ leftRest = (object rights).write style ++
        rightRest) :
    writeMembers style lefts ++ leftRest =
      writeMembers style rights ++ rightRest := by
  cases lefts with
  | nil =>
      cases rights with
      | nil => exact (List.cons.inj equal).2
      | cons right rights => cases equal
  | cons left lefts =>
      cases rights with
      | nil => cases equal
      | cons right rights => exact congrArg (',' :: ·) (List.cons.inj equal).2

mutual

/--
Texts that start with written values and go on alike were written for equal
values.
-/
theorem write_append_inj
    (faithful : style.Faithful) (left right : Json)
    {leftRest rightRest : List Char}
    (leftStops : StopsAt Numeral.goesOn leftRest)
    (rightStops : StopsAt Numeral.goesOn rightRest)
    (equal : left.write style ++ leftRest = right.write style ++ rightRest) :
    left.deepEqual right = true ∧ leftRest = rightRest := by
  have sameKind := kind_eq_of_write_append faithful equal
  match left with
  | .null =>
      cases right with
      | null => exact ⟨rfl, List.append_cancel_left equal⟩
      | _ => cases sameKind
  | .bool leftValue =>
      cases right with
      | bool rightValue =>
          cases leftValue with
          | true =>
              cases rightValue with
              | true => exact ⟨rfl, List.append_cancel_left equal⟩
              | false => cases equal
          | false =>
              cases rightValue with
              | true => cases equal
              | false => exact ⟨rfl, List.append_cancel_left equal⟩
      | _ => cases sameKind
  | .number leftValue =>
      cases right with
      | number rightValue =>
          exact number_append_inj faithful leftStops rightStops equal
      | _ => cases sameKind
  | .string leftValue =>
      cases right with
      | string rightValue =>
          rcases writeString_append_inj faithful equal with ⟨rfl, sameRest⟩
          exact ⟨deepEqual_refl _, sameRest⟩
      | _ => cases sameKind
  | .array lefts =>
      cases right with
      | array rights =>
          exact writeItems_append_inj faithful lefts rights
            (writeItems_eq_of_write faithful equal)
      | _ => cases sameKind
  | .object lefts =>
      cases right with
      | object rights =>
          exact writeMembers_append_inj faithful lefts rights
            (writeMembers_eq_of_write equal)
      | _ => cases sameKind

theorem writeItems_append_inj
    (faithful : style.Faithful) (lefts rights : List Json)
    {leftRest rightRest : List Char}
    (equal : writeItems style lefts ++ leftRest = writeItems style rights ++
      rightRest) :
    itemsEqual lefts rights = true ∧ leftRest = rightRest := by
  match lefts, rights with
  | [], [] => exact ⟨rfl, List.append_cancel_left equal⟩
  | [], _ :: _ => cases equal
  | _ :: _, [] => cases equal
  | left :: lefts, right :: rights =>
      simp only [writeItems, List.cons_append, List.append_assoc,
        List.cons.injEq, true_and] at equal
      obtain ⟨item, later⟩ := write_append_inj faithful left right
        (stopsAt_writeItems lefts leftRest)
        (stopsAt_writeItems rights rightRest) equal
      rcases writeItems_append_inj faithful lefts rights later with
          ⟨items, sameRest⟩
      refine ⟨?_, sameRest⟩
      rw [itemsEqual, item, items, Bool.and_self]

theorem writeMembers_append_inj
    (faithful : style.Faithful) (lefts rights : List (String × Json))
    {leftRest rightRest : List Char}
    (equal : writeMembers style lefts ++ leftRest = writeMembers style rights ++
      rightRest) :
    membersEqual lefts rights = true ∧ leftRest = rightRest := by
  match lefts, rights with
  | [], [] => exact ⟨rfl, List.append_cancel_left equal⟩
  | [], _ :: _ => cases equal
  | _ :: _, [] => cases equal
  | (leftKey, left) :: lefts, (rightKey, right) :: rights =>
      simp only [writeMembers, List.cons_append, List.append_assoc,
        List.cons.injEq, true_and] at equal
      rcases writeString_append_inj faithful equal with ⟨rfl, behindKey⟩
      obtain ⟨value, later⟩ := write_append_inj faithful left right
        (stopsAt_writeMembers lefts leftRest)
        (stopsAt_writeMembers rights rightRest)
        (List.cons.inj behindKey).2
      rcases writeMembers_append_inj faithful lefts rights later with
          ⟨members, sameRest⟩
      refine ⟨?_, sameRest⟩
      rw [membersEqual, value, members, beq_self_eq_true, Bool.and_self,
        Bool.and_self]

end

/-! ## Control characters -/

theorem printable_of_all
    {text : List Char}
    (all : (text.all fun character => 0x20 ≤ character.toNat) = true) :
    ∀ character ∈ text, 0x20 ≤ character.toNat :=
  fun character member => of_decide_eq_true (List.all_eq_true.mp all character
    member)

theorem writeString_printable (faithful : style.Faithful) (text : String) :
    ∀ character ∈ writeString style text, 0x20 ≤ character.toNat := by
  have writes := StringLiteral.Writes.flatMap faithful.character text.toList
  exact List.forall_mem_cons.mpr ⟨by decide, List.forall_mem_append.mpr
    ⟨writes.printable, List.forall_mem_singleton.mpr (by decide)⟩⟩

mutual

/-- The text of a value is free of control characters. -/
theorem write_printable (faithful : style.Faithful) (value : Json) :
    ∀ character ∈ value.write style, 0x20 ≤ character.toNat := by
  match value with
  | .null => exact printable_of_all rfl
  | .bool true => exact printable_of_all rfl
  | .bool false => exact printable_of_all rfl
  | .number value =>
      rcases faithful.number value with ⟨numeral, wellFormed, text, _⟩
      rw [write, ← text]
      exact fun _ member => (wellFormed.bounds_of_mem_text member).1
  | .string text =>
      rw [write]
      exact writeString_printable faithful text
  | .array items =>
      have inside := writeItems_printable faithful items
      cases items with
      | nil => exact printable_of_all rfl
      | cons item items =>
          exact List.forall_mem_cons.mpr ⟨by decide,
            (List.forall_mem_cons.mp inside).2⟩
  | .object members =>
      have inside := writeMembers_printable faithful members
      cases members with
      | nil => exact printable_of_all rfl
      | cons member members =>
          exact List.forall_mem_cons.mpr ⟨by decide,
            (List.forall_mem_cons.mp inside).2⟩

theorem writeItems_printable (faithful : style.Faithful) (items : List Json) :
    ∀ character ∈ writeItems style items, 0x20 ≤ character.toNat := by
  match items with
  | [] => exact printable_of_all rfl
  | item :: items =>
      rw [writeItems]
      exact List.forall_mem_cons.mpr ⟨by decide, List.forall_mem_append.mpr
        ⟨write_printable faithful item, writeItems_printable faithful items⟩⟩

theorem writeMembers_printable
    (faithful : style.Faithful) (members : List (String × Json)) :
    ∀ character ∈ writeMembers style members, 0x20 ≤ character.toNat := by
  match members with
  | [] => exact printable_of_all rfl
  | (key, value) :: members =>
      rw [writeMembers]
      exact List.forall_mem_cons.mpr ⟨by decide, List.forall_mem_append.mpr
        ⟨writeString_printable faithful key, List.forall_mem_cons.mpr
          ⟨by decide, List.forall_mem_append.mpr
            ⟨write_printable faithful value,
              writeMembers_printable faithful members⟩⟩⟩⟩

end

end Json

end Criteria
