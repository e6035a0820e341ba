import Criteria.Evaluation.Context

/-!
# Contexts that are resolved again and again

Resolving a context changes nothing but the memory of what was decoded: a
context that has been resolved is resolved to the same again and stays as it
is.  A text counts as decoded after it was resolved exactly when it decodes at
all, which blank text never does.
-/

namespace Criteria

/-! ## Blank text is no JSON text -/

namespace Json

theorem skipBlanks_of_isBlankText
    {text : List Char} (blank : isBlankText text = true) :
    skipBlanks text = [] ∨
      ∃ first rest, skipBlanks text = first :: rest ∧
        isWhiteSpace first = true := by
  cases left : skipBlanks text with
  | nil => exact Or.inl rfl
  | cons first rest =>
      have suffix : first :: rest <:+ text :=
        left ▸ List.dropWhile_suffix isBlank
      have member : first ∈ text := suffix.subset List.mem_cons_self
      exact Or.inr ⟨first, rest, rfl, List.all_eq_true.mp blank first member⟩

theorem isDigit_of_isWhiteSpace
    {character : Char} (white : isWhiteSpace character = true) :
    character.isDigit = false := by
  cases digit : character.isDigit with
  | false => rfl
  | true =>
      have low : 48 ≤ character.toNat ∧ character.toNat ≤ 57 := by
        simpa [Char.isDigit, UInt32.le_iff_toNat_le] using digit
      simp only [isWhiteSpace, Bool.or_eq_true, Bool.and_eq_true,
        decide_eq_true_eq, beq_iff_eq] at white
      omega

/-- No number starts with white space. -/
theorem read?_of_isWhiteSpace
    {first : Char} (white : isWhiteSpace first = true) (rest : List Char) :
    Numeral.read? (first :: rest) = none := by
  have sign : Numeral.readSign (first :: rest) = (false, first :: rest) := by
    unfold Numeral.readSign
    split
    · rename_i heq
      cases heq
      exact absurd white (by decide)
    · rfl
  have whole : Numeral.readWhole? (first :: rest) = none := by
    unfold Numeral.readWhole?
    split
    · rfl
    · rename_i heq
      cases heq
      exact absurd white (by decide)
    · rename_i heq
      cases heq
      rw [isDigit_of_isWhiteSpace white]
      rfl
  rw [Numeral.read?, sign]
  simp only [whole]
  rfl

theorem readScalar?_of_isWhiteSpace
    {first : Char} (white : isWhiteSpace first = true) (rest : List Char) :
    readScalar? (first :: rest) = none := by
  unfold readScalar?
  split
  case h_5 =>
    rw [read?_of_isWhiteSpace white rest]
    rfl
  -- All other values start with a quote or a letter.
  all_goals
    rename_i starts
    cases starts
    exact absurd white (by decide)

/-- Text of nothing but white space is no JSON text. -/
theorem decode?_of_isBlankText
    {text : String} (blank : isBlankText text.toList = true) :
    decode? text = none := by
  have unread (readText : String → Option Json) :
      readValue? readText deepestNesting text.toList = none := by
    rw [readValue?]
    rcases skipBlanks_of_isBlankText blank with
      left | ⟨first, rest, left, white⟩
    · rw [left]
      rfl
    · rw [left]
      split
      · rename_i heq
        cases heq
        exact absurd white (by decide)
      · rename_i heq
        cases heq
        exact absurd white (by decide)
      · exact readScalar?_of_isWhiteSpace white rest
  rw [decode?, decodeWithin?, unread]

end Json

namespace Context

/-- A resolved context is resolved to the same, and changes no more. -/
theorem resolve_idem (context : Context) :
    context.resolve.2.resolve = context.resolve := by
  rcases context with ⟨source, decoded⟩
  cases source with
  | empty => rfl
  | value found => rfl
  | raw text =>
      cases blank : isBlankText text.toList with
      | true => simp only [resolve, blank, if_true]
      | false =>
          cases decoded with
          | some found => simp [resolve, blank]
          | none =>
              cases decodes : Json.decode? text with
              | none => simp [resolve, blank, decodes]
              | some found => simp [resolve, blank, decodes]

theorem isDecoded_resolve
    {context : Context} (decoded : context.isDecoded = true) :
    context.resolve.2.isDecoded = true := by
  rcases context with ⟨source, memory⟩
  cases source with
  | empty => rfl
  | value => rfl
  | raw text =>
      cases memory with
      | none => cases decoded
      | some value =>
          cases blank : isBlankText text.toList <;>
            simp [resolve, blank, isDecoded]

theorem isDecoded_resolve_raw (text : String) :
    (raw text).resolve.2.isDecoded = true ↔
      isBlankText text.toList = false ∧ (Json.decode? text).isSome = true := by
  cases blank : isBlankText text.toList with
  | true => simp [raw, resolve, blank, isDecoded]
  | false =>
      cases decodes : Json.decode? text <;>
        simp [raw, resolve, blank, decodes, isDecoded]

theorem resolve_raw_of_decode?
    {text : String} {value : Json} (decodes : Json.decode? text = some value) :
    (raw text).resolve.1 = .ok value := by
  cases blank : isBlankText text.toList with
  | true =>
      rw [Json.decode?_of_isBlankText blank] at decodes
      cases decodes
  | false => simp [raw, resolve, blank, decodes]

theorem resolve_raw_of_isBlankText
    {text : String} (blank : isBlankText text.toList = true) :
    (raw text).resolve.1 = .ok .null := by
  simp [raw, resolve, blank]

theorem resolve_raw_of_not_decode?
    {text : String} (filled : isBlankText text.toList = false)
    (fails : Json.decode? text = none) :
    (raw text).resolve.1 = .error .invalidContext := by
  simp [raw, resolve, filled, fails]

end Context

end Criteria
