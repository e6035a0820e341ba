import Mathlib.Data.List.TakeWhile
import Criteria.Json.Skim
import Criteria.Proofs.Number.Numeral

/-!
# Where a value ends

A skim over bytes finds the end of a value from that value alone.  The bytes
that it takes are skimmed whole when they stand by themselves (`IsValue`), and
again in front of any bytes that no number goes on with.  So the boundaries
inside a message, where a mark or a blank stands behind every value, do not
depend on what follows the message.
-/

namespace Criteria

/-! ## Blanks and marks -/

/-- Bytes that are blanks. -/
def AreBlank (bytes : List UInt8) : Prop :=
  ∀ byte ∈ bytes, isBlank (byteMark byte) = true

theorem skipBlankBytes_append
    {blanks : List UInt8} (blank : AreBlank blanks) (rest : List UInt8) :
    skipBlankBytes (blanks ++ rest) = skipBlankBytes rest :=
  List.dropWhile_append_of_pos blank

theorem skipBlankBytes_cons
    {byte : UInt8} (visible : isBlank (byteMark byte) = false)
    (rest : List UInt8) :
    skipBlankBytes (byte :: rest) = byte :: rest := by
  rw [skipBlankBytes, List.dropWhile_cons_of_neg]
  simp [visible]

/-- What is skipped are blanks, and no blank is left in front. -/
theorem exists_blanks (bytes : List UInt8) :
    ∃ blanks, AreBlank blanks ∧ bytes = blanks ++ skipBlankBytes bytes :=
  ⟨bytes.takeWhile fun byte => isBlank (byteMark byte),
    List.all_eq_true.mp List.all_takeWhile,
    List.takeWhile_append_dropWhile.symm⟩

theorem isBlank_of_skipBlankBytes
    {bytes rest : List UInt8} {byte : UInt8}
    (left : skipBlankBytes bytes = byte :: rest) :
    isBlank (byteMark byte) = false := by
  have found :=
    List.head?_dropWhile_not (fun byte => isBlank (byteMark byte)) bytes
  rw [← skipBlankBytes, left] at found
  simpa using found

/-- A mark and the blanks in front of it. -/
inductive IsMark (mark : Char) : List UInt8 → Prop where
  | behind {blanks : List UInt8} {byte : UInt8}
      (blank : AreBlank blanks) (isMark : byteMark byte = mark) :
      IsMark mark (blanks ++ [byte])

section Marks

variable {mark : Char} {front bytes rest : List UInt8}

theorem IsMark.length_pos (isMark : IsMark mark front) : 0 < front.length := by
  cases isMark
  simp

/-- Behind its blanks, a mark is the first byte. -/
theorem IsMark.skipBlankBytes_append
    (isMark : IsMark mark front) (visible : isBlank mark = false)
    (rest : List UInt8) :
    ∃ byte, byteMark byte = mark ∧
      skipBlankBytes (front ++ rest) = byte :: rest := by
  cases isMark with
  | behind blank isMark =>
      rename_i blanks byte
      refine ⟨byte, isMark, ?_⟩
      rw [List.append_assoc, Criteria.skipBlankBytes_append blank]
      exact skipBlankBytes_cons (isMark ▸ visible) rest

theorem IsMark.skipMark?_append
    (isMark : IsMark mark front) (visible : isBlank mark = false)
    (rest : List UInt8) :
    skipMark? mark (front ++ rest) = some rest := by
  rcases isMark.skipBlankBytes_append visible rest with ⟨byte, isByte, left⟩
  rw [skipMark?, left]
  exact if_pos isByte

theorem exists_isMark_of_skipMark?
    (skipped : skipMark? mark bytes = some rest) :
    ∃ front, IsMark mark front ∧ bytes = front ++ rest := by
  rcases exists_blanks bytes with ⟨blanks, blank, split⟩
  unfold skipMark? at skipped
  split at skipped
  · rename_i byte later left
    split at skipped
    · rename_i isMark
      simp only [Option.some.injEq] at skipped
      subst skipped
      refine ⟨blanks ++ [byte], .behind blank isMark, ?_⟩
      rw [split, left]
      simp
    · cases skipped
  · cases skipped

/-- In front of one mark no other is found. -/
theorem IsMark.skipMark?_of_ne
    {other : Char} (isMark : IsMark mark front)
    (visible : isBlank mark = false) (differs : mark ≠ other)
    (rest : List UInt8) :
    skipMark? other (front ++ rest) = none := by
  rcases isMark.skipBlankBytes_append visible rest with ⟨byte, isByte, left⟩
  rw [skipMark?, left]
  exact if_neg (isByte ▸ differs)

theorem goesOn_of_isBlank
    {character : Char} (blank : isBlank character = true) :
    Numeral.goesOn character = false := by
  simp only [isBlank, Bool.or_eq_true, beq_iff_eq] at blank
  rcases blank with ((rfl | rfl) | rfl) | rfl <;> decide

/-- No number goes on with a mark, nor with blanks in front of one. -/
theorem IsMark.stopsAt
    (isMark : IsMark mark front) (outside : Numeral.goesOn mark = false)
    (rest : List UInt8) :
    StopsAt Numeral.goesOn ((front ++ rest).map byteMark) := by
  cases isMark with
  | behind blank isMark =>
      rename_i blanks byte
      cases blanks with
      | nil => exact stopsAt_cons.mpr (isMark ▸ outside)
      | cons first others =>
          have isBlank := blank first List.mem_cons_self
          exact stopsAt_cons.mpr (goesOn_of_isBlank isBlank)

end Marks

namespace Json

/-! ## Steps -/

/--
A value inside no container does not wait for what comes next: it would have
been given back.
-/
def Skim.Settled (skim : Skim) : Prop :=
  skim.place = .separator → skim.containers ≠ []

/--
A step goes on with a settled skim only, and finds the value ended before its
byte only under a condition.
-/
def SkimStep.Settles (ended : Prop) : SkimStep → Prop
  | .onward next => next.Settled
  | .passed => ended
  | .finished | .fault => True

namespace Skim

variable {ended : Prop} {containers : List Container} {mark : Char}

theorem settles_onward
    {place : SkimPlace} (inside : place ≠ .separator) :
    (SkimStep.onward ⟨place, containers⟩).Settles ended :=
  fun separates => absurd separates inside

theorem settles_endValue : (endValue containers).Settles ended := by
  cases containers with
  | nil => trivial
  | cons container outer => exact fun _ => List.cons_ne_nil container outer

/--
A byte that is looked for leads to a place, any other one to another step.
-/
theorem settles_onward_or
    {condition : Prop} [Decidable condition] {place : SkimPlace}
    (inside : place ≠ .separator) {step : SkimStep}
    (settles : step.Settles ended) :
    (if condition then .onward ⟨place, containers⟩
      else step).Settles ended := by
  split
  · exact settles_onward inside
  · exact settles

theorem settles_endValue_or
    {condition : Prop} [Decidable condition] {step : SkimStep}
    (settles : step.Settles ended) :
    (if condition then endValue containers else step).Settles ended := by
  split
  · exact settles_endValue
  · exact settles

theorem settles_fault_or
    {condition : Prop} [Decidable condition] {step : SkimStep}
    (settles : step.Settles ended) :
    (if condition then .fault else step).Settles ended := by
  split
  · trivial
  · exact settles

theorem settles_beginValue : (beginValue containers mark).Settles ended := by
  unfold beginValue
  split
  case h_9 => exact settles_onward_or (by decide) trivial
  all_goals exact settles_onward (by simp)

theorem settles_behindValue (outermost : containers = [] → ended) :
    (behindValue containers mark).Settles ended := by
  unfold behindValue
  split
  · exact outermost rfl
  · rename_i container outer
    split
    · exact fun _ => List.cons_ne_nil container outer
    · split
      · exact settles_onward (by decide)
      · exact settles_onward (by decide)
      · exact settles_endValue
      · exact settles_endValue
      · trivial

theorem settles_behindDigits
    {hasFraction : Bool} (outermost : containers = [] → ended) :
    (behindDigits containers hasFraction mark).Settles ended := by
  have behind : (behindValue containers mark).Settles ended :=
    settles_behindValue outermost
  exact settles_onward_or (by decide) (settles_onward_or (by decide) behind)

theorem settles_insideText {isKey : Bool} :
    (insideText containers isKey mark).Settles ended := by
  unfold insideText
  split
  · exact settles_onward_or (by decide) settles_endValue
  · exact settles_onward (by simp)
  · exact settles_fault_or (settles_onward (by simp))

theorem settles_insideEscape {isKey : Bool} :
    (insideEscape containers isKey mark).Settles ended :=
  settles_onward_or (by simp) (settles_onward_or (by simp) trivial)

theorem settles_needDigit {place : SkimPlace} (inside : place ≠ .separator) :
    (needDigit containers place mark).Settles ended :=
  settles_onward_or inside trivial

theorem settles_unlessBlank
    {skim : Skim} {step : SkimStep} (inside : skim.place ≠ .separator)
    (settles : step.Settles ended) :
    (skim.unlessBlank mark step).Settles ended :=
  settles_onward_or inside settles

theorem settles_wordStep {missing : List Char} :
    (step ⟨.word missing, containers⟩ mark).Settles ended := by
  match missing with
  | [] => trivial
  | [last] => exact settles_endValue_or trivial
  | next :: other :: later => exact settles_onward_or (by simp) trivial

/-- A settled skim passes a byte only where the bytes might have ended. -/
theorem settles_step {skim : Skim} (settled : skim.Settled) (mark : Char) :
    (skim.step mark).Settles (skim.mayEnd = true) := by
  rcases skim with ⟨place, containers⟩
  -- Behind a number it depends on the containers whether the bytes may end.
  have ends (number : place ∈ [.zero, .whole, .fraction, .exponent])
      (outermost : containers = []) :
      mayEnd ⟨place, containers⟩ = true := by
    simp only [mayEnd, outermost, List.isEmpty_nil, number, decide_true,
      Bool.and_self]
  cases place with
  | value => exact settles_unlessBlank (by simp) settles_beginValue
  | firstItem =>
      exact settles_unlessBlank (by simp)
        (settles_endValue_or settles_beginValue)
  | firstKey =>
      refine settles_unlessBlank (by simp) (settles_endValue_or ?_)
      exact settles_onward_or (by simp) trivial
  | key =>
      exact settles_unlessBlank (by simp) (settles_onward_or (by simp) trivial)
  | colon =>
      exact settles_unlessBlank (by simp) (settles_onward_or (by simp) trivial)
  | separator =>
      exact settles_behindValue fun outermost =>
        absurd outermost (settled rfl)
  | text isKey => exact settles_insideText
  | escape isKey => exact settles_insideEscape
  | codePoint isKey missing =>
      refine settles_fault_or (settles_onward_or (by simp) ?_)
      exact settles_onward (by simp)
  | word missing => exact settles_wordStep
  | sign => exact settles_onward_or (by simp) (settles_needDigit (by simp))
  | zero => exact settles_fault_or (settles_behindDigits (ends (by simp)))
  | whole =>
      exact settles_onward_or (by simp) (settles_behindDigits (ends (by simp)))
  | point => exact settles_needDigit (by simp)
  | fraction =>
      exact settles_onward_or (by simp) (settles_behindDigits (ends (by simp)))
  | exponentMark =>
      exact settles_onward_or (by simp) (settles_needDigit (by simp))
  | exponentSign => exact settles_needDigit (by simp)
  | exponent =>
      exact settles_onward_or (by simp) (settles_behindValue (ends (by simp)))

/--
A number that may end does so before every byte that it cannot go on with.
-/
theorem step_of_mayEnd
    {skim : Skim} (mayEnd : skim.mayEnd = true)
    (stops : Numeral.goesOn mark = false) :
    skim.step mark = .passed := by
  rcases skim with ⟨place, containers⟩
  simp only [Skim.mayEnd, Bool.and_eq_true, List.isEmpty_iff,
    decide_eq_true_eq, List.mem_cons, List.not_mem_nil, or_false] at mayEnd
  simp only [Numeral.goesOn, Bool.or_eq_false_iff, beq_eq_false_iff_ne] at stops
  rcases stops with ⟨⟨⟨noDigit, noPoint⟩, noSmall⟩, noLarge⟩
  rcases mayEnd with ⟨rfl, rfl | rfl | rfl | rfl⟩ <;>
    simp [step, behindDigits, behindValue, noDigit, noPoint, noSmall, noLarge]

/-! ## Runs -/

/--
The bytes that a run takes are taken again when nothing follows them, since the
run ends with their last byte or before a byte that it may end before.
-/
theorem exists_taken_of_goOn
    {skim : Skim} {taken bytes raw rest : List UInt8} (settled : skim.Settled)
    (skimmed : skim.goOn taken bytes = some (raw, rest)) :
    ∃ used, bytes = used ++ rest ∧ skim.goOn taken used = some (raw, []) := by
  induction bytes generalizing skim taken with
  | nil =>
      unfold goOn at skimmed
      split at skimmed
      · rename_i mayEnd
        simp only [Option.some.injEq, Prod.mk.injEq] at skimmed
        obtain ⟨rfl, rfl⟩ := skimmed
        exact ⟨[], rfl, by rw [goOn, if_pos mayEnd]⟩
      · cases skimmed
  | cons byte later ih =>
      have settles := settles_step settled (byteMark byte)
      unfold goOn at skimmed
      split at skimmed
      · rename_i next stepped
        rw [stepped] at settles
        rcases ih settles skimmed with ⟨used, rfl, again⟩
        exact ⟨byte :: used, rfl, by rw [goOn, stepped]; exact again⟩
      · rename_i stepped
        simp only [Option.some.injEq, Prod.mk.injEq] at skimmed
        obtain ⟨rfl, rfl⟩ := skimmed
        exact ⟨[byte], rfl, by rw [goOn, stepped]⟩
      · rename_i stepped
        rw [stepped] at settles
        have mayEnd : skim.mayEnd = true := settles
        simp only [Option.some.injEq, Prod.mk.injEq] at skimmed
        obtain ⟨rfl, rfl⟩ := skimmed
        exact ⟨[], rfl, by rw [goOn, if_pos mayEnd]⟩
      · cases skimmed

/-- A run that takes all there is takes the same in front of more bytes. -/
theorem goOn_append_of_stops
    {skim : Skim} {taken used raw rest : List UInt8}
    (skimmed : skim.goOn taken used = some (raw, []))
    (stops : StopsAt Numeral.goesOn (rest.map byteMark)) :
    skim.goOn taken (used ++ rest) = some (raw, rest) := by
  induction used generalizing skim taken with
  | nil =>
      unfold goOn at skimmed
      split at skimmed
      · rename_i mayEnd
        simp only [Option.some.injEq, Prod.mk.injEq, and_true] at skimmed
        subst skimmed
        cases rest with
        | nil => rw [List.nil_append, goOn, if_pos mayEnd]
        | cons byte later =>
            have passed := step_of_mayEnd mayEnd (stopsAt_cons.mp stops)
            rw [List.nil_append, goOn, passed]
      · cases skimmed
  | cons byte later ih =>
      rw [List.cons_append]
      unfold goOn at skimmed ⊢
      split at skimmed
      · exact ih skimmed
      · simp only [Option.some.injEq, Prod.mk.injEq] at skimmed
        obtain ⟨rfl, rfl⟩ := skimmed
        rfl
      · simp at skimmed
      · cases skimmed

end Skim

/-! ## Values among bytes -/

/-- The bytes of one value, without blanks around it. -/
def IsValue (raw : List UInt8) : Prop :=
  skim? raw = some (raw, [])

/-- The bytes of a value and the blanks in front of it. -/
inductive IsRaw (raw : List UInt8) : List UInt8 → Prop where
  | behind {blanks : List UInt8} (blank : AreBlank blanks)
      (isValue : IsValue raw) :
      IsRaw raw (blanks ++ raw)

/-- A value starts with a byte that is no blank and that values start with. -/
theorem IsValue.exists_cons {raw : List UInt8} (isValue : IsValue raw) :
    ∃ byte later, raw = byte :: later ∧ isBlank (byteMark byte) = false ∧
      Skim.beginValue [] (byteMark byte) ≠ .fault := by
  have split := skim?_append isValue
  rw [List.append_nil] at split
  have skimmed : Skim.start.goOn [] raw = some (raw, []) := by
    rw [IsValue, skim?, ← split] at isValue
    exact isValue
  cases raw with
  | nil => cases skimmed
  | cons byte later =>
      have visible := isBlank_of_skipBlankBytes split.symm
      refine ⟨byte, later, rfl, visible, fun fault => ?_⟩
      have stepped : Skim.start.step (byteMark byte) = .fault := by
        simp [Skim.start, Skim.step, Skim.unlessBlank, visible, fault]
      rw [Skim.goOn, stepped] at skimmed
      cases skimmed

/-- A skim takes the bytes of one value, behind blanks. -/
theorem exists_isRaw_of_skim?
    {bytes raw rest : List UInt8} (skimmed : skim? bytes = some (raw, rest)) :
    ∃ front, IsRaw raw front ∧ bytes = front ++ rest := by
  rcases exists_blanks bytes with ⟨blanks, blank, split⟩
  have visible := skim?_append skimmed
  rcases Skim.exists_taken_of_goOn (by simp [Skim.Settled, Skim.start]) skimmed
    with ⟨used, taken, again⟩
  have same : used = raw :=
    List.append_cancel_right (taken.symm.trans visible.symm)
  subst same
  refine ⟨blanks ++ used, .behind blank ?_, ?_⟩
  · cases used with
    | nil => cases again
    | cons byte later =>
        rw [IsValue, skim?,
          skipBlankBytes_cons (isBlank_of_skipBlankBytes taken)]
        exact again
  · rw [split, taken, List.append_assoc]

/-- A value is skimmed whatever follows, unless a number goes on there. -/
theorem IsRaw.skim?_append
    {raw front rest : List UInt8} (isRaw : IsRaw raw front)
    (stops : StopsAt Numeral.goesOn (rest.map byteMark)) :
    skim? (front ++ rest) = some (raw, rest) := by
  cases isRaw with
  | behind blank isValue =>
      rcases isValue.exists_cons with ⟨byte, later, rfl, visible, _⟩
      rw [IsValue, skim?, skipBlankBytes_cons visible] at isValue
      rw [skim?, List.append_assoc, skipBlankBytes_append blank,
        List.cons_append, skipBlankBytes_cons visible, ← List.cons_append]
      exact Skim.goOn_append_of_stops isValue stops

end Json

end Criteria
