import Criteria.Proofs.Evaluation.Bindings
import Criteria.Proofs.Evaluation.Representation
import Criteria.Proofs.Json.NumberValue

/-!
# Paths act on values

A path leads into a value segment by segment, so a path made of two does first
what the first does and then, from where that has led, what the second does.
Of the three ways in which a segment may turn out only one goes on: what is
missing stays missing whatever follows, and a segment that does not fit the
value it meets is an error before anything that follows is seen.  Everything
that a value holds is found where it stands, by its keys and positions; and a
number picks the item at a position exactly if its double has that value.
-/

namespace Criteria

/-! ## Numbers as positions -/

/-- A number stands for a position if its double has that value. -/
theorem Number.position?_eq_some_iff {number : Number} {position : Nat} :
    number.position? = some position ↔ number.doubleValue = position := by
  rcases number.exists_toDouble_eq_finite with ⟨double, isDouble⟩
  have one := unitsPerOne_pos
  have value : number.doubleValue = position ↔
      double.signedUnits = position * unitsPerOne := by
    rw [doubleValue_of_toDouble isDouble]
    exact_mod_cast @FiniteDouble.signedValue_eq_intCast_iff double position
  rw [value, position?, isDouble]
  simp only [Bool.and_eq_true, decide_eq_true_eq, Option.ite_none_right_eq_some,
    Option.some.injEq]
  constructor
  · rintro ⟨⟨integral, notNegative⟩, rfl⟩
    have whole : double.wholePart * unitsPerOne = double.units :=
      Nat.div_mul_cancel (Nat.dvd_of_mod_eq_zero (beq_iff_eq.mp integral))
    rw [← Int.natCast_mul, whole, double.units_eq_natAbs,
      Int.natAbs_of_nonneg notNegative]
  · intro units
    have magnitude : double.units = position * unitsPerOne := by
      rw [double.units_eq_natAbs, units, ← Int.natCast_mul, Int.natAbs_natCast]
    refine ⟨⟨?_, ?_⟩, ?_⟩
    · rw [FiniteDouble.isIntegral, magnitude, Nat.mul_mod_left]
      rfl
    · rw [units]
      exact Int.natCast_nonneg _
    · rw [FiniteDouble.wholePart, magnitude, Nat.mul_div_cancel _ one]

namespace Json

/-! ## Segments one after the other -/

section

variable {root : Json} {segment : Json} {path : List Json}

theorem walk_cons_of_some
    {next : Json} (step : root.descend segment = .ok (some next)) :
    root.walk (segment :: path) = next.walk path := by
  rw [walk, step]
  rfl

theorem walk_cons_of_none (step : root.descend segment = .ok none) :
    root.walk (segment :: path) = .ok none := by
  rw [walk, step]
  rfl

theorem walk_cons_of_error
    {error : ConditionError} (step : root.descend segment = .error error) :
    root.walk (segment :: path) = .error error := by
  rw [walk, step]
  rfl

theorem descend_number (items : List Json) (number : Number) :
    (array items).descend (.number number) =
      .ok (number.position?.bind fun position => items[position]?) := rfl

theorem walk_number (items : List Json) (number : Number) :
    (array items).walk [.number number] =
      .ok (number.position?.bind fun position => items[position]?) := by
  cases found : number.position?.bind fun position => items[position]? with
  | none => exact walk_cons_of_none (found ▸ descend_number items number)
  | some => exact walk_cons_of_some (found ▸ descend_number items number)

/-- A path of two goes on from where the first has led, if it leads anywhere. -/
theorem walk_append (root : Json) (first second : List Json) :
    root.walk (first ++ second) =
      match root.walk first with
      | .ok (some found) => found.walk second
      | .ok none => .ok none
      | .error error => .error error := by
  induction first generalizing root with
  | nil => rfl
  | cons segment first ih =>
      rw [List.cons_append]
      rcases step : root.descend segment with error | none | next
      · rw [walk_cons_of_error step, walk_cons_of_error step]
      · rw [walk_cons_of_none step, walk_cons_of_none step]
      · rw [walk_cons_of_some step, walk_cons_of_some step, ih]

end

/-! ## Where values stand -/

/-- A step from a value to one that it holds. -/
inductive Step where
  /-- To the value of a member. -/
  | key (name : String)
  /-- To an item. -/
  | position (index : Nat)

/-- The segment that spells a step: a position is the number of its literal. -/
def Step.segment : Step → Json
  | .key name => .string name
  | .position index => (Double.ofInt index).toJson

/-- A value stands somewhere within another, so many steps down. -/
inductive Holds : Json → List Step → Json → Prop where
  | here (value : Json) : Holds value [] value
  | member {members : List (String × Json)} {key : String} {value inner : Json}
      {steps : List Step} (stands : (key, value) ∈ members)
      (rest : Holds value steps inner) :
      Holds (.object members) (.key key :: steps) inner
  | item {items : List Json} {index : Nat} {value inner : Json}
      {steps : List Step} (stands : items[index]? = some value)
      (rest : Holds value steps inner) :
      Holds (.array items) (.position index :: steps) inner

/-- A number finds the item at a position that it stands for. -/
theorem walk_number_eq_some_iff
    {items : List Json} {number : Number} {item : Json} :
    (array items).walk [.number number] = .ok (some item) ↔
      ∃ index : Nat, number.doubleValue = index ∧
        items[index]? = some item := by
  rw [walk_number, Except.ok.injEq, Option.bind_eq_some_iff]
  exact exists_congr fun index =>
    and_congr_left' Number.position?_eq_some_iff

/-- A number finds nothing if it stands for no position within the array. -/
theorem walk_number_eq_none_iff
    {items : List Json} {number : Number} :
    (array items).walk [.number number] = .ok none ↔
      ∀ index : Nat, index < items.length → number.doubleValue ≠ index := by
  rw [walk_number, Except.ok.injEq, Option.bind_eq_none_iff]
  constructor
  · intro missing index inside stands
    have outside := missing index (Number.position?_eq_some_iff.mpr stands)
    exact absurd inside (Nat.not_lt.mpr (List.getElem?_eq_none_iff.mp outside))
  · intro apart index stands
    apply List.getElem?_eq_none
    by_contra inside
    exact apart index (Nat.lt_of_not_le inside)
      (Number.position?_eq_some_iff.mp stands)

/-- The literal of a position below `2 ^ 53` stands for that position. -/
theorem exists_segment_position
    {index : Nat} (small : index < 2 ^ 53) :
    ∃ number : Number, (Step.position index).segment = .number number ∧
      number.doubleValue = index := by
  have magnitude : (index : Int).natAbs ≤ 2 ^ 53 := by omega
  rcases Double.exists_ofInt_signedUnits magnitude with
    ⟨double, isDouble, units⟩
  refine ⟨_, Double.toJson_ofInt_of_natAbs_le magnitude, ?_⟩
  rw [Number.doubleValue, Number.toDouble, isDouble]
  exact FiniteDouble.signedValue_eq_intCast_iff.mpr units

theorem ItemsOrdered.of_mem
    {items : List Json} (ordered : ItemsOrdered items) {item : Json}
    (member : item ∈ items) : item.Ordered := by
  induction items with
  | nil => cases member
  | cons first items ih =>
      rcases List.mem_cons.mp member with rfl | later
      · exact ordered.1
      · exact ih ordered.2 later

theorem MembersOrdered.of_mem
    {members : List (String × Json)} (ordered : MembersOrdered members)
    {key : String} {value : Json} (member : (key, value) ∈ members) :
    value.Ordered := by
  induction members with
  | nil => cases member
  | cons first members ih =>
      rcases first with ⟨other, held⟩
      rcases List.mem_cons.mp member with same | later
      · cases same
        exact ordered.1
      · exact ih ordered.2 later

/-- What a value holds is found where it stands. -/
theorem Holds.walk_eq
    {root value : Json} {steps : List Step} (holds : root.Holds steps value)
    (ordered : root.Ordered)
    (small : ∀ index, .position index ∈ steps → index < 2 ^ 53) :
    root.walk (steps.map Step.segment) = .ok (some value) := by
  induction holds with
  | here => rfl
  | @member members key value _ steps stands _ ih =>
      simp only [Ordered] at ordered
      have distinct := Entries.Ordered.nodup_keys ordered.1
      have step : (object members).descend (.string key) = .ok (some value) :=
        congrArg Except.ok (Entries.lookup_of_mem distinct stands)
      have below : ∀ index, .position index ∈ steps → index < 2 ^ 53 :=
        fun index later => small index (List.mem_cons_of_mem _ later)
      rw [List.map_cons, Step.segment, walk_cons_of_some step]
      exact ih (ordered.2.of_mem stands) below
  | @item items index value _ steps stands _ ih =>
      simp only [Ordered] at ordered
      have below : ∀ index, .position index ∈ steps → index < 2 ^ 53 :=
        fun index later => small index (List.mem_cons_of_mem _ later)
      rcases exists_segment_position (small index List.mem_cons_self) with
        ⟨number, segment, isIndex⟩
      have step : (array items).descend (.number number) =
          .ok (some value) := by
        rw [descend_number, Number.position?_eq_some_iff.mpr isIndex]
        exact congrArg Except.ok stands
      rw [List.map_cons, segment, walk_cons_of_some step]
      exact ih (ordered.of_mem (List.mem_of_getElem? stands)) below

/-! ## Segments that do not fit -/

/-- A segment does not fit the value that it meets. -/
inductive Misfit : Json → Json → TypeFault → Prop where
  | key {value : Json} {key : String} (notObject : value.kind ≠ .object) :
      Misfit value (.string key) (.keyOutsideObject value.kind key)
  | position {value : Json} {number : Number} (notArray : value.kind ≠ .array) :
      Misfit value (.number number) (.positionOutsideArray value.kind number)
  | neither {value segment : Json} (noKey : segment.kind ≠ .string)
      (noPosition : segment.kind ≠ .number) :
      Misfit value segment (.notASegment segment.kind)

/-- A step fails exactly if the segment does not fit. -/
theorem descend_eq_error_iff
    {value segment : Json} {error : ConditionError} :
    value.descend segment = .error error ↔
      ∃ fault, Misfit value segment fault ∧ error = .typeMismatch fault := by
  constructor
  · intro failed
    cases segment with
    | string key =>
        by_cases isObject : value.kind = .object
        · cases value with
          | object => cases failed
          | _ => cases isObject
        · rw [descend_string_of_kind isObject] at failed
          cases failed
          exact ⟨_, .key isObject, rfl⟩
    | number index =>
        by_cases isArray : value.kind = .array
        · cases value with
          | array => cases failed
          | _ => cases isArray
        · rw [descend_number_of_kind isArray] at failed
          cases failed
          exact ⟨_, .position isArray, rfl⟩
    | _ =>
        rw [descend_of_kind (by nofun) (by nofun)] at failed
        cases failed
        exact ⟨_, .neither (by nofun) (by nofun), rfl⟩
  · rintro ⟨fault, misfit, rfl⟩
    cases misfit with
    | key notObject => exact descend_string_of_kind notObject _
    | position notArray => exact descend_number_of_kind notArray _
    | neither noKey noPosition => exact descend_of_kind noKey noPosition

/--
A path fails exactly if some segment does not fit the value that the segments
before it lead to.
-/
theorem walk_eq_error_iff
    {root : Json} {path : List Json} {error : ConditionError} :
    root.walk path = .error error ↔
      ∃ before segment after value fault,
        path = before ++ segment :: after ∧
          root.walk before = .ok (some value) ∧
            Misfit value segment fault ∧ error = .typeMismatch fault := by
  constructor
  · intro failed
    induction path generalizing root with
    | nil => cases failed
    | cons segment path ih =>
        rcases step : root.descend segment with first | none | next
        · rw [walk_cons_of_error step] at failed
          cases failed
          rcases descend_eq_error_iff.mp step with ⟨fault, misfit, rfl⟩
          exact ⟨[], segment, path, root, fault, rfl, rfl, misfit, rfl⟩
        · rw [walk_cons_of_none step] at failed
          cases failed
        · rw [walk_cons_of_some step] at failed
          rcases ih failed with
            ⟨before, last, after, value, fault, rfl, leads, misfit, rfl⟩
          refine ⟨segment :: before, last, after, value, fault, rfl, ?_,
            misfit, rfl⟩
          rw [walk_cons_of_some step, leads]
  · rintro ⟨before, segment, after, value, fault, rfl, leads, misfit, rfl⟩
    have step := descend_eq_error_iff.mpr ⟨fault, misfit, rfl⟩
    rw [walk_append, leads]
    exact walk_cons_of_error step

/--
Paths act on values.  A path made of two goes on from where the first part has
led; it leads nowhere if the first part does, whatever follows, and it fails as
the first part does.  Every value that stands somewhere within another, below
positions under `2 ^ 53`, is found there.  A number finds an item of an array
exactly if its double has the value of a position of that item, and it finds
nothing exactly if it has that of no position in the array.  And a path fails
exactly where a segment does not fit the value that it meets: a key outside an
object, a position outside an array, or what is neither.
-/
theorem paths_act_on_values (root : Json) :
    (∀ first second : List Json,
      (∀ value, root.walk first = .ok (some value) →
        root.walk (first ++ second) = value.walk second) ∧
      (root.walk first = .ok none →
        root.walk (first ++ second) = .ok none) ∧
      ∀ error, root.walk first = .error error →
        root.walk (first ++ second) = .error error) ∧
    (∀ steps value, root.Ordered → root.Holds steps value →
      (∀ index, .position index ∈ steps → index < 2 ^ 53) →
        root.walk (steps.map Step.segment) = .ok (some value)) ∧
    (∀ items number, root = .array items →
      (∀ item, root.walk [.number number] = .ok (some item) ↔
        ∃ index : Nat, number.doubleValue = index ∧
          items[index]? = some item) ∧
      (root.walk [.number number] = .ok none ↔
        ∀ index : Nat, index < items.length → number.doubleValue ≠ index)) ∧
    ∀ path error, root.walk path = .error error ↔
      ∃ before segment after value fault,
        path = before ++ segment :: after ∧
          root.walk before = .ok (some value) ∧
            Misfit value segment fault ∧ error = .typeMismatch fault := by
  refine ⟨fun first second => ⟨?_, ?_, ?_⟩, ?_, ?_, ?_⟩
  · intro value leads
    rw [walk_append, leads]
  · intro missing
    rw [walk_append, missing]
  · intro error failed
    rw [walk_append, failed]
  · intro steps value ordered holds small
    exact holds.walk_eq ordered small
  · rintro items number rfl
    exact ⟨fun item => walk_number_eq_some_iff, walk_number_eq_none_iff⟩
  · intro path error
    exact walk_eq_error_iff

/-- A value two positions below a member is found there. -/
theorem paths_act_on_values_nested :
    let root := object [("a", .array [.null, .array [.bool true]])]
    let steps := [Step.key "a", .position 1, .position 0]
    root.Ordered ∧ root.Holds steps (.bool true) ∧
      root.walk (steps.map Step.segment) = .ok (some (.bool true)) := by
  intro root steps
  have ordered : root.Ordered := by
    simp [root, Ordered, MembersOrdered, ItemsOrdered]
  have holds : root.Holds steps (.bool true) :=
    .member List.mem_cons_self (.item rfl (.item rfl (.here _)))
  have small : ∀ index, .position index ∈ steps → index < 2 ^ 53 := by
    intro index member
    simp only [steps, List.mem_cons, List.not_mem_nil, reduceCtorEq,
      Step.position.injEq, false_or, or_false] at member
    omega
  exact ⟨ordered, holds,
    (paths_act_on_values root).2.1 steps _ ordered holds small⟩

end Json

end Criteria
