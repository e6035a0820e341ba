import Criteria.Proofs.Evaluation.Bindings
import Criteria.Proofs.Evaluation.Simulation
import Criteria.Proofs.Json.NumberValue

/-!
# The range of buckets

A key is put into one of as many buckets as a modulus says, which is a number
with its fraction cut off.  The remainder that picks the bucket is below the
modulus, but the bucket is a double: it is the double nearest to the remainder.
Up to `2 ^ 53` that is the remainder itself.  Above, a remainder close to the
modulus may be rounded up to it, and the bucket is then the modulus, one past
the range.  `bucket_at_most_modulus` states when exactly this happens, and
`bucket_reaches_modulus` that it does.
-/

namespace Criteria

/-- A double that is not negative is written as a number of the same value. -/
theorem FiniteDouble.exists_toJson
    {double : FiniteDouble} (sign : double.isNegative = false) :
    ∃ number, (Double.finite double).toJson = .number number ∧
      number.exactValue = double.value := by
  by_cases small : double.isIntegral = true ∧ double.wholePart ≤ 2 ^ 53
  · refine ⟨.integer double.truncated (truncated_inRange small.2),
      dif_pos small, ?_⟩
    simp [Number.exactValue, truncated, sign, value_of_isIntegral small.1]
  · refine ⟨.float double, dif_neg small, ?_⟩
    simp [Number.exactValue, signedValue, sign]

/--
The number made of an integer has the value of the double nearest to it, if
that is finite.
-/
theorem Double.exists_toJson_ofInt
    {integer : Nat} (finite : nearestPattern integer 1 < infinityPattern) :
    ∃ number, (Double.ofInt integer).toJson = .number number ∧
      number.exactValue = patternValue (nearestPattern integer 1) := by
  have nearest : Double.ofInt integer =
      .finite ⟨false, nearestPattern integer 1, finite⟩ := by
    rw [Double.ofInt, Int.natAbs_natCast, Double.ofRatio, Double.ofPattern,
      dif_pos finite]
    simp
  rw [nearest]
  exact FiniteDouble.exists_toJson rfl

/-- Up to `2 ^ 53` an integer is written as itself. -/
theorem Double.toJson_ofInt
    {integer : Nat} (small : integer ≤ 2 ^ 53) :
    (Double.ofInt integer).toJson =
      .number (.integer integer (by omega)) :=
  toJson_ofInt_of_natAbs_le (by rwa [Int.natAbs_natCast])

namespace Builtin

/-- A modulus from one to `2 ^ 64` is accepted. -/
theorem modulus_of_wholePart
    {size : FiniteDouble} (positive : size.isNegative = false)
    (least : 1 ≤ size.wholePart) (most : size.wholePart ≤ 2 ^ 64) :
    modulus (.finite size) = .ok (min size.wholePart (2 ^ 64 - 1)) := by
  simp [modulus, positive, least, most]

/-- What the bucket of a key comes to, once key and modulus are known. -/
theorem runFrom_bucketOf
    {scope : Scope} {first second : Node} {before between after : Session}
    {key : Json} {number : Number} {size : Double} {buckets : Nat}
    (keyed : (scope.evaluate first).runFrom before = (.ok key, between))
    (sized : (scope.evaluate second).runFrom between =
      (.ok (.number number), after))
    (isDouble : number.toDouble = size)
    (accepted : modulus size = .ok buckets) :
    (bucketOf scope (.array [first, second])).runFrom before =
      (.ok (Double.ofInt (keyHash key % buckets : Nat)).toJson, after) := by
  subst isDouble
  have operands : (Node.array [first, second]).twoArguments =
      .ok (first, second) := rfl
  have expected : expectNumber (.number number) = .ok number.toDouble := rfl
  simp only [bucketOf, operands, Evaluation.runFrom_bind,
    Evaluation.runFrom_ofExcept, keyed, sized, expected, accepted,
    Evaluation.runFrom_pure]

/--
The bucket of a key.  For every key and every number whose fraction cut off is
from one to `2 ^ 64`, the bucket is an integer from zero up to that modulus.  It
is below the modulus unless the remainder of the key is rounded up to it, which
happens to no modulus up to `2 ^ 53`.
-/
theorem bucket_at_most_modulus
    (scope : Scope) (name : String) {first second : Node}
    {before between after : Session} {key : Json} {number : Number}
    {size : FiniteDouble}
    (keyed : (scope.evaluate first).runFrom before = (.ok key, between))
    (sized : (scope.evaluate second).runFrom between =
      (.ok (.number number), after))
    (isDouble : number.toDouble = .finite size)
    (positive : size.isNegative = false)
    (least : 1 ≤ size.wholePart) (most : size.wholePart ≤ 2 ^ 64) :
    ∃ (result : Number) (bucket : Nat),
      (Builtin.bucket.handler scope
          ⟨name, .array [first, second]⟩).runFrom before =
        (.ok (.number result), after) ∧
      result.exactValue = bucket ∧
      bucket ≤ size.wholePart ∧
      (bucket < size.wholePart ↔
        ¬RoundsUpTo size.wholePart
          (keyHash key % min size.wholePart (2 ^ 64 - 1))) ∧
      (size.wholePart ≤ 2 ^ 53 → bucket < size.wholePart) := by
  have accepted := modulus_of_wholePart positive least most
  have below : keyHash key % min size.wholePart (2 ^ 64 - 1) <
      size.wholePart :=
    Nat.lt_of_lt_of_le (Nat.mod_lt _ (by omega)) (Nat.min_le_left _ _)
  have ran := runFrom_bucketOf keyed sized isDouble accepted
  generalize keyHash key % min size.wholePart (2 ^ 64 - 1) = remainder at *
  rcases size.exists_wholePart with ⟨pattern, within, value⟩
  rcases exists_nearest_natCast value below with
    ⟨bucket, isBucket, places, bounded, inRange⟩
  have finite : nearestPattern remainder 1 < infinityPattern :=
    Nat.lt_of_le_of_lt (Nat.le_trans places within) size.pattern_lt
  rcases Double.exists_toJson_ofInt finite with ⟨result, isResult, same⟩
  refine ⟨result, bucket, ?_, same.trans isBucket, bounded, inRange, ?_⟩
  · rw [← isResult]
    exact ran
  · exact fun small => inRange.mpr (not_roundsUpTo_of_le below small)

/-- The scope of a function at the root of a condition. -/
def rootScope : Scope :=
  ⟨Evaluator.standard.evaluateWithin 63, Evaluator.standard.registry.contains⟩

theorem runFrom_number (value : Double) (session : Session) :
    (rootScope.evaluate (.literal (.number value))).runFrom session =
      (.ok value.toJson, session) := rfl

theorem evaluate_bucket
    {first second : Node} {value : Json}
    (ran : ((bucketOf rootScope (.array [first, second])).runFrom
      ⟨.empty, []⟩).1 = .ok value) :
    Evaluator.standard.evaluate .empty
      (.function "sha1mod" (.array [first, second])) = .ok value := by
  have found : Evaluator.standard.registry.find? "sha1mod" =
      some Builtin.bucket.handler := Registry.find?_builtins_name .bucket
  have invoked : Evaluator.standard.evaluate .empty
      (.function "sha1mod" (.array [first, second])) =
        ((Evaluator.standard.registry.invoke rootScope
          ⟨"sha1mod", .array [first, second]⟩).runFrom ⟨.empty, []⟩).1 := rfl
  rw [invoked, Registry.invoke, found]
  rcases outcome : (bucketOf rootScope (.array [first, second])).runFrom
    ⟨.empty, []⟩ with ⟨result, after⟩
  rw [outcome] at ran
  have handled : (Builtin.bucket.handler rootScope
      ⟨"sha1mod", .array [first, second]⟩).runFrom ⟨.empty, []⟩ =
        (result, after) := outcome
  simp only at ran
  rw [Evaluation.runFrom_within, handled, ran]

/-- The bucket of null among a hundred. -/
theorem bucket_at_most_modulus_hundred :
    ∃ (result : Number) (bucket : Nat),
      (Builtin.bucket.handler rootScope ⟨"sha1mod", .array
          [.literal .null, .literal (.number (.ofInt (100 : Nat)))]⟩).runFrom
            ⟨.empty, []⟩ = (.ok (.number result), ⟨.empty, []⟩) ∧
        result.exactValue = bucket ∧ bucket < 100 := by
  have keyed : (rootScope.evaluate (.literal .null)).runFrom ⟨.empty, []⟩ =
      (.ok .null, ⟨.empty, []⟩) := rfl
  have sized := runFrom_number (.ofInt (100 : Nat)) ⟨.empty, []⟩
  rw [Double.toJson_ofInt (by decide : 100 ≤ 2 ^ 53)] at sized
  obtain ⟨size, isDouble, positive, whole⟩ : ∃ size : FiniteDouble,
      Double.ofInt (100 : Nat) = .finite size ∧ size.isNegative = false ∧
        size.wholePart = 100 :=
    ⟨⟨false, nearestPattern 100 1, by decide +kernel⟩, by decide +kernel, rfl,
      by decide +kernel⟩
  rcases bucket_at_most_modulus rootScope "sha1mod" keyed sized isDouble
    positive (by omega) (by omega) with
      ⟨result, bucket, ran, value, _, _, below⟩
  rw [whole] at below
  exact ⟨result, bucket, ran, value, below (by decide)⟩

/--
The remainder of the key false is so close to this modulus that the bucket is
the modulus itself, which is out of range.
-/
theorem bucket_reaches_modulus :
    ∃ size : FiniteDouble,
      Double.ofInt 8986633686655277056 = .finite size ∧
      size.wholePart = 8986633686655277056 ∧
      Evaluator.standard.evaluate .empty (.function "sha1mod" (.array
        [.literal (.boolean false), .literal (.number (.finite size))])) =
          .ok (.number (.float size)) ∧
      ¬(Number.float size).exactValue < size.wholePart := by
  obtain ⟨size, isDouble, whole, integral, positive, rounded⟩ :
      ∃ size : FiniteDouble,
        Double.ofInt 8986633686655277056 = .finite size ∧
          size.wholePart = 8986633686655277056 ∧ size.isIntegral = true ∧
            size.isNegative = false ∧
              Double.ofInt (keyHash (.bool false) %
                min 8986633686655277056 (2 ^ 64 - 1) : Nat) = .finite size :=
    ⟨⟨false, nearestPattern 8986633686655277056 1, by decide +kernel⟩,
      by decide +kernel, by decide +kernel, by decide +kernel, rfl,
      by decide +kernel⟩
  refine ⟨size, isDouble, whole, ?_, ?_⟩
  · have large : ¬(size.isIntegral = true ∧ size.wholePart ≤ 2 ^ 53) := by
      rw [whole]
      omega
    have itself : (Double.finite size).toJson = .number (.float size) :=
      dif_neg large
    have keyed : (rootScope.evaluate (.literal (.boolean false))).runFrom
        ⟨.empty, []⟩ = (.ok (.bool false), ⟨.empty, []⟩) := rfl
    have sized := runFrom_number (.finite size) ⟨.empty, []⟩
    rw [itself] at sized
    have accepted := modulus_of_wholePart positive (by omega) (by omega)
    have ran := runFrom_bucketOf keyed sized rfl accepted
    rw [whole, rounded, itself] at ran
    exact evaluate_bucket (congrArg Prod.fst ran)
  · rw [Number.exactValue, FiniteDouble.signedValue, positive,
      if_neg Bool.false_ne_true, FiniteDouble.value_of_isIntegral integral]
    exact lt_irrefl _

end Builtin

end Criteria
