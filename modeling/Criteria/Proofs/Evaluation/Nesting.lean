import Mathlib.Data.Nat.Digits.Defs
import Criteria.Proofs.Evaluation.Bucket
import Criteria.Proofs.Evaluation.Comparison

/-!
# Exact buckets

The first eight bytes of the digest of a key spell an integer, which has
nothing to do with the number of buckets.  Up to `2 ^ 53` buckets, the one that
the key goes into is the remainder of this integer, exactly: the modulus loses
nothing on its way through a double but its fraction, and neither does the
remainder.  Remainders by a modulus and by a multiple of it belong together, so
buckets nest: who merges the buckets of a multiple gets those of the modulus.
-/

namespace Criteria

/-! ## The integer of a key -/

theorem Sha1.length_digest (message : List UInt8) :
    (digest message).length = 20 := rfl

example :
    Sha1.digest (bytesOfText "abc") =
      [0xA9, 0x99, 0x3E, 0x36, 0x47, 0x06, 0x81, 0x6A, 0xBA, 0x3E,
        0x25, 0x71, 0x78, 0x50, 0xC2, 0x6C, 0x9C, 0xD0, 0xD8, 0x9D] := by
  decide +kernel

/-- The integer that bytes spell, of which the first is the highest. -/
def integerOfBytes (bytes : List UInt8) : Nat :=
  Nat.ofDigits 256 (bytes.map UInt8.toNat).reverse

/-- The integer of a key is what the first eight bytes of its digest spell. -/
theorem Builtin.keyHash_eq (key : Json) :
    keyHash key =
      integerOfBytes
        ((Sha1.digest (bytesOfText key.canonicalText)).take 8) := by
  rw [keyHash, integerOfBytes, Nat.ofDigits_eq_foldr, List.foldr_reverse,
    List.foldl_map]
  congr 1
  funext value byte
  rw [Nat.add_comm]
  rfl

/-! ## The modulus -/

/-- A modulus is accepted if its fraction cut off leaves `1` to `2 ^ 64`. -/
theorem Builtin.modulus_eq (size : FiniteDouble) :
    modulus (.finite size) =
      if 1 ≤ size.truncated ∧ size.truncated ≤ 2 ^ 64 then
        .ok (min size.truncated.toNat (2 ^ 64 - 1))
      else
        .error
          (.typeMismatch (.notAModulus (Double.finite size).truncate)) := by
  cases sign : size.isNegative with
  | false =>
      have truncated : size.truncated = size.wholePart := by
        simp [FiniteDouble.truncated, sign]
      simp only [modulus, truncated, sign, Bool.not_false, Bool.true_and,
        Int.toNat_natCast, Bool.and_eq_true, decide_eq_true_eq]
      norm_cast
  | true =>
      have truncated : size.truncated = -size.wholePart := by
        simp [FiniteDouble.truncated, sign]
      have tooSmall : ¬(1 ≤ size.truncated ∧ size.truncated ≤ 2 ^ 64) := by
        omega
      rw [if_neg tooSmall]
      simp [modulus, sign]

/-! ## What a bucket comes to -/

/-- A value that is a number made of an integer. -/
def Json.IsInteger (value : Json) (integer : Int) : Prop :=
  ∃ inRange, value = .number (.integer integer inRange)

namespace Evaluator

variable {evaluator : Evaluator}

/-- A key is drawn from one operand and a number of buckets from the next. -/
def Draws (evaluator : Evaluator) (levels : Nat) (session : Session)
    (first second : Node) (key : Json) (number : Number) : Prop :=
  ∃ between after,
    evaluator.runWithin levels session first = (.ok key, between) ∧
      evaluator.runWithin levels between second = (.ok (.number number), after)

section

variable {name : String} {levels : Nat} {session : Session}
variable {first second : Node} {key : Json} {number : Number}

/-- Literals draw null and the number that a double is written as. -/
theorem draws_literals
    {size : Double} (written : size.toJson = .number number) :
    evaluator.Draws (levels + 1) session (.literal .null)
      (.literal (.number size)) .null number := by
  refine ⟨session, session, rfl, ?_⟩
  rw [← written]
  rfl

/-- A bucket is what becomes of the modulus. -/
theorem ofOperands_bucket
    (found : evaluator.registry.find? name = some Builtin.bucket.handler)
    (draws : evaluator.Draws levels session first second key number) :
    evaluator.ofOperands name levels session first second =
      match Builtin.modulus number.toDouble with
      | .ok buckets =>
          .ok (Double.ofInt (Builtin.keyHash key % buckets : Nat)).toJson
      | .error error => .error (.inFunction name error) := by
  rcases draws with ⟨between, after, keyed, sized⟩
  have plan : Builtin.bucket.plan (.array [first, second]) =
      .operand first fun key => .operand second fun value =>
        .ofExcept (Builtin.expectNumber value) fun size =>
          .ofExcept (Builtin.modulus size) fun buckets => .finish
            (.ok (Double.ofInt (Builtin.keyHash key % buckets : Nat)).toJson) :=
    rfl
  rw [ofOperands_eq found, plan, runPlan_operand_of_ok keyed,
    runPlan_operand_of_ok sized, Builtin.expectNumber, Plan.ofExcept]
  cases Builtin.modulus number.toDouble with
  | ok => rfl
  | error => rfl

/-- A bucket is an exact remainder if there are at most `2 ^ 53`. -/
theorem bucket_of_small
    (found : evaluator.registry.find? name = some Builtin.bucket.handler)
    (draws : evaluator.Draws levels session first second key number)
    (least : 1 ≤ number.truncation) (most : number.truncation ≤ 2 ^ 53) :
    ∃ value, evaluator.ofOperands name levels session first second =
        .ok value ∧
      value.IsInteger (Builtin.keyHash key % number.truncation) := by
  rcases number.exists_toDouble_eq_finite with ⟨size, isDouble⟩
  rw [Number.truncation_of_toDouble isDouble] at *
  obtain ⟨buckets, isModulus⟩ := Int.eq_ofNat_of_zero_le
    (Int.le_trans (by decide) least)
  rw [isModulus] at least most
  have positive : 0 < buckets := by omega
  have small : buckets ≤ 2 ^ 53 := by exact_mod_cast most
  have accepted : Builtin.modulus number.toDouble = .ok buckets := by
    rw [isDouble, Builtin.modulus_eq, isModulus, if_pos (by omega),
      Int.toNat_natCast, Nat.min_eq_left (by omega)]
  have below : Builtin.keyHash key % buckets ≤ 2 ^ 53 :=
    Nat.le_trans (Nat.le_of_lt (Nat.mod_lt _ positive)) small
  have outcome := ofOperands_bucket found draws
  rw [accepted] at outcome
  rw [isModulus]
  exact ⟨_, outcome, _, Double.toJson_ofInt below⟩

/-- A modulus is rejected as soon as no bucket can be counted with it. -/
theorem bucket_rejected_iff
    (found : evaluator.registry.find? name = some Builtin.bucket.handler)
    (draws : evaluator.Draws levels session first second key number) :
    (∃ fault, evaluator.ofOperands name levels session first second =
        .error (.inFunction name (.typeMismatch fault))) ↔
      number.truncation < 1 ∨ 2 ^ 64 < number.truncation := by
  rcases number.exists_toDouble_eq_finite with ⟨size, isDouble⟩
  rw [Number.truncation_of_toDouble isDouble, ofOperands_bucket found draws,
    isDouble, Builtin.modulus_eq]
  by_cases accepted : 1 ≤ size.truncated ∧ size.truncated ≤ 2 ^ 64
  · rw [if_pos accepted]
    simp only [reduceCtorEq, exists_false, false_iff]
    omega
  · rw [if_neg accepted]
    refine iff_of_true ⟨_, rfl⟩ ?_
    omega

end

/--
Buckets are exact, and they nest.  The integer of a key is spelled by the first
eight bytes of the digest of its canonical text.  For every key and every
number whose fraction cut off is from one to `2 ^ 53`, the bucket is the
remainder of this integer.  A number is rejected exactly if it is below one or
above `2 ^ 64` once its fraction is cut off.  And if one modulus divides
another, the bucket of a key by the one is the remainder of that by the other.
-/
theorem buckets_are_exact_and_nest
    {name : String}
    (found : evaluator.registry.find? name = some Builtin.bucket.handler)
    (levels : Nat) :
    let outcome := evaluator.ofOperands name levels
    (∀ key : Json, ∃ bytes : List UInt8, bytes.length = 8 ∧
      bytes <+: Sha1.digest (bytesOfText key.canonicalText) ∧
        Builtin.keyHash key = integerOfBytes bytes) ∧
    (∀ session first second key number,
      evaluator.Draws levels session first second key number →
        (1 ≤ number.truncation → number.truncation ≤ 2 ^ 53 →
          ∃ value, outcome session first second = .ok value ∧
            value.IsInteger (Builtin.keyHash key % number.truncation)) ∧
        ((∃ fault, outcome session first second =
            .error (.inFunction name (.typeMismatch fault))) ↔
          number.truncation < 1 ∨ 2 ^ 64 < number.truncation)) ∧
    ∀ session first second coarse session' first' second' fine key,
      evaluator.Draws levels session first second key coarse →
      evaluator.Draws levels session' first' second' key fine →
      1 ≤ coarse.truncation → 1 ≤ fine.truncation →
      coarse.truncation ∣ fine.truncation → fine.truncation ≤ 2 ^ 53 →
        ∃ value value' bucket,
          outcome session first second = .ok value ∧
          outcome session' first' second' = .ok value' ∧
          value'.IsInteger bucket ∧
          value.IsInteger (bucket % coarse.truncation) := by
  intro outcome
  refine ⟨?_, ?_, ?_⟩
  · intro key
    have long : 8 ≤ (Sha1.digest (bytesOfText key.canonicalText)).length := by
      rw [Sha1.length_digest]
      decide
    exact ⟨_, List.length_take_of_le long, List.take_prefix _ _,
      Builtin.keyHash_eq key⟩
  · intro session first second key number draws
    exact ⟨bucket_of_small found draws, bucket_rejected_iff found draws⟩
  · intro session first second coarse session' first' second' fine key
      coarseDraws fineDraws coarseLeast fineLeast divides most
    have smaller : coarse.truncation ≤ fine.truncation :=
      Int.le_of_dvd (by omega) divides
    rcases bucket_of_small found coarseDraws coarseLeast
      (Int.le_trans smaller most) with ⟨value, isValue, bucket⟩
    rcases bucket_of_small found fineDraws fineLeast most with
      ⟨value', isValue', bucket'⟩
    refine ⟨value, value', _, isValue, isValue', bucket', ?_⟩
    rw [Int.emod_emod_of_dvd _ divides]
    exact bucket

/-- The bucket of null among ten and a half is that among a hundred by ten. -/
theorem buckets_are_exact_and_nest_fraction :
    ∃ half : FiniteDouble, half.isIntegral = false ∧ half.truncated = 10 ∧
      ∃ value value' bucket,
        standard.ofOperands "sha1mod" 63 ⟨.empty, []⟩ (.literal .null)
            (.literal (.number (.finite half))) = .ok value ∧
          standard.ofOperands "sha1mod" 63 ⟨.empty, []⟩ (.literal .null)
            (.literal (.number (.ofInt (100 : Nat)))) = .ok value' ∧
          value'.IsInteger bucket ∧ value.IsInteger (bucket % 10) := by
  obtain ⟨half, fraction, ten⟩ : ∃ half : FiniteDouble,
      half.isIntegral = false ∧ half.truncated = 10 :=
    ⟨⟨false, 1026 * 2 ^ 52 + 5 * 2 ^ 48, by decide⟩, by decide +kernel,
      by decide +kernel⟩
  obtain ⟨whole, isDouble, hundred⟩ : ∃ whole : FiniteDouble,
      Double.ofInt (100 : Nat) = .finite whole ∧ whole.truncated = 100 :=
    ⟨⟨false, nearestPattern 100 1, by decide +kernel⟩, by decide +kernel,
      by decide +kernel⟩
  have small : ¬(half.isIntegral = true ∧ half.wholePart ≤ 2 ^ 53) := by
    simp [fraction]
  have itself : (Double.finite half).toJson = .number (.float half) :=
    dif_neg small
  have coarse : standard.Draws 63 ⟨.empty, []⟩ (.literal .null)
      (.literal (.number (.finite half))) .null (.float half) :=
    draws_literals itself
  have fine : standard.Draws 63 ⟨.empty, []⟩ (.literal .null)
      (.literal (.number (.ofInt (100 : Nat)))) .null
        (.integer (100 : Nat) (by decide)) :=
    draws_literals (Double.toJson_ofInt (by decide))
  have coarseCut : (Number.float half).truncation = 10 :=
    (Number.truncation_of_toDouble rfl).trans ten
  have fineCut : (Number.integer (100 : Nat) (by decide)).truncation = 100 := by
    rw [← hundred]
    apply Number.truncation_of_toDouble
    rw [Number.toDouble, isDouble]
  have nested := (buckets_are_exact_and_nest
    (Registry.find?_builtins_name .bucket) 63).2.2
      _ _ _ _ _ _ _ _ _ coarse fine
  rw [coarseCut, fineCut] at nested
  exact ⟨half, fraction, ten,
    nested (by decide) (by decide) (by decide) (by decide)⟩

end Evaluator

end Criteria
