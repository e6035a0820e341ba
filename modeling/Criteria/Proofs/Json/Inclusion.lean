import Mathlib.Data.List.Perm.Subperm
import Criteria.Proofs.Evaluation.Bindings
import Criteria.Proofs.Json.Equality

/-!
# Equality of objects by inclusion

Two objects are equal exactly if they have as many members and every member of
the first is found in the second, under its key and with an equal value.  Only
this one direction needs to be looked at: keys do not repeat, so if all keys of
the first object are keys of the second and there are as many, no key of the
second is left over.  Deep equality is therefore symmetric, although inclusion
is not, and it is an equivalence.
-/

namespace Criteria.Json

/--
Every member of an object is found in another one, under its key and with an
equal value.
-/
def includedIn (rights lefts : List (String × Json)) : Bool :=
  lefts.all fun member =>
    (rights.lookup member.1).any fun found => member.2.deepEqual found

section

variable {lefts rights : List (String × Json)}

theorem includedIn_iff :
    includedIn rights lefts = true ↔
      ∀ key value, (key, value) ∈ lefts →
        ∃ found, rights.lookup key = some found ∧
          value.deepEqual found = true := by
  simp only [includedIn, List.all_eq_true, Option.any_eq_true, Prod.forall]

/-- Equal objects have as many members. -/
theorem length_eq_of_membersEqual
    (equal : membersEqual lefts rights = true) :
    lefts.length = rights.length := by
  induction lefts generalizing rights with
  | nil =>
      cases rights with
      | nil => rfl
      | cons => cases equal
  | cons member lefts ih =>
      rcases member with ⟨key, left⟩
      rcases exists_cons_of_membersEqual equal with
        ⟨right, others, rfl, _, members⟩
      rw [List.length_cons, List.length_cons, ih members]

/-- An object is included in one that equals it. -/
theorem includedIn_of_membersEqual
    (ordered : Entries.Ordered lefts)
    (equal : membersEqual lefts rights = true) :
    includedIn rights lefts = true := by
  refine includedIn_iff.mpr fun key value member => ?_
  have same := lookup_congr equal key
  rw [Entries.lookup_of_mem ordered.nodup_keys member] at same
  cases found : rights.lookup key with
  | none =>
      rw [found] at same
      cases same
  | some other =>
      rw [found] at same
      cases same with
      | some values => exact ⟨other, rfl, values⟩

/--
The keys of an object that is included in another one of its size are all the
keys of that other.
-/
theorem keys_perm_of_includedIn
    (ordered : Entries.Ordered lefts)
    (included : includedIn rights lefts = true)
    (size : lefts.length = rights.length) :
    (Entries.keys lefts).Perm (Entries.keys rights) := by
  have subset : Entries.keys lefts ⊆ Entries.keys rights := by
    intro key named
    rcases List.mem_map.mp named with ⟨⟨_, value⟩, member, rfl⟩
    rcases includedIn_iff.mp included _ value member with ⟨_, finds, _⟩
    exact List.mem_map.mpr ⟨_, Entries.mem_of_lookup finds, rfl⟩
  refine (ordered.nodup_keys.subperm subset).perm_of_length_le ?_
  rw [Entries.keys, Entries.keys, List.length_map, List.length_map]
  exact Nat.le_of_eq size.symm

/-- An object equals one of its size in which it is included. -/
theorem membersEqual_of_includedIn
    (leftOrdered : Entries.Ordered lefts)
    (rightOrdered : Entries.Ordered rights)
    (included : includedIn rights lefts = true)
    (size : lefts.length = rights.length) :
    membersEqual lefts rights = true := by
  have keys := keys_perm_of_includedIn leftOrdered included size
  refine (membersEqual_iff_lookup leftOrdered rightOrdered).mpr fun key => ?_
  cases held : lefts.lookup key with
  | some value =>
      have member := Entries.mem_of_lookup held
      rcases includedIn_iff.mp included key value member with
        ⟨found, finds, equal⟩
      rw [finds]
      exact .some equal
  | none =>
      have absent := mt keys.mem_iff.mpr (Entries.lookup_eq_none_iff.mp held)
      rw [Entries.lookup_eq_none_iff.mpr absent]
      exact .none

/-- Ordered objects are equal as sizes and inclusion say. -/
theorem membersEqual_eq
    (leftOrdered : Entries.Ordered lefts)
    (rightOrdered : Entries.Ordered rights) :
    membersEqual lefts rights =
      (lefts.length == rights.length && includedIn rights lefts) := by
  rw [Bool.eq_iff_iff, Bool.and_eq_true, beq_iff_eq]
  constructor
  · intro equal
    exact ⟨length_eq_of_membersEqual equal,
      includedIn_of_membersEqual leftOrdered equal⟩
  · rintro ⟨size, included⟩
    exact membersEqual_of_includedIn leftOrdered rightOrdered included size

end

/--
Deep equality is an equivalence on all values; and objects, whose members stand
in order, are equal exactly if they have as many members and the first is
included in the second.
-/
theorem deepEqual_equivalence :
    Equivalence (fun left right : Json => left.deepEqual right = true) ∧
      ∀ lefts rights, Entries.Ordered lefts → Entries.Ordered rights →
        (object lefts).deepEqual (object rights) =
          (lefts.length == rights.length && includedIn rights lefts) := by
  refine ⟨⟨deepEqual_refl, deepEqual_symm, deepEqual_trans⟩, ?_⟩
  intro lefts rights leftOrdered rightOrdered
  rw [deepEqual, membersEqual_eq leftOrdered rightOrdered]

/--
An object that has `1` under a key equals one that has `1.0` there, but not one
that has a further key, in which it is included.
-/
theorem deepEqual_equivalence_objects :
    let one : Json := .number (.integer 1 (by decide))
    let float : Json := .number (.float ⟨false, 1023 * 2 ^ 52, by decide⟩)
    Entries.Ordered [("a", one)] ∧ Entries.Ordered [("a", float)] ∧
      Entries.Ordered [("a", float), ("b", null)] ∧
      (object [("a", one)]).deepEqual (object [("a", float)]) = true ∧
      includedIn [("a", float), ("b", null)] [("a", one)] = true ∧
      (object [("a", one)]).deepEqual
        (object [("a", float), ("b", null)]) = false := by
  intro one float
  have single : ∀ value : Json, Entries.Ordered [("a", value)] :=
    fun value => List.pairwise_singleton _ _
  have keys : "a" < "b" := by decide
  have double : Entries.Ordered [("a", float), ("b", null)] :=
    List.pairwise_pair.mpr keys
  have equal : one.deepEqual float = true := by decide +kernel
  have included : ∀ more : List (String × Json),
      includedIn (("a", float) :: more) [("a", one)] = true := by
    intro more
    simp [includedIn, equal]
  have objects := deepEqual_equivalence.2
  refine ⟨single one, single float, double, ?_, included _, ?_⟩
  · rw [objects _ _ (single one) (single float), included]
    rfl
  · rw [objects _ _ (single one) double]
    rfl

end Criteria.Json
