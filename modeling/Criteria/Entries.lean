/-!
# Entries in key order

Objects, registries and function maps are all lists of entries in strictly
increasing order of their keys.  `Entries.insert` keeps the order and lets the
last value put under a key win; `List.lookup` finds a value.
-/

namespace Criteria.Entries

variable {α : Type}

/-- Puts a value under a key, in place of the value that was there. -/
def insert (key : String) (value : α) : List (String × α) → List (String × α)
  | [] => [(key, value)]
  | (other, held) :: rest =>
      if key < other then (key, value) :: (other, held) :: rest
      else if key = other then (key, value) :: rest
      else (other, held) :: insert key value rest

/--
Entries put one after the other into an empty list; the last one of a key wins.
-/
def ofList (entries : List (String × α)) : List (String × α) :=
  entries.foldl (fun held (key, value) => insert key value held) []

/-- The keys, in order. -/
def keys (entries : List (String × α)) : List String :=
  entries.map Prod.fst

/-- Entries stand in strictly increasing order of their keys. -/
def Ordered (entries : List (String × α)) : Prop :=
  entries.Pairwise fun first second => first.1 < second.1

instance (entries : List (String × α)) : Decidable (Ordered entries) :=
  inferInstanceAs (Decidable (entries.Pairwise _))

@[simp]
theorem ordered_nil : Ordered ([] : List (String × α)) :=
  List.Pairwise.nil

/-- The value just put under a key is the one found there. -/
@[simp]
theorem lookup_insert_self
    (key : String) (value : α) (entries : List (String × α)) :
    (insert key value entries).lookup key = some value := by
  induction entries with
  | nil => simp [insert]
  | cons entry rest ih =>
      obtain ⟨other, held⟩ := entry
      unfold insert
      split
      · simp
      · split
        · simp
        · rename_i different
          have differs : (key == other) = false :=
            beq_eq_false_iff_ne.mpr different
          simp [List.lookup_cons, differs, ih]

/-- Putting a value under one key leaves the other keys alone. -/
theorem lookup_insert_of_ne
    {key wanted : String} (different : wanted ≠ key)
    (value : α) (entries : List (String × α)) :
    (insert key value entries).lookup wanted = entries.lookup wanted := by
  induction entries with
  | nil => simp [insert, different]
  | cons entry rest ih =>
      obtain ⟨other, held⟩ := entry
      have differs : (wanted == key) = false :=
        beq_eq_false_iff_ne.mpr different
      unfold insert
      split
      · simp [List.lookup_cons, differs]
      · split
        · rename_i same
          subst same
          simp [List.lookup_cons, differs]
        · simp [List.lookup_cons, ih]

theorem mem_insert
    {key : String} {value : α} {entry : String × α}
    {entries : List (String × α)}
    (member : entry ∈ insert key value entries) :
    entry = (key, value) ∨ entry ∈ entries := by
  induction entries with
  | nil => simpa [insert] using member
  | cons head rest ih =>
      obtain ⟨other, held⟩ := head
      unfold insert at member
      split at member
      · simpa using member
      · split at member
        · rcases List.mem_cons.mp member with equal | later
          · exact Or.inl equal
          · exact Or.inr (List.mem_cons_of_mem _ later)
        · rcases List.mem_cons.mp member with equal | later
          · exact Or.inr (by simp [equal])
          · rcases ih later with equal | found
            · exact Or.inl equal
            · exact Or.inr (List.mem_cons_of_mem _ found)

/-- Insertion keeps the order. -/
theorem Ordered.insert
    {entries : List (String × α)} (ordered : Ordered entries)
    (key : String) (value : α) :
    Ordered (Entries.insert key value entries) := by
  induction entries with
  | nil => simp [Entries.insert, Ordered]
  | cons head rest ih =>
      obtain ⟨other, held⟩ := head
      obtain ⟨above, restOrdered⟩ := List.pairwise_cons.mp ordered
      unfold Entries.insert
      split
      · rename_i below
        refine List.pairwise_cons.mpr ⟨?_, ordered⟩
        intro entry member
        rcases List.mem_cons.mp member with rfl | later
        · exact below
        · exact String.lt_trans below (above entry later)
      · split
        · rename_i same
          subst same
          exact List.pairwise_cons.mpr ⟨above, restOrdered⟩
        · rename_i notBelow different
          refine List.pairwise_cons.mpr ⟨?_, ih restOrdered⟩
          intro entry member
          rcases mem_insert member with rfl | later
          · refine Decidable.byContradiction fun notAbove => different ?_
            exact String.le_antisymm
              (String.not_lt.mp notAbove) (String.not_lt.mp notBelow)
          · exact above entry later

theorem Ordered.insertAll
    {held : List (String × α)} (ordered : Ordered held)
    (entries : List (String × α)) :
    Ordered
      (entries.foldl
        (fun held (key, value) => Entries.insert key value held) held) := by
  induction entries generalizing held with
  | nil => exact ordered
  | cons entry later ih => exact ih (ordered.insert entry.1 entry.2)

/-- However entries are put in, they end up in key order. -/
theorem ordered_ofList (entries : List (String × α)) :
    Ordered (ofList entries) :=
  ordered_nil.insertAll entries

end Criteria.Entries
