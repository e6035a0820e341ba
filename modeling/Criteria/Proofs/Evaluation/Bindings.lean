import Mathlib.Data.List.Induction
import Mathlib.Data.List.Nodup
import Criteria.Proofs.Evaluation.Calls

/-!
# What names are bound to

A registry made from a list binds a name to the last handler that the list has
for it, so that with distinct names the list and the registry say the same.  In
the registry of the built-in functions every name that is bound at all is the
name of a built-in function, and is bound to it.
-/

namespace Criteria

namespace Entries

variable {α : Type} {entries : List (String × α)} {key : String} {value : α}

/-- Of several values put under one key the last is found there. -/
theorem lookup_ofList (entries : List (String × α)) (key : String) :
    (ofList entries).lookup key = entries.reverse.lookup key := by
  rw [ofList, List.foldl_eq_foldr_reverse]
  induction entries.reverse with
  | nil => rfl
  | cons entry earlier ih =>
      rcases entry with ⟨other, held⟩
      rw [List.foldr_cons]
      by_cases same : key = other
      · subst same
        rw [lookup_insert_self, List.lookup_cons_self]
      · rw [lookup_insert_of_ne same, ih, List.lookup_cons,
          beq_eq_false_iff_ne.mpr same]

theorem mem_of_lookup (found : entries.lookup key = some value) :
    (key, value) ∈ entries := by
  rcases List.lookup_eq_some_iff.mp found with ⟨before, after, rfl, _⟩
  exact List.mem_append_right before List.mem_cons_self

theorem lookup_of_mem
    (distinct : (keys entries).Nodup) (member : (key, value) ∈ entries) :
    entries.lookup key = some value := by
  induction entries with
  | nil => cases member
  | cons entry later ih =>
      rcases entry with ⟨other, held⟩
      rcases List.nodup_cons.mp distinct with ⟨absent, others⟩
      rcases List.mem_cons.mp member with same | further
      · cases same
        exact List.lookup_cons_self
      · have different : key ≠ other := by
          rintro rfl
          exact absent (List.mem_map.mpr ⟨(key, value), further, rfl⟩)
        rw [List.lookup_cons, beq_eq_false_iff_ne.mpr different]
        exact ih others further

/-- Under distinct keys every entry is found. -/
theorem lookup_eq_some_iff (distinct : (keys entries).Nodup) :
    entries.lookup key = some value ↔ (key, value) ∈ entries :=
  ⟨mem_of_lookup, lookup_of_mem distinct⟩

theorem lookup_eq_none_iff :
    entries.lookup key = none ↔ key ∉ keys entries := by
  simp only [List.lookup_eq_none_iff, bne_iff_ne, keys, List.mem_map,
    not_exists, not_and]
  exact forall₂_congr fun entry _ => ne_comm

/-- Entries of some keys only: what is found under these, and nothing else. -/
theorem lookup_filter
    (kept : String → Bool) (entries : List (String × α)) (key : String) :
    (entries.filter fun entry => kept entry.1).lookup key =
      if kept key then entries.lookup key else none := by
  induction entries with
  | nil => simp
  | cons entry later ih =>
      rcases entry with ⟨other, held⟩
      by_cases same : key = other
      · subst same
        cases keeps : kept key with
        | true => simp [keeps]
        | false =>
            rw [keeps] at ih
            simpa [keeps] using ih
      · have differs : (key == other) = false := beq_eq_false_iff_ne.mpr same
        cases keeps : kept other <;> simp [keeps, List.lookup_cons, differs, ih]

/-- Entries whose values are changed one by one: what is found is changed. -/
theorem lookup_filterMap
    {β γ : Type} {find : α → Option β} (change : β → γ)
    (total : ∀ entry ∈ entries, (find entry.2).isSome = true) (key : String) :
    (entries.filterMap fun entry =>
      (find entry.2).map fun found => (entry.1, change found)).lookup key =
        ((entries.lookup key).bind find).map change := by
  induction entries with
  | nil => rfl
  | cons entry later ih =>
      rcases entry with ⟨other, held⟩
      rcases List.forall_mem_cons.mp total with ⟨first, others⟩
      rcases Option.isSome_iff_exists.mp first with ⟨found, finds⟩
      simp only at finds
      rw [List.filterMap_cons]
      simp only [finds, Option.map_some, List.lookup_cons]
      by_cases same : key = other
      · simp [same, finds]
      · simp [beq_eq_false_iff_ne.mpr same, ih others]

/-- Under distinct keys every entry is found, whatever the order. -/
theorem lookup_ofList_eq_some_iff (distinct : (keys entries).Nodup) :
    (ofList entries).lookup key = some value ↔ (key, value) ∈ entries := by
  have reversed : (keys entries.reverse).Nodup := by
    rw [keys, List.map_reverse]
    exact List.nodup_reverse.mpr distinct
  rw [lookup_ofList, lookup_eq_some_iff reversed, List.mem_reverse]

theorem Ordered.nodup_keys (ordered : Ordered entries) :
    (keys entries).Nodup :=
  List.pairwise_map.mpr (ordered.imp String.ne_of_lt)

theorem lookup_isSome_iff :
    (entries.lookup key).isSome = true ↔ key ∈ keys entries := by
  rw [← not_iff_not, Bool.not_eq_true, Option.isSome_eq_false_iff,
    Option.isNone_iff_eq_none, lookup_eq_none_iff]

/-! ## Entries put in one after the other -/

theorem ofList_append_singleton
    (earlier : List (String × α)) (entry : String × α) :
    ofList (earlier ++ [entry]) = insert entry.1 entry.2 (ofList earlier) := by
  rw [ofList, List.foldl_append]
  rfl

/-- A key above all others goes to the end. -/
theorem insert_of_forall_lt
    (above : ∀ entry ∈ entries, entry.1 < key) (value : α) :
    insert key value entries = entries ++ [(key, value)] := by
  induction entries with
  | nil => rfl
  | cons entry later ih =>
      rcases List.forall_mem_cons.mp above with ⟨first, others⟩
      rw [insert, if_neg (String.lt_asymm first),
        if_neg (String.ne_of_lt first).symm, ih others, List.cons_append]

/-- Entries in key order stay as they are. -/
theorem Ordered.ofList_eq (ordered : Ordered entries) :
    ofList entries = entries := by
  induction entries using List.reverseRecOn with
  | nil => rfl
  | append_singleton earlier entry ih =>
      rcases List.pairwise_append.mp ordered with ⟨earlierOrdered, _, below⟩
      rw [ofList_append_singleton, ih earlierOrdered,
        insert_of_forall_lt fun other member =>
          below other member entry (List.mem_singleton_self entry)]

end Entries

namespace Registry

variable {handlers : List (String × Handler)} {name : String}

theorem entries_ofList (handlers : List (String × Handler)) :
    (ofList handlers).entries = Entries.ofList handlers :=
  (List.foldl_hom Registry.entries fun _ _ => rfl).symm

/-- Under distinct names a registry binds what it was given. -/
theorem find?_ofList_eq_some_iff
    (distinct : (Entries.keys handlers).Nodup) {handler : Handler} :
    (ofList handlers).find? name = some handler ↔
      (name, handler) ∈ handlers := by
  rw [find?, entries_ofList, Entries.lookup_ofList_eq_some_iff distinct]

end Registry

namespace Builtin

theorem ofName?_eq_some_iff {name : String} {builtin : Builtin} :
    ofName? name = some builtin ↔ builtin.name = name := by
  constructor
  · intro found
    have same := List.find?_some found
    exact beq_iff_eq.mp same
  · rintro rfl
    exact ofName?_name builtin

/-- No other built-in function does what `context` does. -/
theorem eq_context_of_handler_eq
    {builtin : Builtin} (same : builtin.handler = context.handler) :
    builtin = context := by
  -- Without operands only `context` answers with the value of the context.
  have answers : ((builtin.handler ⟨fun _ => pure .null, fun _ => false⟩
      ⟨"", .array []⟩).runFrom ⟨.ofValue (.string ""), []⟩).1 =
        .ok (.string "") := by
    rw [same]
    rfl
  cases builtin with
  | context => rfl
  | _ => cases answers

end Builtin

theorem Registry.find?_builtins_eq_some_iff
    {name : String} {handler : Handler} :
    builtins.find? name = some handler ↔
      ∃ builtin : Builtin, builtin.name = name ∧ builtin.handler = handler := by
  have distinct : (Entries.keys (Builtin.all.map fun builtin =>
      (builtin.name, builtin.handler))).Nodup := by
    rw [Entries.keys, List.map_map]
    decide
  have complete : ∀ builtin : Builtin, builtin ∈ Builtin.all := by
    intro builtin
    cases builtin <;> decide
  rw [builtins, find?_ofList_eq_some_iff distinct]
  simp only [List.mem_map, complete, true_and, Prod.mk.injEq]

/-- A built-in function is bound to its own name. -/
theorem Registry.find?_builtins_name (builtin : Builtin) :
    builtins.find? builtin.name = some builtin.handler :=
  find?_builtins_eq_some_iff.mpr ⟨builtin, rfl, rfl⟩

/-- Names of built-in functions are bound, and no other names are. -/
theorem Registry.find?_builtins (name : String) :
    builtins.find? name = (Builtin.ofName? name).map Builtin.handler := by
  refine Option.ext fun handler => ?_
  rw [find?_builtins_eq_some_iff, Option.map_eq_some_iff]
  simp only [Builtin.ofName?_eq_some_iff]

theorem Registry.find?_builtins_eq_context_iff {name : String} :
    builtins.find? name = some Builtin.context.handler ↔ name = "context" := by
  rw [find?_builtins_eq_some_iff]
  constructor
  · rintro ⟨builtin, rfl, same⟩
    rw [Builtin.eq_context_of_handler_eq same]
    rfl
  · rintro rfl
    exact ⟨.context, rfl, rfl⟩

/-- Where the built-in functions are bound, trees call nothing else. -/
theorem Node.callsBuiltins_builtins (node : Node) :
    node.CallsBuiltins Registry.builtins := by
  intro name _ handler found
  rcases Registry.find?_builtins_eq_some_iff.mp found with ⟨builtin, _, same⟩
  exact ⟨builtin, trivial, same.symm⟩

end Criteria
