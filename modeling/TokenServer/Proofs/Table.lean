import TokenServer.Table

/-! The entries of tables. There is one more for each key that is bound anew, and one less for each that is erased. A
table is made again from its entries, in whatever order they are listed; of repeated keys the last counts, or the first
where each is bound only once. -/

namespace TokenServer.Table

variable {β : Type} {key : String} {value : β}

theorem length_insertEntry_of_absent {entries : List (String × β)} (absent : lookup key entries = none) :
    (insertEntry key value entries).length = entries.length + 1 := by
  induction entries with
  | nil => rfl
  | cons head rest ih =>
    rw [lookup] at absent
    split at absent
    · cases absent
    · next differ =>
      rw [insertEntry]
      split
      · rfl
      · rw [if_neg (Ne.symm differ), List.length_cons, ih absent, List.length_cons]

theorem size_insert_of_absent {table : Table β} (absent : table.get? key = none) :
    (table.insert key value).size = table.size + 1 :=
  length_insertEntry_of_absent absent

theorem length_filter_of_lookup {entries : List (String × β)}
    (sorted : entries.Pairwise (fun a b => a.1 < b.1)) (bound : lookup key entries = some value) :
    (entries.filter (·.1 ≠ key)).length + 1 = entries.length := by
  induction entries with
  | nil => cases bound
  | cons head rest ih =>
    obtain ⟨below, restSorted⟩ := List.pairwise_cons.mp sorted
    by_cases same : head.1 = key
    -- The keys are sorted, so none behind the first is equal to it.
    · have others : rest.filter (·.1 ≠ key) = rest := by
        refine List.filter_eq_self.mpr fun entry member => decide_eq_true fun equal => ?_
        exact String.lt_irrefl key (by simpa [same, equal] using below entry member)
      rw [List.filter_cons_of_neg (by simpa using same), others, List.length_cons]
    · rw [lookup, if_neg same] at bound
      rw [List.filter_cons_of_pos (by simpa using same), List.length_cons, List.length_cons,
        ih restSorted bound]

theorem size_erase_of_bound {table : Table β} (bound : table.get? key = some value) :
    (table.erase key).size + 1 = table.size :=
  length_filter_of_lookup table.sorted bound

theorem lookup_eq_some_iff {entries : List (String × β)} (apart : (entries.map Prod.fst).Nodup) :
    lookup key entries = some value ↔ (key, value) ∈ entries := by
  induction entries with
  | nil => simp [lookup]
  | cons head rest ih =>
    obtain ⟨fresh, restApart⟩ := List.nodup_cons.mp apart
    by_cases same : head.1 = key
    · have absent : (key, value) ∉ rest := fun member => fresh (same ▸ List.mem_map_of_mem member)
      simp [lookup, same, absent, Prod.ext_iff, eq_comm]
    · simp [lookup, same, ih restApart, Prod.ext_iff, Ne.symm same]

theorem nodup_keys (table : Table β) : (table.entries.map Prod.fst).Nodup :=
  (List.pairwise_map.mpr table.sorted).imp fun below => String.ne_of_lt below

theorem get?_eq_some_iff {table : Table β} : table.get? key = some value ↔ (key, value) ∈ table.entries :=
  lookup_eq_some_iff table.nodup_keys

theorem get?_foldl_insert (entries : List (String × β)) (table : Table β) (key : String) :
    (entries.foldl (fun table entry => table.insert entry.1 entry.2) table).get? key =
      (List.lookup key entries.reverse).or (table.get? key) := by
  induction entries generalizing table with
  | nil => rfl
  | cons head rest ih =>
    obtain ⟨name, value⟩ := head
    rw [List.foldl_cons, ih, get?_insert, List.reverse_cons, List.lookup_append, Option.or_assoc]
    by_cases same : name = key
    · simp [same]
    · simp [List.lookup_cons, same, beq_eq_false_iff_ne.mpr (Ne.symm same)]

/-- Each key is bound to the value that it is last listed with. -/
theorem get?_ofList (entries : List (String × β)) (key : String) :
    (ofList entries).get? key = List.lookup key entries.reverse := by
  rw [ofList, get?_foldl_insert, get?_empty, Option.or_none]

theorem lookup_eq_lookup (entries : List (String × β)) : lookup key entries = List.lookup key entries := by
  induction entries with
  | nil => rfl
  | cons head rest ih =>
    rw [lookup, List.lookup_cons, ih]
    by_cases same : head.1 = key
    · simp [same]
    · simp [same, beq_eq_false_iff_ne.mpr (Ne.symm same)]

/-- A table is made of its entries, in whatever order they come. -/
theorem ofList_perm {entries : List (String × β)} {table : Table β} (listed : entries.Perm table.entries) :
    ofList entries = table := by
  have apart : (entries.reverse.map Prod.fst).Nodup := by
    rw [(((List.reverse_perm entries).trans listed).map Prod.fst).nodup_iff]
    exact table.nodup_keys
  refine Table.ext fun key => Option.ext fun value => ?_
  rw [get?_ofList, ← lookup_eq_lookup, lookup_eq_some_iff apart, List.mem_reverse, get?_eq_some_iff]
  exact listed.mem_iff

theorem get?_insertNew (table : Table β) (key other : String) (value : β) :
    (table.insertNew key value).get? other = (table.get? other).or (if key = other then some value else none) := by
  rw [insertNew, contains]
  by_cases same : key = other
  · subst same
    cases bound : table.get? key <;> simp [bound]
  · split <;> simp [get?_insert_ne, same]

theorem get?_foldl_insertNew (entries : List (String × β)) (table : Table β) (key : String) :
    (entries.foldl (fun table entry => table.insertNew entry.1 entry.2) table).get? key =
      (table.get? key).or (List.lookup key entries) := by
  induction entries generalizing table with
  | nil => simp
  | cons head rest ih =>
    obtain ⟨name, value⟩ := head
    rw [List.foldl_cons, ih, get?_insertNew, Option.or_assoc, List.lookup_cons]
    by_cases same : name = key
    · simp [same]
    · simp [same, beq_eq_false_iff_ne.mpr (Ne.symm same)]

/-- Each key is bound to the value that it is first listed with. -/
theorem get?_ofFirst (entries : List (String × β)) (key : String) :
    (ofFirst entries).get? key = List.lookup key entries := by
  rw [ofFirst, get?_foldl_insertNew, get?_empty, Option.none_or]

theorem ofList_entries (table : Table β) : ofList table.entries = table := ofList_perm (.refl _)

theorem ofList_map {γ : Type} (f : β → γ) (entries : List (String × β)) :
    ofList (entries.map fun entry => (entry.1, f entry.2)) = (ofList entries).map f := by
  have mapped : ∀ table : Table β, (entries.map fun entry => (entry.1, f entry.2)).foldl
      (fun table entry => table.insert entry.1 entry.2) (table.map f) =
        (entries.foldl (fun table entry => table.insert entry.1 entry.2) table).map f := by
    induction entries with
    | nil => exact fun _ => rfl
    | cons head rest ih =>
      intro table
      have first : (table.map f).insert head.1 (f head.2) = (table.insert head.1 head.2).map f := by
        ext key : 1
        rw [get?_map, get?_insert, get?_insert, get?_map]
        split <;> rfl
      rw [List.map_cons, List.foldl_cons, List.foldl_cons, first, ih]
  exact mapped ∅

end TokenServer.Table
