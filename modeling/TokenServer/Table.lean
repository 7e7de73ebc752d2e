/-!
Tables are finite maps from text keys. The entries are kept in key order, so two tables that answer
every lookup alike are equal (`Table.ext`), and listing a table needs no further sorting.
-/

namespace TokenServer

/-- Entries in strictly increasing key order. -/
structure Table (β : Type) where
  entries : List (String × β)
  sorted : entries.Pairwise (fun a b => a.1 < b.1)
  deriving Repr, DecidableEq

namespace Table

variable {β γ : Type}

def lookup (key : String) : List (String × β) → Option β
  | [] => none
  | (k, value) :: rest => if k = key then some value else lookup key rest

/-- Puts an entry where the key order wants it, in place of one with the same key. -/
def insertEntry (key : String) (value : β) : List (String × β) → List (String × β)
  | [] => [(key, value)]
  | (k, old) :: rest =>
    if key < k then (key, value) :: (k, old) :: rest
    else if key = k then (key, value) :: rest
    else (k, old) :: insertEntry key value rest

theorem mem_insertEntry {key : String} {value : β} {entry : String × β}
    {entries : List (String × β)} (member : entry ∈ insertEntry key value entries) :
    entry = (key, value) ∨ entry ∈ entries := by
  induction entries with
  | nil => simpa [insertEntry] using member
  | cons head rest ih =>
    rw [insertEntry] at member
    split at member
    · simpa using member
    · split at member
      · simp only [List.mem_cons] at member ⊢
        exact member.imp_right .inr
      · simp only [List.mem_cons] at member ⊢
        rcases member with same | later
        · exact .inr (.inl same)
        · exact (ih later).imp_right .inr

theorem insertEntry_sorted (key : String) (value : β) {entries : List (String × β)}
    (sorted : entries.Pairwise (fun a b => a.1 < b.1)) :
    (insertEntry key value entries).Pairwise (fun a b => a.1 < b.1) := by
  induction entries with
  | nil => simp [insertEntry]
  | cons head rest ih =>
    obtain ⟨below, restSorted⟩ := List.pairwise_cons.1 sorted
    rw [insertEntry]
    split
    · next before =>
      refine List.pairwise_cons.2 ⟨fun entry member => ?_, sorted⟩
      rcases List.mem_cons.1 member with same | later
      · exact same ▸ before
      · exact String.lt_trans before (below entry later)
    · split
      · next same =>
        exact List.pairwise_cons.2 ⟨fun entry member => same ▸ below entry member, restSorted⟩
      · next notBefore differs =>
        refine List.pairwise_cons.2 ⟨fun entry member => ?_, ih restSorted⟩
        rcases mem_insertEntry member with same | later
        · subst same
          exact Classical.byContradiction fun notAfter =>
            differs (String.le_antisymm (String.not_lt.1 notAfter) (String.not_lt.1 notBefore))
        · exact below entry later

def empty : Table β := ⟨[], .nil⟩

instance : EmptyCollection (Table β) := ⟨empty⟩
instance : Inhabited (Table β) := ⟨empty⟩

def get? (table : Table β) (key : String) : Option β := lookup key table.entries

def contains (table : Table β) (key : String) : Bool := (table.get? key).isSome

def size (table : Table β) : Nat := table.entries.length

/-- Binds the key, whatever it was bound to before. -/
def insert (table : Table β) (key : String) (value : β) : Table β :=
  ⟨insertEntry key value table.entries, insertEntry_sorted key value table.sorted⟩

/-- Binds the key only where it is free. -/
def insertNew (table : Table β) (key : String) (value : β) : Table β :=
  if table.contains key then table else table.insert key value

def erase (table : Table β) (key : String) : Table β :=
  ⟨table.entries.filter (·.1 ≠ key), table.sorted.filter _⟩

def map (f : β → γ) (table : Table β) : Table γ :=
  ⟨table.entries.map (fun entry => (entry.1, f entry.2)), List.pairwise_map.2 table.sorted⟩

/-- The table of a list of entries; of two entries with one key the later counts. -/
def ofList (entries : List (String × β)) : Table β :=
  entries.foldl (fun table entry => table.insert entry.1 entry.2) ∅

/-- The table of a list of entries; of two entries with one key the earlier counts. -/
def ofFirst (entries : List (String × β)) : Table β :=
  entries.foldl (fun table entry => table.insertNew entry.1 entry.2) ∅

theorem lookup_insertEntry (key other : String) (value : β) (entries : List (String × β)) :
    lookup other (insertEntry key value entries) =
      if key = other then some value else lookup other entries := by
  induction entries with
  | nil => simp [insertEntry, lookup]
  | cons head rest ih =>
    rw [insertEntry]
    split
    · simp [lookup]
    · split <;> simp only [lookup, ih] <;> grind

@[simp] theorem get?_empty (key : String) : (∅ : Table β).get? key = none := rfl

theorem get?_insert (table : Table β) (key other : String) (value : β) :
    (table.insert key value).get? other = if key = other then some value else table.get? other :=
  lookup_insertEntry key other value table.entries

@[simp] theorem get?_insert_self (table : Table β) (key : String) (value : β) :
    (table.insert key value).get? key = some value := by
  simp [get?_insert]

theorem get?_insert_ne (table : Table β) {key other : String} (value : β) (differ : key ≠ other) :
    (table.insert key value).get? other = table.get? other := by
  simp [get?_insert, differ]

theorem get?_erase (table : Table β) (key other : String) :
    (table.erase key).get? other = if key = other then none else table.get? other := by
  simp only [get?, erase]
  induction table.entries with
  | nil => simp [lookup]
  | cons head rest ih => by_cases same : head.1 = key <;> simp [lookup, same] <;> grind

theorem lookup_map (f : β → γ) (key : String) (entries : List (String × β)) :
    lookup key (entries.map (fun entry => (entry.1, f entry.2))) = (lookup key entries).map f := by
  induction entries with
  | nil => rfl
  | cons head rest ih => by_cases same : head.1 = key <;> simp [lookup, same, ih]

theorem get?_map (f : β → γ) (table : Table β) (key : String) :
    (table.map f).get? key = (table.get? key).map f :=
  lookup_map f key table.entries

theorem lookup_eq_none {key : String} {entries : List (String × β)}
    (absent : ∀ entry ∈ entries, entry.1 ≠ key) : lookup key entries = none := by
  induction entries with
  | nil => rfl
  | cons head rest ih =>
    rw [lookup, if_neg (absent head List.mem_cons_self)]
    exact ih fun entry member => absent entry (List.mem_cons_of_mem _ member)

theorem lookup_eq_none_of_below {key : String} {entries : List (String × β)}
    (below : ∀ entry ∈ entries, key < entry.1) : lookup key entries = none :=
  lookup_eq_none fun entry member same =>
    String.lt_irrefl key (by simpa [same] using below entry member)

theorem entries_ext {first second : List (String × β)}
    (firstSorted : first.Pairwise (fun a b => a.1 < b.1))
    (secondSorted : second.Pairwise (fun a b => a.1 < b.1))
    (alike : ∀ key, lookup key first = lookup key second) : first = second := by
  induction first generalizing second with
  | nil =>
    cases second with
    | nil => rfl
    | cons head rest => simpa [lookup] using alike head.1
  | cons head rest ih =>
    cases second with
    | nil => simpa [lookup] using alike head.1
    | cons head' rest' =>
      obtain ⟨below, restSorted⟩ := List.pairwise_cons.1 firstSorted
      obtain ⟨below', restSorted'⟩ := List.pairwise_cons.1 secondSorted
      have sameKey : head.1 = head'.1 := by
        refine Classical.byContradiction fun differ => ?_
        have atHead := alike head.1
        have atHead' := alike head'.1
        simp only [lookup, if_true, if_neg differ, if_neg (Ne.symm differ)] at atHead atHead'
        rcases String.le_total head.1 head'.1 with le | le
        · have lt : head.1 < head'.1 :=
            String.not_le.1 fun ge => differ (String.le_antisymm le ge)
          rw [lookup_eq_none_of_below fun entry member =>
            String.lt_trans lt (below' entry member)] at atHead
          cases atHead
        · have lt : head'.1 < head.1 :=
            String.not_le.1 fun ge => differ (String.le_antisymm ge le)
          rw [lookup_eq_none_of_below fun entry member =>
            String.lt_trans lt (below entry member)] at atHead'
          cases atHead'
      have sameValue : head.2 = head'.2 := by
        simpa [lookup, sameKey] using alike head.1
      have sameHead : head = head' := Prod.ext sameKey sameValue
      subst sameHead
      refine congrArg _ (ih restSorted restSorted' fun key => ?_)
      by_cases same : head.1 = key
      · subst same
        rw [lookup_eq_none_of_below below, lookup_eq_none_of_below below']
      · simpa [lookup, same] using alike key

@[ext] theorem ext {first second : Table β} (alike : ∀ key, first.get? key = second.get? key) :
    first = second := by
  cases first with | mk entries sorted =>
  cases second with | mk entries' sorted' =>
  cases entries_ext sorted sorted' alike
  rfl

end Table

end TokenServer
