import TokenServer.Json.Record
import TokenServer.Proofs.Json.Values

/-! Reading records, lists and tables from what is printed for them. A record is read by the names of its members; what
else stands among them is passed over. -/

namespace TokenServer.Json

theorem mapM_eq_some {α β γ : Type} {parts : List α} {given : α → β} {read : β → Option γ} {result : α → γ}
    (reads : ∀ part ∈ parts, read (given part) = some (result part)) :
    (parts.map given).mapM read = some (parts.map result) := by
  induction parts with
  | nil => rfl
  | cons part rest ih =>
    obtain ⟨here, later⟩ := List.forall_mem_cons.mp reads
    simp [List.mapM_cons, here, ih later]

theorem itemDocuments_eq_map (items : List Json) : itemDocuments items = items.map document := by
  induction items with
  | nil => rfl
  | cons item rest ih => rw [itemDocuments, ih, List.map_cons]

theorem memberDocuments_eq_map (members : List (String × Json)) :
    memberDocuments members = members.map fun member => (some member.1, member.2.document) := by
  induction members with
  | nil => rfl
  | cons member rest ih => rw [memberDocuments, ih, List.map_cons]

namespace Record

def printed (members : List (String × Json)) (depth : Nat) : Record where
  given := members.map fun member => (member.1, member.2.document)
  named := true
  depth := depth

theorem knownMembers?_memberDocuments (names : List String) (members : List (String × Json)) (depth : Nat) :
    knownMembers? names (memberDocuments members) =
      some (printed (members.filter fun member => names.contains member.1) depth).given := by
  induction members with
  | nil => rfl
  | cons member rest ih =>
    simp only [memberDocuments, knownMembers?, ih, Option.bind_eq_bind, Option.bind_some, List.filter_cons]
    split <;> rfl

theorem names_printed (members : List (String × Json)) (depth : Nat) :
    (printed members depth).given.map (·.1) = members.map Prod.fst := by
  rw [printed, List.map_map]
  rfl

/-- A record has the members with its names, if none of them repeats. -/
theorem ofMembers?_memberDocuments (names : List String) (members : List (String × Json)) (depth : Nat)
    (apart : ((members.filter fun member => names.contains member.1).map Prod.fst).Nodup) :
    ofMembers? names depth (memberDocuments members) =
      some (printed (members.filter fun member => names.contains member.1) depth) := by
  rw [← names_printed _ depth] at apart
  rw [ofMembers?, knownMembers?_memberDocuments names members depth]
  exact if_pos apart

/-- A record that is printed with some of its names, each at most once, is read as it is. -/
theorem read?_document {names : List String} {members : List (String × Json)} (depth : Nat)
    (known : ∀ member ∈ members, member.1 ∈ names) (apart : (members.map Prod.fst).Nodup) :
    read? names (depth + 1) (Json.object members).document = some (printed members depth) := by
  have all : (members.filter fun member => names.contains member.1) = members :=
    List.filter_eq_self.mpr fun member listed => by simpa using known member listed
  have read := ofMembers?_memberDocuments names members depth
  rw [all] at read
  exact read apart

section

variable {α : Type} {members : List (String × Json)} {depth : Nat} {name : String} {value : Json} {read : Reader α}
  {result default : α}

theorem field?_printed : (printed members depth).field? name = (members.lookup name).map document := by
  rw [field?, printed]
  induction members with
  | nil => rfl
  | cons member rest ih =>
    rw [List.map_cons, List.lookup_cons, List.lookup_cons]
    split <;> first | rfl | exact ih

theorem required_printed (found : members.lookup name = some value) (reads : read depth value.document = some result) :
    (printed members depth).required name read = some result := by
  rw [required, field?_printed, found]
  exact reads

theorem withDefault_printed (found : members.lookup name = some value)
    (reads : read depth value.document = some result) :
    (printed members depth).withDefault name default read = some result := by
  rw [withDefault, field?_printed, found]
  exact reads

theorem withDefault_absent (absent : members.lookup name = none) :
    (printed members depth).withDefault name default read = some default := by
  rw [withDefault, field?_printed, absent]
  rfl

theorem nullable_printed (found : members.lookup name = some value)
    (reads : read.nullable depth value.document = some (some result)) :
    (printed members depth).nullable name read = some (some result) := by
  rw [nullable, field?_printed, found]
  exact reads

theorem nullable_absent (absent : members.lookup name = none) :
    (printed members depth).nullable name read = some none := by
  rw [nullable, field?_printed, absent]
  rfl

end

end Record

namespace Reader

variable {α : Type}

theorem parse?_render {read : Reader α} {value : Json} (free : value.FloatFree) :
    read.parse? value.render = read nestingLimit value.document := by
  rw [parse?, Document.parse?_render free]
  rfl

theorem list_ofStrings (depth : Nat) (texts : List String) :
    (Reader.list .string) (depth + 1) (ofStrings texts).document = some texts := by
  have read : (texts.map fun text => (Json.string text).document).mapM (Reader.string depth) = some (texts.map id) :=
    mapM_eq_some fun _ _ => rfl
  rw [List.map_id] at read
  rw [ofStrings, document, itemDocuments_eq_map, List.map_map]
  exact read

section

variable {β : Type} {read : Reader α} {depth : Nat}

/-- The members of an object are read one by one. -/
theorem members_document (write : β → Json) (result : β → α) {entries : List (String × β)}
    (reads : ∀ entry ∈ entries, read depth (write entry.2).document = some (result entry.2)) :
    read.members (depth + 1) (Json.object (entries.map fun entry => (entry.1, write entry.2))).document =
      some (entries.map fun entry => (entry.1, result entry.2)) := by
  rw [document, memberDocuments_eq_map, List.map_map]
  refine mapM_eq_some fun entry listed => ?_
  simp [reads entry listed]

/-- A table is read from its entries, in whatever order they are printed. -/
theorem table_document (write : α → Json) {table : Table α} {entries : List (String × α)}
    (listed : entries.Perm table.entries)
    (reads : ∀ entry ∈ table.entries, read depth (write entry.2).document = some entry.2) :
    read.table (depth + 1) (Json.object (entries.map fun entry => (entry.1, write entry.2))).document =
      some table := by
  have members := members_document write id fun entry member => reads entry (listed.mem_iff.mp member)
  rw [Reader.table, members, Option.map_some]
  exact congrArg some (Table.ofList_perm (by simpa using listed))

end

end Reader

end TokenServer.Json
