import TokenServer.Proofs.Json.Parsing
import TokenServer.Proofs.Table

/-! Values that survive being printed and read. What may get lost are numbers that are no integers of 64 bits, objects
that promise an embedded text by their first key, and whatever is nested too deeply. -/

namespace TokenServer.Json

mutual

/-- The value and its parts hold no floating-point numbers, no integers beyond 64 bits, and no objects whose first key
is the mark of an embedded text. -/
def Faithful : Json → Prop
  | .int value => -0x8000000000000000 ≤ value ∧ value ≤ 0xFFFFFFFFFFFFFFFF
  | .float _ => False
  | .array items => ItemsFaithful items
  | .object members => (∀ member, members.head? = some member → member.1 ≠ embeddingKey) ∧ MembersFaithful members
  | _ => True

def ItemsFaithful : List Json → Prop
  | [] => True
  | item :: rest => item.Faithful ∧ ItemsFaithful rest

def MembersFaithful : List (String × Json) → Prop
  | [] => True
  | (_, value) :: rest => value.Faithful ∧ MembersFaithful rest

end

mutual

def depth : Json → Nat
  | .array items => itemsDepth items + 1
  | .object members => membersDepth members + 1
  | _ => 0

def itemsDepth : List Json → Nat
  | [] => 0
  | item :: rest => max item.depth (itemsDepth rest)

def membersDepth : List (String × Json) → Nat
  | [] => 0
  | (_, value) :: rest => max value.depth (membersDepth rest)

end

mutual

theorem Faithful.floatFree : (value : Json) → value.Faithful → value.FloatFree
  | .null, _ | .bool _, _ | .int _, _ | .string _, _ => trivial
  | .array items, faithful => ItemsFaithful.floatFree items faithful
  | .object members, faithful => MembersFaithful.floatFree members faithful.2

theorem ItemsFaithful.floatFree : (items : List Json) → ItemsFaithful items → ItemsFloatFree items
  | [], _ => trivial
  | item :: rest, faithful => ⟨Faithful.floatFree item faithful.1, ItemsFaithful.floatFree rest faithful.2⟩

theorem MembersFaithful.floatFree : (members : List (String × Json)) → MembersFaithful members →
    MembersFloatFree members
  | [], _ => trivial
  | (_, value) :: rest, faithful => ⟨Faithful.floatFree value faithful.1, MembersFaithful.floatFree rest faithful.2⟩

end

namespace NumberText

/-- As long as the number fits a word, its digits make it up. -/
theorem gatherWhole_digitValues (digits : List Char) (word : Nat)
    (fits : digits.foldl (fun value c => value * 10 + (c.toNat - '0'.toNat)) word ≤ greatestWord) :
    gatherWhole ⟨word, 0⟩ (Token.digitValues digits) =
      ⟨digits.foldl (fun value c => value * 10 + (c.toNat - '0'.toNat)) word, 0⟩ := by
  have grows : ∀ (digits : List Char) (word : Nat),
      word ≤ digits.foldl (fun value c => value * 10 + (c.toNat - '0'.toNat)) word := by
    intro digits
    induction digits with
    | nil => exact fun _ => Nat.le_refl _
    | cons c rest ih =>
      exact fun word => Nat.le_trans (show word ≤ word * 10 + (c.toNat - '0'.toNat) by omega) (ih _)
  induction digits generalizing word with
  | nil => rfl
  | cons c rest ih =>
    have first : word * 10 + (c.toNat - '0'.toNat) ≤ greatestWord := Nat.le_trans (grows rest _) fits
    rw [Token.digitValues, List.map_cons, gatherWhole, if_pos first]
    exact ih _ fits

theorem gatherWhole_decimals {n : Nat} (fits : n ≤ greatestWord) :
    gatherWhole ⟨0, 0⟩ (Token.digitValues (Digit.decimals n)) = ⟨n, 0⟩ := by
  have value : (Digit.decimals n).foldl (fun value c => value * 10 + (c.toNat - '0'.toNat)) 0 = n :=
    Digit.decimalValue_decimals
  have gathered := gatherWhole_digitValues (Digit.decimals n) 0 (value.symm ▸ fits)
  rwa [value] at gathered

theorem value?_ofInt {value : Int} (within : -0x8000000000000000 ≤ value ∧ value ≤ 0xFFFFFFFFFFFFFFFF) :
    (ofInt value).value? = some (.int value) := by
  have fits : value.natAbs ≤ greatestWord := by
    rw [greatestWord]
    omega
  have gathered : gatherWhole ⟨0, 0⟩ (ofInt value).whole = ⟨value.natAbs, 0⟩ := gatherWhole_decimals fits
  have whole : (ofInt value).fraction.isEmpty ∧ (ofInt value).exponent = none := ⟨rfl, rfl⟩
  rw [value?, if_pos whole, gathered]
  by_cases negative : value < 0
  · have sign : (ofInt value).negative = true := decide_eq_true negative
    have small : 0 < value.natAbs ∧ value.natAbs ≤ 0x8000000000000000 := by omega
    have back : -(value.natAbs : Int) = value := by omega
    simp only [sign, small, back, Bool.not_true, ne_eq, not_true_eq_false, Bool.false_eq_true, and_self, if_true,
      if_false]
  · have sign : (ofInt value).negative = false := decide_eq_false negative
    have back : (value.natAbs : Int) = value := by omega
    simp [sign, back]

end NumberText

namespace Document

variable {embedded : String → Option Json}

theorem contentOf_memberDocuments {members : List (String × Json)}
    (plain : ∀ member, members.head? = some member → member.1 ≠ embeddingKey) :
    contentOf (memberDocuments members) = .members := by
  cases members with
  | nil => rfl
  | cons member rest =>
    simp [memberDocuments, contentOf, plain member rfl]

mutual

/-- A faithful value is the value of its document, if it is not nested too deeply. -/
theorem valueWith?_document : (value : Json) → value.Ordered → value.Faithful → (depth : Nat) →
    value.depth ≤ depth → value.document.valueWith? embedded depth = some value
  | .null, _, _, _, _ => rfl
  | .bool _, _, _, _, _ => rfl
  | .int _, _, within, _, _ => NumberText.value?_ofInt within
  | .string _, _, _, _, _ => rfl
  | .array items, ordered, faithful, depth + 1, shallow => by
    have read := itemValues?_itemDocuments items ordered faithful depth (Nat.le_of_succ_le_succ shallow)
    simp [document, valueWith?, read]
  | .object members, ordered, faithful, depth + 1, shallow => by
    have read := memberValues?_memberDocuments members ordered.2 faithful.2 depth (Nat.le_of_succ_le_succ shallow)
    have same : (Table.ofList members).entries = members :=
      congrArg Table.entries (Table.ofList_entries ⟨members, ordered.1⟩)
    simp [document, valueWith?, contentOf_memberDocuments faithful.1, read, same]

theorem itemValues?_itemDocuments : (items : List Json) → ItemsOrdered items → ItemsFaithful items →
    (depth : Nat) → itemsDepth items ≤ depth → itemValues? embedded depth (itemDocuments items) = some items
  | [], _, _, _, _ => rfl
  | item :: rest, ordered, faithful, depth, shallow => by
    have bounds := Nat.max_le.mp shallow
    have first := valueWith?_document item ordered.1 faithful.1 depth bounds.1
    have others := itemValues?_itemDocuments rest ordered.2 faithful.2 depth bounds.2
    simp [itemDocuments, itemValues?, first, others]

theorem memberValues?_memberDocuments : (members : List (String × Json)) → MembersOrdered members →
    MembersFaithful members → (depth : Nat) → membersDepth members ≤ depth →
    memberValues? embedded depth (memberDocuments members) = some members
  | [], _, _, _, _ => rfl
  | (key, value) :: rest, ordered, faithful, depth, shallow => by
    have bounds := Nat.max_le.mp shallow
    have first := valueWith?_document value ordered.1 faithful.1 depth bounds.1
    have others := memberValues?_memberDocuments rest ordered.2 faithful.2 depth bounds.2
    simp [memberDocuments, memberValues?, first, others]

end

/-- The members of a map are read as they were, each to the same depth. -/
theorem valueWith?_of_mem {members : List (String × Json)} (ordered : MembersOrdered members)
    (faithful : MembersFaithful members) {depth : Nat} (shallow : membersDepth members ≤ depth) {member : String × Json}
    (listed : member ∈ members) : member.2.document.valueWith? embedded depth = some member.2 := by
  induction members with
  | nil => cases listed
  | cons head rest ih =>
    have bounds := Nat.max_le.mp shallow
    rcases List.mem_cons.mp listed with rfl | later
    · exact valueWith?_document member.2 ordered.1 faithful.1 depth bounds.1
    · exact ih ordered.2 faithful.2 bounds.2 later

end Document

end TokenServer.Json
