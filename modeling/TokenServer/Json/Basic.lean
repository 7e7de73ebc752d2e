/-!
JSON values. An object lists its members in the order in which they are written; where an object
serves as a map its keys increase strictly, which `Json.Ordered` says of a value and all its parts.
-/

namespace TokenServer

/-- A JSON value. A number that is no integer is kept as the bits of a binary64 number. -/
inductive Json where
  | null
  | bool (value : Bool)
  | int (value : Int)
  | float (bits : UInt64)
  | string (value : String)
  | array (items : List Json)
  | object (members : List (String × Json))
  deriving Repr, Inhabited

namespace Json

mutual

private def decideEq : (a b : Json) → Decidable (a = b)
  | .null, .null => isTrue rfl
  | .bool a, .bool b => decidable_of_iff (a = b) (by simp)
  | .int a, .int b => decidable_of_iff (a = b) (by simp)
  | .float a, .float b => decidable_of_iff (a = b) (by simp)
  | .string a, .string b => decidable_of_iff (a = b) (by simp)
  | .array a, .array b => match decideItemsEq a b with
    | isTrue same => isTrue (same ▸ rfl)
    | isFalse differ => isFalse (by simp [differ])
  | .object a, .object b => match decideMembersEq a b with
    | isTrue same => isTrue (same ▸ rfl)
    | isFalse differ => isFalse (by simp [differ])
  | .null, .bool _ | .null, .int _ | .null, .float _ | .null, .string _ | .null, .array _
  | .null, .object _ | .bool _, .null | .bool _, .int _ | .bool _, .float _ | .bool _, .string _
  | .bool _, .array _ | .bool _, .object _ | .int _, .null | .int _, .bool _ | .int _, .float _
  | .int _, .string _ | .int _, .array _ | .int _, .object _ | .float _, .null | .float _, .bool _
  | .float _, .int _ | .float _, .string _ | .float _, .array _ | .float _, .object _
  | .string _, .null | .string _, .bool _ | .string _, .int _ | .string _, .float _
  | .string _, .array _ | .string _, .object _ | .array _, .null | .array _, .bool _
  | .array _, .int _ | .array _, .float _ | .array _, .string _ | .array _, .object _
  | .object _, .null | .object _, .bool _ | .object _, .int _ | .object _, .float _
  | .object _, .string _ | .object _, .array _ => isFalse (by simp)

private def decideItemsEq : (a b : List Json) → Decidable (a = b)
  | [], [] => isTrue rfl
  | [], _ :: _ | _ :: _, [] => isFalse (by simp)
  | x :: xs, y :: ys => match decideEq x y, decideItemsEq xs ys with
    | isTrue same, isTrue same' => isTrue (same ▸ same' ▸ rfl)
    | isFalse differ, _ => isFalse (by simp [differ])
    | _, isFalse differ => isFalse (by simp [differ])

private def decideMembersEq : (a b : List (String × Json)) → Decidable (a = b)
  | [], [] => isTrue rfl
  | [], _ :: _ | _ :: _, [] => isFalse (by simp)
  | (k, x) :: xs, (l, y) :: ys =>
    match String.decEq k l, decideEq x y, decideMembersEq xs ys with
    | isTrue same, isTrue same', isTrue same'' => isTrue (same ▸ same' ▸ same'' ▸ rfl)
    | isFalse differ, _, _ => isFalse (by simp [differ])
    | _, isFalse differ, _ => isFalse (by simp [differ])
    | _, _, isFalse differ => isFalse (by simp [differ])

end

instance : DecidableEq Json := decideEq

mutual

/-- In the value and in each of its parts the keys of objects increase strictly. -/
def Ordered : Json → Prop
  | .array items => ItemsOrdered items
  | .object members => members.Pairwise (fun a b => a.1 < b.1) ∧ MembersOrdered members
  | _ => True

def ItemsOrdered : List Json → Prop
  | [] => True
  | item :: rest => item.Ordered ∧ ItemsOrdered rest

def MembersOrdered : List (String × Json) → Prop
  | [] => True
  | (_, value) :: rest => value.Ordered ∧ MembersOrdered rest

end

mutual

/-- The values count as the same: they are equal, up to the sign of zeros that are no integers. -/
def isAlike : Json → Json → Bool
  | .float a, .float b => Float.ofBits a == Float.ofBits b
  | .array a, .array b => itemsAlike a b
  | .object a, .object b => membersAlike a b
  | a, b => a = b

def itemsAlike : List Json → List Json → Bool
  | [], [] => true
  | x :: xs, y :: ys => x.isAlike y && itemsAlike xs ys
  | _, _ => false

def membersAlike : List (String × Json) → List (String × Json) → Bool
  | [], [] => true
  | (k, x) :: xs, (l, y) :: ys => k == l && x.isAlike y && membersAlike xs ys
  | _, _ => false

end

def get? (key : String) : Json → Option Json
  | .object members => members.lookup key
  | _ => none

def string? : Json → Option String
  | .string value => some value
  | _ => none

def int? : Json → Option Int
  | .int value => some value
  | _ => none

def items? : Json → Option (List Json)
  | .array items => some items
  | _ => none

def members? : Json → Option (List (String × Json))
  | .object members => some members
  | _ => none

def ofStrings (texts : List String) : Json := .array (texts.map .string)

end Json

end TokenServer
