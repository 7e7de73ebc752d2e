import TokenServer.Json.Document
import TokenServer.Text.Integer

/-!
Readers turn documents into values of the domain. A record is given either by name, where unknown
members are passed over and a known one must not repeat, or as an array of its fields in their order.
Arrays and objects on the way to a value count against a budget; what is passed over does not.
-/

namespace TokenServer.Json

/-- Reads a document that has at most the given number of arrays and objects inside one another. -/
abbrev Reader (α : Type) := Nat → Document → Option α

namespace Reader

variable {α : Type}

def string : Reader String
  | _, .string value => value
  | _, _ => none

def bool : Reader Bool
  | _, .bool value => some value
  | _, _ => none

def integer (bounds : IntegerBounds) : Reader Int
  | _, .number number =>
    match number.value? with
    | some (.int value) => if bounds.contains value then some value else none
    | _ => none
  | _, _ => none

/-- A value, or the word null for none. -/
def nullable (read : Reader α) : Reader (Option α)
  | _, .null => some none
  | depth, document => (read depth document).map some

def any : Reader Json := fun depth document => document.value? depth

def list (read : Reader α) : Reader (List α)
  | depth + 1, .array items => items.mapM (read depth)
  | _, _ => none

def members (read : Reader α) : Reader (List (String × α))
  | depth + 1, .object members =>
    members.mapM fun (key, value) => do return (← key, ← read depth value)
  | _, _ => none

/-- An object with free keys; of a repeated key the last member counts. -/
def table (read : Reader α) : Reader (Table α) := fun depth document =>
  (read.members depth document).map Table.ofList

end Reader

structure Record where
  given : List (String × Document)
  /-- The fields are named, so that one without a value may be left out. -/
  named : Bool
  depth : Nat
  deriving Repr

namespace Record

variable {α : Type}

/-- The members with names from the list; every key must be sound. -/
def knownMembers? (names : List String) :
    List (Option String × Document) → Option (List (String × Document))
  | [] => some []
  | (key, value) :: rest => do
    let key ← key
    let known ← knownMembers? names rest
    return if names.contains key then (key, value) :: known else known

def ofMembers? (names : List String) (depth : Nat) (members : List (Option String × Document)) :
    Option Record := do
  let known ← knownMembers? names members
  if (known.map (·.1)).Nodup then some ⟨known, true, depth⟩ else none

def read? (names : List String) : Reader Record
  | depth + 1, .object members => ofMembers? names depth members
  | depth + 1, .array items =>
    if items.length ≤ names.length then some ⟨names.zip items, false, depth⟩ else none
  | _, _ => none

def field? (record : Record) (name : String) : Option Document := record.given.lookup name

def required (record : Record) (name : String) (read : Reader α) : Option α :=
  (record.field? name).bind (read record.depth)

def withDefault (record : Record) (name : String) (default : α) (read : Reader α) : Option α :=
  match record.field? name with
  | some document => read record.depth document
  | none => some default

/-- A field that may be null; only a record with names may leave it out. -/
def nullable (record : Record) (name : String) (read : Reader α) : Option (Option α) :=
  match record.field? name with
  | some document => read.nullable record.depth document
  | none => if record.named then some none else none

end Record

def Reader.parse? {α : Type} (read : Reader α) (text : String) : Option α :=
  (Document.parse? text.toList).bind (read nestingLimit)

end TokenServer.Json
