import TokenServer.Crypto.Argon2
import TokenServer.Text.Base64
import TokenServer.Text.Integer

/-!
Hashed passwords as text: an algorithm, a version, parameters, a salt and a hash, each behind a dollar
sign. Of these only the algorithm must be there. A text of the right form may still be of no use to
check a password with (`PasswordHash.recipe?`).
-/

namespace TokenServer

structure PasswordHash where
  algorithm : String
  version : Option Nat := none
  /-- Names and values in their order; a name may repeat. -/
  parameters : List (String × List Char) := []
  salt : Option (List Char) := none
  hash : Option Bytes := none
  deriving Repr, DecidableEq

structure HashRecipe where
  parameters : Argon2.Parameters
  salt : Bytes
  expected : Bytes
  deriving Repr, DecidableEq

namespace Base64

/-- The common variant without padding. -/
def bare : Base64 := ⟨'+', '/', false⟩

end Base64

namespace PasswordHash

def isNameLetter (c : Char) : Bool := c.isLower || c.isDigit || c == '-'

def isValueLetter (c : Char) : Bool := c.isAlphanum || c == '/' || c == '+' || c == '.' || c == '-'

def isName (text : List Char) : Bool :=
  1 ≤ text.length && text.length ≤ 32 && text.all isNameLetter

def isValue (text : List Char) : Bool := text.length ≤ 64 && text.all isValueLetter

/-- A number without leading zeros. -/
def decimal? (text : List Char) : Option Nat := do
  guard (text.all Char.isDigit ∧ (text.head? ≠ some '0' ∨ text = ['0']))
  let value ← (IntegerBounds.nat32.read text).toOption
  return value.toNat

def parameter? (text : List Char) : Option (String × List Char) := do
  match text.splitOn '=' with
  | [name, value] =>
    guard (isName name ∧ isValue value)
    return (String.ofList name, value)
  | _ => none

def parameters? (text : List Char) : Option (List (String × List Char)) := do
  guard ((Utf8.encode (String.ofList text)).length ≤ 127)
  (text.splitOn ',').mapM parameter?

def salt? (text : List Char) : Option (List Char) :=
  if 4 ≤ text.length ∧ text.length ≤ 64 ∧ isValue text then some text else none

def hash? (text : List Char) : Option Bytes := do
  let bytes ← Base64.bare.decode? text
  if 10 ≤ bytes.length ∧ bytes.length ≤ 64 then some bytes else none

def takeVersion? (hash : PasswordHash) : List (List Char) → Option (PasswordHash × List (List Char))
  | [] => some (hash, [])
  | field :: rest =>
    match field with
    | 'v' :: '=' :: value =>
      if value.contains ',' then some (hash, field :: rest)
      else do
        guard (isValue value)
        return ({ hash with version := some (← decimal? value) }, rest)
    | _ => some (hash, field :: rest)

def takeParameters? (hash : PasswordHash) : List (List Char) → Option (PasswordHash × List (List Char))
  | [] => some (hash, [])
  | field :: rest =>
    if field.contains '=' then do
      return ({ hash with parameters := ← parameters? field }, rest)
    else some (hash, field :: rest)

def parse? (text : String) : Option PasswordHash := do
  match text.toList.splitOn '$' with
  | [] :: algorithm :: fields =>
    guard (isName algorithm)
    let hash : PasswordHash := { algorithm := String.ofList algorithm }
    let (hash, fields) ← takeVersion? hash fields
    let (hash, fields) ← takeParameters? hash fields
    match fields with
    | [] => return hash
    | [salt] => return { hash with salt := some (← salt? salt) }
    | [salt, digest] => return { hash with salt := some (← salt? salt), hash := some (← hash? digest) }
    | _ => none
  | _ => none

def variant? (algorithm : String) : Option Argon2.Variant :=
  if algorithm = "argon2d" then some .d
  else if algorithm = "argon2i" then some .i
  else if algorithm = "argon2id" then some .id
  else none

def applyParameter? (parameters : Argon2.Parameters) (name : String) (value : List Char) :
    Option Argon2.Parameters :=
  if name = "m" then (decimal? value).map ({ parameters with memory := · })
  else if name = "t" then (decimal? value).map ({ parameters with passes := · })
  else if name = "p" then (decimal? value).map ({ parameters with lanes := · })
  else if name = "keyid" then do
    guard ((← Base64.bare.decode? value).length ≤ 8)
    return parameters
  else if name = "data" then do
    let bytes ← Base64.bare.decode? value
    guard (bytes.length ≤ 32)
    return { parameters with associated := bytes }
  else none

/-- How a candidate is to be hashed; parameters that are not given have their usual values. -/
def recipe? (hash : PasswordHash) : Option HashRecipe := do
  let expected ← hash.hash
  let salt ← Base64.bare.decode? (← hash.salt)
  guard (8 ≤ salt.length)
  let variant ← variant? hash.algorithm
  let version := hash.version.getD 19
  guard (version = 16 ∨ version = 19)
  let parameters ← hash.parameters.foldlM
    (fun parameters (name, value) => applyParameter? parameters name value)
    (⟨variant, version, 19456, 2, 1, expected.length, []⟩ : Argon2.Parameters)
  guard parameters.areSound
  return ⟨parameters, salt, expected⟩

def render (parameters : Argon2.Parameters) (salt hash : Bytes) : String :=
  let variant := match parameters.variant with
    | .d => "argon2d"
    | .i => "argon2i"
    | .id => "argon2id"
  let encoded (bytes : Bytes) : String := String.ofList (Base64.bare.encode bytes)
  s!"${variant}$v={parameters.version}$m={parameters.memory},t={parameters.passes}" ++
    s!",p={parameters.lanes}${encoded salt}${encoded hash}"

end PasswordHash

end TokenServer
