import TokenServer.Crypto.PasswordHash
import TokenServer.Error
import TokenServer.Settings

/-!
Hashing of client secrets. A hasher compares a candidate with what is stored; a comparison that breaks
off is something else than one that fails.
-/

namespace TokenServer

inductive ComparisonFailure where
  | refused (error : CryptoError)
  | aborted (reason : String)
  deriving Repr, DecidableEq

structure SecretHasher where
  compare : (hashed : String) → (candidate : Bytes) → Except ComparisonFailure Unit

namespace SecretHasher

/-- Compares with a hash that says itself how it was made. -/
def compareArgon2 (hashed : String) (candidate : Bytes) : Except CryptoError Unit :=
  match PasswordHash.parse? hashed with
  | none => .error (.hash "not a password hash")
  | some parsed =>
    match parsed.recipe? with
    | none => .error .secretMismatch
    | some recipe =>
      if Argon2.hash recipe.parameters candidate recipe.salt = recipe.expected then .ok ()
      else .error .secretMismatch

def argon2 : SecretHasher where
  compare hashed candidate := (compareArgon2 hashed candidate).mapError .refused

def parametersOf (cost : HashCost) : Argon2.Parameters :=
  ⟨.id, 19, cost.memory.toNat, cost.passes.toNat, cost.lanes.toNat, 32, []⟩

def hashArgon2 (cost : HashCost) (salt secret : Bytes) : Except CryptoError String :=
  let parameters := parametersOf cost
  if parameters.areSound then
    .ok (PasswordHash.render parameters salt (Argon2.hash parameters secret salt))
  else .error (.hash "unsound parameters")

def clearMark : String := "plain:"

/-- Keeps secrets in clear, for trials; with some candidates the comparison breaks off. -/
def clear (breaksOff : Bytes → Bool) : SecretHasher where
  compare hashed candidate :=
    if breaksOff candidate then .error (.aborted "candidate refused")
    else if clearMark.toList.isPrefixOf hashed.toList then
      if Utf8.encode hashed = Utf8.encode clearMark ++ candidate then .ok ()
      else .error (.refused .secretMismatch)
    else .error (.refused (.hash "not a secret in clear"))

end SecretHasher

end TokenServer
