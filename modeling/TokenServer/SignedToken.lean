import TokenServer.Crypto.Sha512
import TokenServer.Error
import TokenServer.Text.Base64

/-!
Signed tokens: a key and its authentication code under a secret, both as base64 for addresses, with a
dot between them. The code alone is the token's signature, under which a store keeps its session.
-/

namespace TokenServer

structure SignedToken where
  token : String
  signature : String
  deriving Repr, DecidableEq

/-- Signs keys; what makes up the authentication code is left open. -/
structure Signer where
  code : (key : Bytes) → Bytes

namespace Signer

def leastSecret : Nat := 32

def keyLength : Nat := 32

def ofSecret (secret : Bytes) : Except CryptoError Signer :=
  if secret.length < leastSecret then .error (.weakSecret leastSecret secret.length)
  else .ok ⟨Sha512.hmacSha384 secret⟩

def armoured (bytes : Bytes) : List Char := Base64.urlSafe.encode bytes

def sign (signer : Signer) (key : Bytes) : SignedToken :=
  let signature := armoured (signer.code key)
  ⟨String.ofList (armoured key ++ '.' :: signature), String.ofList signature⟩

end Signer

namespace SignedToken

def parts? (token : String) : Option (List Char × List Char) :=
  match token.toList.dropWhile (· ≠ '.') with
  | _ :: signature =>
    if signature.contains '.' then none else some (token.toList.takeWhile (· ≠ '.'), signature)
  | [] => none

/-- The signature of a token, empty where the text has none. -/
def signatureOf (token : String) : String :=
  match parts? token with
  | some (_, signature) => String.ofList signature
  | none => ""

def decode (token : String) : Except TokenFault (Bytes × Bytes) :=
  match parts? token with
  | none => .error .notTwoParts
  | some (key, signature) =>
    if key.isEmpty ∨ signature.isEmpty then .error .emptyPart
    else
      match Base64.urlSafe.decode? key, Base64.urlSafe.decode? signature with
      | none, _ => .error .keyNotBase64
      | some _, none => .error .signatureNotBase64
      | some key, some signature => .ok (key, signature)

end SignedToken

/-- Accepts a token whose second part is the code of its first. -/
def Signer.validate (signer : Signer) (token : String) : Except CryptoError Unit :=
  match SignedToken.decode token with
  | .error fault => .error (.malformedToken fault)
  | .ok (key, signature) => if signer.code key = signature then .ok () else .error .signatureMismatch

end TokenServer
