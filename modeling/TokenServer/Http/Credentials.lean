import TokenServer.Http.Request

/-!
The credentials that a client presents. Both parts are escaped like the fields of a form. A Basic
authorization header wins over the fields of the body.
-/

namespace TokenServer

structure Credentials where
  id : String
  secret : String
  deriving Repr, DecidableEq

namespace Credentials

def decodePart (part : CredentialPart) (location : CredentialLocation) (raw : String) :
    Except CredentialsError String :=
  (Escape.unescape raw).mapError fun _ => .malformed part location

def decode (id secret : String) (location : CredentialLocation) :
    Except CredentialsError Credentials := do
  let id ← decodePart .clientId location id
  let secret ← decodePart .clientSecret location secret
  return ⟨id, secret⟩

def ofRequest (request : HttpRequest) (form : Table String) : Except CredentialsError Credentials :=
  match request.basicAuth? with
  | some basic => decode basic.user basic.password .header
  | none =>
    let id := (form.get? "client_id").getD ""
    if id = "" then .error .missing else decode id ((form.get? "client_secret").getD "") .body

end Credentials

end TokenServer
