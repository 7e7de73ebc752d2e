import TokenServer.Client
import TokenServer.Session
import TokenServer.Uuid

/-!
Token requests: what a client asks for and what it has been granted so far. The request that led to a
token is what the store keeps beside the token's signature.
-/

namespace TokenServer

structure TokenRequest where
  id : Uuid
  requestedAt : Instant
  client : Client := .nobody
  requestedScopes : WordList := []
  grantedScopes : WordList := []
  grantTypes : WordList := []
  form : Table String := ∅
  session : Session := {}
  deriving Repr, DecidableEq

namespace TokenRequest

def field (request : TokenRequest) (name : String) : String := (request.form.get? name).getD ""

def grantScopes (request : TokenRequest) (scopes : WordList) : TokenRequest :=
  { request with grantedScopes := request.grantedScopes.grantAll scopes }

def setExpiry (request : TokenRequest) (kind : TokenKind) (instant : Instant) : TokenRequest :=
  { request with
    session := { request.session with expiresAt := request.session.expiresAt.set kind instant } }

/-- The seconds until tokens of this kind expire, or their whole lifespan where no expiry is set. -/
def secondsLeft (request : TokenRequest) (kind : TokenKind) (lifespan : Int) (now : Instant) : Int :=
  match request.session.expiresAt.get? kind with
  | some expiry => expiry.secondsSince now
  | none => lifespan

def toJson (request : TokenRequest) : Json :=
  .object [("id", .string request.id.render), ("requested_at", .string request.requestedAt.render),
    ("client", request.client.toJson), ("requested_scopes", .ofStrings request.requestedScopes),
    ("granted_scopes", .ofStrings request.grantedScopes),
    ("grant_types", .ofStrings request.grantTypes),
    ("form", .object (request.form.map Json.string).entries), ("session", request.session.toJson)]

open Json in
def reader : Reader TokenRequest := fun depth document => do
  let record ← Record.read?
    ["id", "requested_at", "client", "requested_scopes", "granted_scopes", "grant_types", "form",
      "session"] depth document
  return {
    id := ← (← record.required "id" .string) |> Uuid.parse?
    requestedAt := ← (← record.required "requested_at" .string) |> Instant.parse?
    client := ← record.required "client" Client.reader
    requestedScopes := ← record.withDefault "requested_scopes" [] (.list .string)
    grantedScopes := ← record.withDefault "granted_scopes" [] (.list .string)
    grantTypes := ← record.withDefault "grant_types" [] (.list .string)
    form := ← record.withDefault "form" ∅ (.table .string)
    session := ← record.withDefault "session" {} Session.reader }

end TokenRequest

end TokenServer
