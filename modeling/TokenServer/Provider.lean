import TokenServer.Grant.ClientCredentials
import TokenServer.Migration

/-!
The provider reads requests, authenticates their clients and passes them to its handlers.
-/

namespace TokenServer

structure Provider where
  settings : Settings := {}
  grants : List (GrantHandler Work) := []
  migrations : List (MigrationHandler Work) := []

namespace Provider

def standard (settings : Settings) (signer : Signer) : Provider :=
  let authority : TokenAuthority := ⟨signer, settings.lifespans⟩
  { settings
    grants := [RefreshGrant.handler authority, ClientCredentialsGrant.handler authority]
    migrations := [Migration.handler authority] }

def freshRequest : Attempt TokenRequest := do
  return { id := ← Attempt.call .freshId, requestedAt := ← Attempt.call .now }

def field (form : Table String) (name : String) : String := (form.get? name).getD ""

def editing {σ α : Type} (edit : WorkEdit σ α) (value : σ) : Attempt (α × σ) :=
  ExceptT.mk do
    let (result, value) ← edit.apply value
    return result.map (·, value)

variable (provider : Provider)

def acceptRequest (http : HttpRequest) (session : Session) : Attempt TokenRequest := do
  Attempt.ofExcept id http.requirePost
  let form ← Attempt.ofExcept id http.form
  let request ← freshRequest
  let request := { request with
    session
    requestedScopes := WordList.parse (field form "scope")
    grantTypes := WordList.parse (field form "grant_type") }
  if request.grantTypes.isEmpty then throw .noGrantType
  let credentials ← Attempt.ofExcept .credentials (Credentials.ofRequest http form)
  let client ← Client.authenticate credentials
  let (_, request) ← editing (validateAll provider.grants) { request with form, client }
  return request

def respond (request : TokenRequest) : Attempt TokenResponse := do
  let (_, response) ← editing (populateAll provider.grants request) {}
  return response

/-- The id and secret of the client that a migrated token was issued to. -/
def ownerCredentials (encoded : String) : Except OAuthError Credentials :=
  if encoded = "" then .error .ownerMissing
  else
    match (Base64.standard.decode? encoded.toList).map Utf8.decode with
    | some (.ok pair) =>
      match HttpRequest.splitOnce? ':' pair.toList with
      | some (id, secret) =>
        (Credentials.decode (String.ofList id) (String.ofList secret) .body).mapError .credentials
      | none => .error .ownerNotPair
    | _ => .error .ownerNotBase64

def findMigrator (http : HttpRequest) : Attempt Client := do
  let some basic := http.basicAuth? | throw .authorizationMissing
  let credentials ← Attempt.ofExcept .credentials
    (Credentials.decode basic.user basic.password .header)
  let migrator ← Client.find credentials.id
  if migrator.isPublic then throw .migratorPublic
  Client.verifySecret migrator credentials.secret
  let scope := provider.settings.migrationScope
  if !migrator.scopes.contains scope then throw (.migrationScopeMissing scope)
  return migrator

/-- The client that the migrated tokens were issued to; its secret is checked if one is given. -/
def findOwner (form : Table String) : Attempt (Client × String) := do
  let owner ← Attempt.ofExcept id (ownerCredentials (field form "client"))
  let client ← Client.find owner.id
  if owner.secret ≠ "" ∧ !client.isPublic then Client.verifySecret client owner.secret
  return (client, owner.id)

/-- A token without a dot becomes the signature of a token without a key. -/
def dotted (token : String) : String :=
  if token.toList.contains '.' then token else "." ++ token

def migratedKey : String := "migrated"

/-- The request of which a migrated token is taken to be the result. -/
def migratedRequest (request : TokenRequest) (client : Client) (id : String) (form : Table String) :
    TokenRequest :=
  { request with
    requestedScopes := client.scopes
    grantedScopes := WordList.parseSpaced (field form "scope")
    client
    session :=
      { subject := id
        username := field form "username"
        extra := (∅ : Table Json).insert migratedKey (.bool true) }
    form }

/-- The response by which migrated tokens are taken to have been issued. -/
def migratedResponse (token refreshToken : String) : TokenResponse :=
  let response : TokenResponse := { accessToken := dotted token }
  let response :=
    if refreshToken = "" then response
    else response.setExtra TokenResponse.refreshTokenKey (.string (dotted refreshToken))
  response.setExtra migratedKey (.bool true)

def migrate (http : HttpRequest) : Attempt Unit := do
  Attempt.ofExcept id http.requirePost
  let form ← Attempt.ofExcept id http.form
  let token := field form "token"
  if token = "" then throw .migratedTokenMissing
  let _ ← provider.findMigrator http
  let (client, id) ← findOwner form
  let request ← freshRequest
  let response := migratedResponse token (field form "refresh_token")
  let _ ← editing (migrateAll provider.migrations response) (migratedRequest request client id form)
  return

end Provider

end TokenServer
