import TokenServer.Grant.Refresh

/-!
The client credentials grant: a confidential client gets an access token on its own behalf, for scopes
that it is registered with.
-/

namespace TokenServer.ClientCredentialsGrant

def name : String := "client_credentials"

variable (authority : TokenAuthority)

def forbiddenScope? (request : TokenRequest) : Option String :=
  request.requestedScopes.find? fun scope => !request.client.scopes.contains scope

def refusal? (request : TokenRequest) : Option OAuthError :=
  if request.client.isPublic then some (.grantTypeNotPublic name)
  else if !request.client.grantTypes.contains name then some (.grantTypeNotAllowed name)
  else (forbiddenScope? request).map .scopeNotAllowed

def validate : WorkEdit TokenRequest Outcome := do
  let request ← get
  if !request.grantTypes.isExactly name then return .notApplicable
  if let some error := refusal? request then throw error
  let now ← WorkEdit.call .now
  set ((request.grantScopes request.requestedScopes).setExpiry .accessToken
    (now.plusSeconds authority.lifespans.accessSeconds))
  return .handled

def populate (request : TokenRequest) : WorkEdit TokenResponse Outcome := do
  if !request.grantTypes.isExactly name then return .notApplicable
  let access ← WorkEdit.mint .access
  WorkEdit.ofExcept .sessionFailed
    (← WorkEdit.call (.createSession .access access.signature request))
  let now ← WorkEdit.call .now
  let lifespan := authority.lifespans.accessSeconds
  modify fun response =>
    { response with
      accessToken := access.token
      tokenType := "bearer"
      expiresIn := some (request.secondsLeft .accessToken lifespan now)
      scopes := request.grantedScopes }
  return .handled

def handler : GrantHandler Work := ⟨validate authority, populate authority⟩

end TokenServer.ClientCredentialsGrant
