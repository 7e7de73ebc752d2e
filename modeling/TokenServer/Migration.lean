import TokenServer.Grant.Refresh

/-!
Taking over tokens that were issued elsewhere: their signatures are stored with a session, so that they
count from then on. Either all tokens are stored or none is, unless undoing fails as well.
-/

namespace TokenServer.Migration

variable (authority : TokenAuthority)

def signatures (response : TokenResponse) : Except OAuthError (String × Option String) := do
  let refresh ← match response.extra.get? TokenResponse.refreshTokenKey with
    | none => .ok ""
    | some (.string token) => .ok token
    | some _ => .error .refreshTokenMalformed
  let access := SignedToken.signatureOf response.accessToken
  if access = "" then .error .accessTokenMalformed
  else if refresh = "" then .ok (access, none)
  else
    let signature := SignedToken.signatureOf refresh
    if signature = "" then .error .refreshTokenMalformed else .ok (access, some signature)

/-- Removes the access session again after the refresh session could not be stored. -/
def rollBack (access : String) (cause : StoreError) : WorkEdit TokenRequest OAuthError := do
  match ← WorkEdit.call (.deleteSession .access access) with
  | .ok () => return .storage cause
  | .error cleanup => return .rollbackFailed cause cleanup

/-- Stores the session of a refresh token; if that fails the access session is removed again. -/
def storeRefresh (access refresh : String) (now : Instant) : WorkEdit TokenRequest Unit := do
  let lifespan := authority.lifespans.refreshSeconds
  if 0 < lifespan then modify (·.setExpiry .refreshToken (now.plusSeconds lifespan))
  match ← WorkEdit.call (.createSession .refresh refresh (← get)) with
  | .ok () => return
  | .error cause => throw (← rollBack access cause)

def migrate (response : TokenResponse) : WorkEdit TokenRequest Outcome := do
  let (access, refresh) ← WorkEdit.ofExcept id (signatures response)
  let now ← WorkEdit.call .now
  modify (·.setExpiry .accessToken (now.plusSeconds authority.lifespans.accessSeconds))
  WorkEdit.ofExcept .storage (← WorkEdit.call (.createSession .access access (← get)))
  if let some refresh := refresh then storeRefresh authority access refresh now
  return .handled

def handler : MigrationHandler Work := ⟨migrate authority⟩

end TokenServer.Migration
