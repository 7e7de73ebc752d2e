import TokenServer.Authentication
import TokenServer.Handler
import TokenServer.TokenAuthority

/-!
The refresh token grant. A refresh token is exchanged for an access token and the next refresh token,
within the rights of the session that it was issued with. Unknown, forged and foreign tokens are
answered alike.
-/

namespace TokenServer

abbrev WorkEdit (σ : Type) := Edit σ Work

namespace WorkEdit

def call {σ : Type} (call : Call) : WorkEdit σ call.Reply :=
  ExceptT.lift (StateT.lift (Work.call call))

def lift {σ α : Type} (work : Work α) : WorkEdit σ α := ExceptT.lift (StateT.lift work)

def ofExcept {σ ε α : Type} (toError : ε → OAuthError) (result : Except ε α) : WorkEdit σ α :=
  ExceptT.mk (pure (result.mapError toError))

def mint {σ : Type} (kind : SessionKind) : WorkEdit σ SignedToken := do
  ofExcept (fun error => .mintingFailed (.crypto error)) (← call (.mint kind))

end WorkEdit

namespace RefreshGrant

def name : String := "refresh_token"

/-- The scope without which a refresh token is of no use. -/
def offlineScope : String := "offline"

variable (authority : TokenAuthority)

/-- The session of a refresh token has expired by its age, which counts if lifespans are positive. -/
def isTooOld (session : TokenRequest) (now : Instant) : Except OAuthError Bool :=
  let lifespan := authority.lifespans.refreshSeconds
  if lifespan ≤ 0 then .ok false
  else
    match session.requestedAt.plusSeconds? lifespan with
    | some expiry => .ok (expiry < now)
    -- The sum has no instant; the request is aborted rather than refused.
    | none => .error .expiryOutsideCalendar

def loadError (error : StoreError) : OAuthError :=
  if error.isNotFound then .refreshTokenInvalid else .sessionFailed error

/-- The request takes over the session, the scopes, and a new expiry of the access token. -/
def adopt (session : TokenRequest) (accessExpiry : Instant) (request : TokenRequest) : TokenRequest :=
  ({ request with
      session := session.session
      requestedScopes := session.requestedScopes }.grantScopes session.grantedScopes).setExpiry
    .accessToken accessExpiry

def validate : WorkEdit TokenRequest Outcome := do
  let request ← get
  if !request.grantTypes.isExactly name then return .notApplicable
  if !request.client.grantTypes.contains name then throw (.grantTypeNotAllowed name)
  let token := request.field name
  let session ← WorkEdit.ofExcept loadError
    (← WorkEdit.call (.findSession .refresh (SignedToken.signatureOf token)))
  let now ← WorkEdit.call .now
  if ← WorkEdit.ofExcept id (isTooOld authority session now) then throw .refreshTokenExpired
  if !session.grantedScopes.contains offlineScope then throw .offlineNotGranted
  WorkEdit.ofExcept (fun _ => .refreshTokenInvalid)
    (← WorkEdit.lift (authority.validateRefresh request token))
  if session.client.id ≠ request.client.id then throw .refreshTokenInvalid
  let now ← WorkEdit.call .now
  set (adopt session (now.plusSeconds authority.lifespans.accessSeconds) request)
  return .handled

/-- The refresh token to hand out: the presented one again if such tokens are permanent. -/
def nextToken (presented : String) : WorkEdit TokenResponse SignedToken :=
  if authority.lifespans.refreshIsPermanent then
    return ⟨presented, SignedToken.signatureOf presented⟩
  else WorkEdit.mint .refresh

def populate (request : TokenRequest) : WorkEdit TokenResponse Outcome := do
  if !request.grantTypes.isExactly name then return .notApplicable
  let access ← WorkEdit.mint .access
  let presented := request.field name
  let refresh ← nextToken authority presented
  WorkEdit.ofExcept .sessionFailed
    (← WorkEdit.call (.exchangeSession (SignedToken.signatureOf presented) access.signature
      refresh.signature request))
  let now ← WorkEdit.call .now
  let lifespan := authority.lifespans.accessSeconds
  modify fun response =>
    { response with
      accessToken := access.token
      tokenType := "bearer"
      expiresIn := some (request.secondsLeft .accessToken lifespan now)
      scopes := request.grantedScopes }.setExtra TokenResponse.refreshTokenKey (.string refresh.token)
  return .handled

def handler : GrantHandler Work := ⟨validate authority, populate authority⟩

end RefreshGrant

end TokenServer
