import TokenServer.Settings
import TokenServer.Work

/-!
The authority that tokens are checked by: its signer, and for how long tokens live. A token counts when
it has not expired and its signature is right, which is checked in this order.
-/

namespace TokenServer

structure TokenAuthority where
  signer : Signer
  lifespans : Lifespans := {}

namespace TokenAuthority

variable (authority : TokenAuthority)

def checkSignature (token : String) : Except TokenError Unit :=
  (authority.signer.validate token).mapError .crypto

def checkUntil (token : String) (expiry now : Instant) : Except TokenError Unit :=
  if expiry < now then .error (.expired expiry) else authority.checkSignature token

/-- Checks an access token. Where the session has no expiry it follows from the request's time. -/
def validateAccess (request : TokenRequest) (token : String) : Work (Except TokenError Unit) := do
  let expiry := (request.session.expiresAt.get? .accessToken).getD
    (request.requestedAt.plusSeconds authority.lifespans.accessSeconds)
  return authority.checkUntil token expiry (← Work.call .now)

/-- Checks a refresh token. Where the session has no expiry only the signature counts. -/
def validateRefresh (request : TokenRequest) (token : String) : Work (Except TokenError Unit) := do
  match request.session.expiresAt.get? .refreshToken with
  | some expiry => return authority.checkUntil token expiry (← Work.call .now)
  | none => return authority.checkSignature token

end TokenAuthority

end TokenServer
