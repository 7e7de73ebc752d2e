import TokenServer.Http.Credentials
import TokenServer.Work

/-!
Authentication of clients. That a client is unknown, that its secret is wrong and that it cannot be
looked up are all answered alike.
-/

namespace TokenServer

abbrev Attempt := ExceptT OAuthError Work

namespace Attempt

def call (call : Call) : Attempt call.Reply := ExceptT.lift (Work.call call)

def ofExcept {ε α : Type} (toError : ε → OAuthError) (result : Except ε α) : Attempt α :=
  ExceptT.mk (pure (result.mapError toError))

end Attempt

namespace Client

def find (id : String) : Attempt Client := do
  Attempt.ofExcept (fun _ => .authenticationFailed) (← Attempt.call (.findClient id))

def verifySecret (client : Client) (secret : String) : Attempt Unit := do
  match ← Attempt.call (.compareSecret client.hashedSecret secret) with
  | .ok () => return
  | .error (.refused _) => throw .authenticationFailed
  | .error (.aborted reason) => throw (.comparisonAborted reason)

/-- The client that the credentials belong to; a public client needs no secret. -/
def authenticate (credentials : Credentials) : Attempt Client := do
  let client ← find credentials.id
  unless client.isPublic do verifySecret client credentials.secret
  return client

end Client

end TokenServer
