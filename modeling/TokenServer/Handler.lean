import TokenServer.Error
import TokenServer.TokenRequest

/-!
Handlers and how a request is passed along a list of them. Every handler sees the request as its
predecessors left it; the first error ends the walk, and what has been changed until then stays.
-/

namespace TokenServer

/-- Changes a value as it goes and may end in an error; changes made before an error stay. -/
abbrev Edit (σ : Type) (m : Type → Type) := ExceptT OAuthError (StateT σ m)

def Edit.apply {σ α : Type} {m : Type → Type} (edit : Edit σ m α) (value : σ) :
    m (Except OAuthError α × σ) :=
  StateT.run (ExceptT.run edit) value

inductive Outcome where
  | handled
  | notApplicable
  deriving Repr, DecidableEq

/-- Serves one or more grant types: first it accepts a request, then it fills the response. -/
structure GrantHandler (m : Type → Type) where
  validate : Edit TokenRequest m Outcome
  populate : TokenRequest → Edit TokenResponse m Outcome

structure MigrationHandler (m : Type → Type) where
  migrate : TokenResponse → Edit TokenRequest m Outcome

section

variable {m : Type → Type} [Monad m]

/-- A request is accepted once one handler has handled it and none has failed. -/
def validateAll (handlers : List (GrantHandler m)) : Edit TokenRequest m Unit := do
  let outcomes ← handlers.mapM (·.validate)
  if outcomes.contains .handled then return
  throw (.unsupportedGrantType (← get).grantTypes)

/-- A response must be complete once all handlers have seen it. -/
def populateAll (handlers : List (GrantHandler m)) (request : TokenRequest) :
    Edit TokenResponse m Unit := do
  let _ ← handlers.mapM (·.populate request)
  if (← get).isComplete then return
  throw .responseIncomplete

/-- Tokens are taken over once one handler has done so and none has failed. -/
def migrateAll (handlers : List (MigrationHandler m)) (response : TokenResponse) :
    Edit TokenRequest m Unit := do
  let outcomes ← handlers.mapM (·.migrate response)
  if outcomes.contains .handled then return
  throw .noHandlers

end

end TokenServer
