import TokenServer.Json.Record
import TokenServer.Time.Text

/-!
Sessions: on whose behalf tokens are issued, until when tokens of each kind count, and further claims.
-/

namespace TokenServer

inductive TokenKind where
  | accessToken
  | refreshToken
  | authorizeCode
  | idToken
  deriving Repr, DecidableEq

namespace TokenKind

def all : List TokenKind := [.accessToken, .refreshToken, .authorizeCode, .idToken]

def name : TokenKind → String
  | .accessToken => "access_token"
  | .refreshToken => "refresh_token"
  | .authorizeCode => "authorize_code"
  | .idToken => "id_token"

def ofName? (name : String) : Option TokenKind := all.find? (·.name = name)

@[simp] theorem ofName?_name (kind : TokenKind) : ofName? kind.name = some kind := by
  cases kind <;> decide

end TokenKind

/-- The instant at which tokens of each kind expire, where one is set. -/
structure Expiries where
  accessToken : Option Instant := none
  refreshToken : Option Instant := none
  authorizeCode : Option Instant := none
  idToken : Option Instant := none
  deriving Repr, DecidableEq

namespace Expiries

def get? (expiries : Expiries) : TokenKind → Option Instant
  | .accessToken => expiries.accessToken
  | .refreshToken => expiries.refreshToken
  | .authorizeCode => expiries.authorizeCode
  | .idToken => expiries.idToken

def set (expiries : Expiries) (kind : TokenKind) (instant : Instant) : Expiries :=
  match kind with
  | .accessToken => { expiries with accessToken := some instant }
  | .refreshToken => { expiries with refreshToken := some instant }
  | .authorizeCode => { expiries with authorizeCode := some instant }
  | .idToken => { expiries with idToken := some instant }

theorem get?_set (expiries : Expiries) (kind other : TokenKind) (instant : Instant) :
    (expiries.set kind instant).get? other =
      if kind = other then some instant else expiries.get? other := by
  cases kind <;> cases other <;> rfl

def toJson (expiries : Expiries) : Json :=
  .object (TokenKind.all.filterMap fun kind =>
    (expiries.get? kind).map fun instant => (kind.name, .string instant.render))

open Json in
/-- Every key must name a kind of token; of a repeated key the last member counts. -/
def reader : Reader Expiries := fun depth document => do
  let members ← (Reader.members .string) depth document
  members.foldlM
    (fun expiries (name, text) => do
      return expiries.set (← TokenKind.ofName? name) (← Instant.parse? text))
    {}

end Expiries

structure Session where
  subject : String := ""
  username : String := ""
  expiresAt : Expiries := {}
  extra : Table Json := ∅
  deriving Repr, DecidableEq

namespace Session

instance : Inhabited Session := ⟨{}⟩

/-- The sessions say the same; numbers among the claims are compared as numbers. -/
def isAlike (session other : Session) : Bool :=
  { session with extra := ∅ } == { other with extra := ∅ } &&
    Json.membersAlike session.extra.entries other.extra.entries

def toJson (session : Session) : Json :=
  .object [("subject", .string session.subject), ("username", .string session.username),
    ("expires_at", session.expiresAt.toJson), ("extra", .object session.extra.entries)]

open Json in
def reader : Reader Session := fun depth document => do
  let record ← Record.read? ["subject", "username", "expires_at", "extra"] depth document
  return {
    subject := ← record.withDefault "subject" "" .string
    username := ← record.withDefault "username" "" .string
    expiresAt := ← record.withDefault "expires_at" {} Expiries.reader
    extra := ← record.withDefault "extra" ∅ (.table .any) }

end Session

end TokenServer
