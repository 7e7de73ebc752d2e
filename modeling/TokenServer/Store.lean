import TokenServer.Table
import TokenServer.Work

/-!
The store: registered clients, and the sessions of access and of refresh tokens under their signatures.
-/

namespace TokenServer

structure Store where
  clients : Table Client := ∅
  access : Table TokenRequest := ∅
  refresh : Table TokenRequest := ∅
  deriving Repr, DecidableEq

namespace Store

instance : Inhabited Store := ⟨{}⟩

/-- A store with clients; of two with one id the later counts. -/
def ofClients (clients : List Client) : Store :=
  { clients := .ofList (clients.map fun client => (client.id, client)) }

def insertClient (store : Store) (client : Client) : Store :=
  { store with clients := store.clients.insert client.id client }

def findClient (store : Store) (id : String) : Except StoreError Client :=
  match store.clients.get? id with
  | some client => .ok client
  | none => .error (.notFound "client" id)

def sessions (store : Store) : SessionKind → Table TokenRequest
  | .access => store.access
  | .refresh => store.refresh

def withSessions (store : Store) (kind : SessionKind) (sessions : Table TokenRequest) : Store :=
  match kind with
  | .access => { store with access := sessions }
  | .refresh => { store with refresh := sessions }

def noSession (kind : SessionKind) (signature : String) : StoreError :=
  match kind with
  | .access => .notFound "access token session" signature
  | .refresh => .notFound "refresh token session" signature

def findSession (store : Store) (kind : SessionKind) (signature : String) :
    Except StoreError TokenRequest :=
  match (store.sessions kind).get? signature with
  | some request => .ok request
  | none => .error (noSession kind signature)

/-- Stores a session, whatever was stored under its signature before. -/
def createSession (store : Store) (kind : SessionKind) (signature : String) (request : TokenRequest) :
    Store :=
  store.withSessions kind ((store.sessions kind).insert signature request)

def deleteSession (store : Store) (kind : SessionKind) (signature : String) :
    Except StoreError Unit × Store :=
  if (store.sessions kind).contains signature then
    (.ok (), store.withSessions kind ((store.sessions kind).erase signature))
  else (.error (noSession kind signature), store)

/-- Replaces a refresh session, which must be there, by an access and a refresh session. -/
def exchangeSession (store : Store) (presented access refresh : String) (request : TokenRequest) :
    Except StoreError Unit × Store :=
  if store.refresh.contains presented then
    (.ok (), { store with
      access := store.access.insert access request
      refresh := (store.refresh.erase presented).insert refresh request })
  else (.error (noSession .refresh presented), store)

end Store

end TokenServer
