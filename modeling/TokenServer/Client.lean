import TokenServer.Json.Record
import TokenServer.WordList

/-!
Registered clients. A public client proves its identity by nothing but its id; any other has a secret,
of which only a hash is kept.
-/

namespace TokenServer

structure Client where
  id : String
  hashedSecret : String := ""
  isPublic : Bool := false
  grantTypes : WordList := []
  scopes : WordList := []
  deriving Repr, DecidableEq

namespace Client

/-- The client that a request has before one is looked up. -/
def nobody : Client := ⟨"", "", false, [], []⟩

instance : Inhabited Client := ⟨nobody⟩

/-- An empty hash is left out. -/
def toJson (client : Client) : Json :=
  let secret :=
    if client.hashedSecret = "" then [] else [("hashed_secret", .string client.hashedSecret)]
  .object ([("id", .string client.id)] ++ secret ++
    [("public", .bool client.isPublic), ("grant_types", .ofStrings client.grantTypes),
      ("scopes", .ofStrings client.scopes)])

open Json in
def reader : Reader Client := fun depth document => do
  let record ← Record.read? ["id", "hashed_secret", "public", "grant_types", "scopes"] depth document
  return {
    id := ← record.required "id" .string
    hashedSecret := ← record.withDefault "hashed_secret" "" .string
    isPublic := ← record.withDefault "public" false .bool
    grantTypes := ← record.withDefault "grant_types" [] (.list .string)
    scopes := ← record.withDefault "scopes" [] (.list .string) }

end Client

end TokenServer
