import TokenServer.Json.Record
import TokenServer.WordList

/-!
The answer to a token request that succeeded: the access token, how to use it and for how long, the
granted scopes, and further members such as a refresh token.
-/

namespace TokenServer

structure TokenResponse where
  accessToken : String := ""
  tokenType : String := ""
  expiresIn : Option Int := none
  scopes : WordList := []
  extra : Table Json := ∅
  deriving Repr, DecidableEq

namespace TokenResponse

instance : Inhabited TokenResponse := ⟨{}⟩

def refreshTokenKey : String := "refresh_token"

def setExtra (response : TokenResponse) (key : String) (value : Json) : TokenResponse :=
  { response with extra := response.extra.insert key value }

def refreshToken? (response : TokenResponse) : Option String :=
  (response.extra.get? refreshTokenKey).bind Json.string?

def isComplete (response : TokenResponse) : Bool :=
  response.accessToken != "" && response.tokenType != ""

/-- The fixed members come first; the expiry and the scopes are left out where there are none. -/
def toJson (response : TokenResponse) : Json :=
  let expiry := response.expiresIn.toList.map fun seconds => ("expires_in", .int seconds)
  let scope :=
    if response.scopes.isEmpty then [] else [("scope", .string response.scopes.render)]
  .object ([("access_token", .string response.accessToken),
    ("token_type", .string response.tokenType)] ++ expiry ++ scope ++ response.extra.entries)

def fixedNames : List String := ["access_token", "token_type", "expires_in", "scope"]

open Json in
/-- Reads the fixed members, which must not repeat; all others are kept. -/
def reader : Reader TokenResponse
  | depth + 1, .object members => do
    let record ← Record.ofMembers? fixedNames depth members
    let others := members.filter fun (key, _) => !(key.any fixedNames.contains)
    return {
      accessToken := ← record.required "access_token" .string
      tokenType := ← record.required "token_type" .string
      expiresIn := ← record.nullable "expires_in" (.integer .int64)
      scopes := (← record.withDefault "scope" "" .string) |> WordList.parseSpaced
      extra := ← (Reader.table .any) (depth + 1) (.object others) }
  | _, _ => none

end TokenResponse

structure ErrorReply where
  error : String
  description : Option String := none
  uri : Option String := none
  deriving Repr, DecidableEq

namespace ErrorReply

def toJson (reply : ErrorReply) : Json :=
  let optional (name : String) (value : Option String) : List (String × Json) :=
    value.toList.map fun text => (name, .string text)
  .object ([("error", .string reply.error)] ++ optional "error_description" reply.description ++
    optional "error_uri" reply.uri)

open Json in
def reader : Reader ErrorReply := fun depth document => do
  let record ← Record.read? ["error", "error_description", "error_uri"] depth document
  return {
    error := ← record.required "error" .string
    description := ← record.nullable "error_description" .string
    uri := ← record.nullable "error_uri" .string }

end ErrorReply

end TokenServer
