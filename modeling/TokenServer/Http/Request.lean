import TokenServer.Error
import TokenServer.Text.Base64
import TokenServer.Text.Blank
import TokenServer.Text.Form

/-!
HTTP requests as the endpoints see them: a method, headers and a body. The body holds named fields,
as a form or as a JSON object, and the header may name a client by the Basic scheme.
-/

namespace TokenServer

structure HttpRequest where
  method : String
  /-- Names are in lower case and may repeat. -/
  headers : List (String × Bytes)
  body : Bytes
  deriving Repr, DecidableEq

/-- A pair from a Basic authorization header; both parts are still escaped. -/
structure BasicCredentials where
  user : String
  password : String
  deriving Repr, DecidableEq

namespace HttpRequest

def formType : String := "application/x-www-form-urlencoded"

def formPost (pairs : List (String × String)) : HttpRequest :=
  ⟨"POST", [("content-type", Utf8.encode formType)], Form.encode pairs⟩

def header? (request : HttpRequest) (name : String) : Option Bytes := request.headers.lookup name

def setHeader (request : HttpRequest) (name : String) (value : Bytes) : HttpRequest :=
  { request with headers := request.headers.filter (·.1 ≠ name) ++ [(name, value)] }

def headerText? (request : HttpRequest) (name : String) : Option String :=
  (request.header? name).bind Utf8.visible?

/-- Sets the header that carries credentials as they stand. -/
def withRawBasicAuth (request : HttpRequest) (pair : Bytes) : HttpRequest :=
  request.setHeader "authorization"
    (Utf8.ascii (['B', 'a', 's', 'i', 'c', ' '] ++ Base64.standard.encode pair))

def withBasicAuth (request : HttpRequest) (user password : String) : HttpRequest :=
  request.withRawBasicAuth
    (Escape.encode (Utf8.encode user) ++ 0x3A :: Escape.encode (Utf8.encode password))

def requirePost (request : HttpRequest) : Except OAuthError Unit :=
  if request.method = "POST" then .ok () else .error (.wrongMethod request.method)

def isJson (request : HttpRequest) : Bool :=
  match request.headerText? "content-type" with
  | some type => "application/json".toList.isPrefixOf (trimStart type.toList)
  | none => false

/-- The text of a field; a list of texts is joined by spaces, and any other value is none. -/
def fieldText? : Json → Option String
  | .string text => some text
  | .array items => (items.mapM Json.string?).map (" ".intercalate ·)
  | _ => none

/-- The fields of a JSON object; of a repeated name the last counts. -/
def jsonFields? (body : Bytes) : Option (Table String) := do
  let text ← (Utf8.decode body).toOption
  let values ← (Json.Reader.table .any).parse? text
  return .ofList (values.entries.filterMap fun (name, value) => (fieldText? value).map (name, ·))

/-- The fields of the body; of a repeated name in a form the first counts. -/
def form (request : HttpRequest) : Except OAuthError (Table String) :=
  if request.isJson then
    match jsonFields? request.body with
    | some fields => .ok fields
    | none => .error .unreadableBody
  else .ok (.ofFirst (Form.decode request.body))

def splitOnce? (mark : Char) (text : List Char) : Option (List Char × List Char) :=
  match text.dropWhile (· ≠ mark) with
  | _ :: rest => some (text.takeWhile (· ≠ mark), rest)
  | [] => none

def userAndPassword? (encoded : List Char) : Option BasicCredentials := do
  let text ← (Utf8.decode (← Base64.standard.decode? encoded)).toOption
  let (user, password) ← splitOnce? ':' text.toList
  return ⟨String.ofList user, String.ofList password⟩

/-- The credentials of the Basic scheme, whose name may be in any case. -/
def basicAuth? (request : HttpRequest) : Option BasicCredentials := do
  let value ← request.headerText? "authorization"
  let (scheme, encoded) ← splitOnce? ' ' (trim value.toList)
  guard (scheme.map Char.toLower = ['b', 'a', 's', 'i', 'c'])
  userAndPassword? (trim encoded)

end HttpRequest

end TokenServer
