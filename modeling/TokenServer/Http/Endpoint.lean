import TokenServer.Json.Printer
import TokenServer.Provider
import TokenServer.Schedule

/-!
The two endpoints, for tokens and for their migration, as functions from requests to answers. Work for
a request goes on behind its deadline, but then the caller is told of a failure of the server.
-/

namespace TokenServer

structure HttpAnswer where
  status : Nat
  headers : List (String × String) := []
  body : String := ""
  deriving Repr, DecidableEq

namespace HttpAnswer

def json (status : Nat) (headers : List (String × String)) (body : Json) : HttpAnswer :=
  ⟨status, ("content-type", "application/json") :: headers, body.render⟩

def notFound : HttpAnswer := ⟨404, [], ""⟩

def methodNotAllowed : HttpAnswer := ⟨405, [("allow", "POST")], ""⟩

def ofError (error : OAuthError) : HttpAnswer := .json error.status [] error.reply.toJson

/-- Responses with tokens must not be cached. -/
def ofResponse (response : TokenResponse) : HttpAnswer :=
  .json 200 [("cache-control", "no-store"), ("pragma", "no-cache")] response.toJson

def ofResult {α : Type} (answer : α → HttpAnswer) : Except OAuthError α → HttpAnswer
  | .ok value => answer value
  | .error error => ofError error

def ofAbort (reason : String) : HttpAnswer := ofError (.taskFailed reason)

def ofDeadline : HttpAnswer := ofError .deadlineExceeded

end HttpAnswer

/-- What the caller is told when the work for an answer has come to its end, or is late. -/
def Ending.answer : Ending HttpAnswer → HttpAnswer
  | .finished answer => answer
  | .aborted reason => .ofAbort reason
  | .late => .ofDeadline

/-- Has work for an answer done as a task of its own, and answers after so many milliseconds at the latest. -/
def Timeline.answerWithin {σ : Type} (surroundings : Surroundings σ) (millis : Nat) (work : Work HttpAnswer)
    (timeline : Timeline σ) : HttpAnswer × Timeline σ :=
  let (ending, timeline) := timeline.runTask surroundings millis work
  (ending.answer, timeline)

namespace Provider

variable (provider : Provider)

def answerToken (http : HttpRequest) : Work HttpAnswer := do
  let attempt : Attempt TokenResponse := do
    provider.respond (← provider.acceptRequest http {})
  return .ofResult HttpAnswer.ofResponse (← attempt.run)

def answerMigration (http : HttpRequest) : Work HttpAnswer := do
  return .ofResult (fun _ => ⟨200, [], ""⟩) (← (provider.migrate http).run)

def beforeQuery (text : List Char) : List Char := text.takeWhile fun c => c ≠ '?' ∧ c ≠ '#'

/-- What follows the scheme and the authority of a target in absolute form. -/
def behindAuthority? : List Char → Option (List Char)
  | [] => none
  | ':' :: '/' :: '/' :: rest => some (rest.dropWhile (· ≠ '/'))
  | c :: rest => if c = '/' then none else behindAuthority? rest

def pathOf (target : String) : List Char :=
  let text := beforeQuery target.toList
  (behindAuthority? text).getD text

/-- The work that answers a request, or its answer where there is nothing to be done. -/
def route (target : String) (http : HttpRequest) : Except HttpAnswer (Work HttpAnswer) :=
  let path := String.ofList (pathOf target)
  if path = "/oauth2/token" ∨ path = "/oauth2/token/migrate" then
    if http.method ≠ "POST" then .error .methodNotAllowed
    else if path = "/oauth2/token" then .ok (provider.answerToken http)
    else .ok (provider.answerMigration http)
  else .error .notFound

def deadline : Nat := provider.settings.timeout.toNat * 1000

/-- Answers a request, in the time that it may take. -/
def serve {σ : Type} (surroundings : Surroundings σ) (target : String) (http : HttpRequest)
    (timeline : Timeline σ) : HttpAnswer × Timeline σ :=
  match provider.route target http with
  | .error answer => (answer, timeline)
  | .ok work => timeline.answerWithin surroundings provider.deadline work

end Provider

end TokenServer
