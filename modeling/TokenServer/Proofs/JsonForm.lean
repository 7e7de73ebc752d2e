import TokenServer.Http.Endpoint
import TokenServer.Proofs.Credentials
import TokenServer.Proofs.Json.Records
import TokenServer.Proofs.Transcript

/-! Fields that are posted as a JSON object. Of a name that repeats the last value counts there, and in a form the
first, so that the two kinds of body say the same if and only if the first and the last value of each name agree.
Requests that say the same are answered alike. -/

namespace TokenServer

namespace HttpRequest

def jsonOf (pairs : List (String × String)) : Json := .object (pairs.map fun pair => (pair.1, .string pair.2))

def jsonPost (pairs : List (String × String)) : HttpRequest :=
  ⟨"POST", [("content-type", Utf8.encode "application/json")], Utf8.encode (jsonOf pairs).render⟩

/-- The body is a JSON object with the pairs as its members, in their order and however they are spelt. -/
structure PostsJson (http : HttpRequest) (pairs : List (String × String)) : Prop where
  posted : http.method = "POST"
  declared : http.isJson = true
  spelt : ∃ text, http.body = Utf8.encode text ∧ Json.Document.parse? text.toList = some (jsonOf pairs).document

/-- The body is the pairs as a form. -/
structure PostsForm (http : HttpRequest) (pairs : List (String × String)) : Prop where
  posted : http.method = "POST"
  undeclared : http.isJson = false
  written : http.body = Form.encode pairs

theorem postsJson_jsonPost (pairs : List (String × String)) : (jsonPost pairs).PostsJson pairs := by
  have free : (jsonOf pairs).FloatFree := by
    refine Json.membersFloatFree_iff.mpr fun member listed => ?_
    obtain ⟨pair, _, rfl⟩ := List.mem_map.mp listed
    trivial
  exact ⟨rfl, rfl, _, rfl, Json.Document.parse?_render free⟩

theorem postsForm_formPost (pairs : List (String × String)) : (formPost pairs).PostsForm pairs :=
  ⟨rfl, isJson_formPost pairs, rfl⟩

variable {http other : HttpRequest} {pairs : List (String × String)}

theorem isJson_withBasicAuth (http : HttpRequest) (user password : String) :
    (http.withBasicAuth user password).isJson = http.isJson := by
  rw [isJson, headerText?, withBasicAuth, withRawBasicAuth, header?_setHeader_of_ne http (by decide), isJson,
    headerText?]

theorem PostsJson.withBasicAuth (posts : http.PostsJson pairs) (user password : String) :
    (http.withBasicAuth user password).PostsJson pairs :=
  ⟨posts.posted, (isJson_withBasicAuth http user password).trans posts.declared, posts.spelt⟩

theorem PostsForm.withBasicAuth (posts : http.PostsForm pairs) (user password : String) :
    (http.withBasicAuth user password).PostsForm pairs :=
  ⟨posts.posted, (isJson_withBasicAuth http user password).trans posts.undeclared, posts.written⟩

theorem jsonFields?_encode {text : String}
    (spelt : Json.Document.parse? text.toList = some (jsonOf pairs).document) :
    jsonFields? (Utf8.encode text) = some (.ofList pairs) := by
  have values : (Json.Reader.table .any).parse? text = some ((Table.ofList pairs).map Json.string) := by
    rw [Json.Reader.parse?, spelt, Option.bind_some, Json.Reader.table, Json.nestingLimit, jsonOf,
      Json.Reader.members_document Json.string Json.string fun _ _ => rfl, Option.map_some, Table.ofList_map]
  rw [jsonFields?, Utf8.decode_encode]
  change (Json.Reader.parse? _ text).bind _ = _
  rw [values, Option.bind_some, Table.map, List.filterMap_map]
  change some (Table.ofList ((Table.ofList pairs).entries.filterMap some)) = _
  rw [List.filterMap_some, Table.ofList_entries]

theorem PostsJson.form (posts : http.PostsJson pairs) : http.form = .ok (.ofList pairs) := by
  obtain ⟨text, body, spelt⟩ := posts.spelt
  rw [HttpRequest.form, if_pos posts.declared, body, jsonFields?_encode spelt]

theorem PostsForm.form (posts : http.PostsForm pairs) : http.form = .ok (.ofFirst pairs) := by
  rw [HttpRequest.form, posts.undeclared, if_neg Bool.false_ne_true, posts.written, Form.decode_encode]

/-- The requests say the same to the endpoints. -/
structure Alike (http other : HttpRequest) : Prop where
  method : http.method = other.method
  form : http.form = other.form
  basic : http.basicAuth? = other.basicAuth?

theorem Alike.requirePost (alike : http.Alike other) : http.requirePost = other.requirePost := by
  rw [HttpRequest.requirePost, HttpRequest.requirePost, alike.method]

end HttpRequest

namespace Provider

variable (provider : Provider) {http other : HttpRequest}

theorem acceptRequest_of_alike (alike : http.Alike other) (session : Session) :
    provider.acceptRequest http session = provider.acceptRequest other session := by
  have credentials : ∀ form, Credentials.ofRequest http form = Credentials.ofRequest other form := by
    intro form
    rw [Credentials.ofRequest, alike.basic, Credentials.ofRequest]
  simp only [acceptRequest, alike.requirePost, alike.form, credentials]

theorem migrate_of_alike (alike : http.Alike other) : provider.migrate http = provider.migrate other := by
  simp only [migrate, findMigrator, alike.requirePost, alike.form, alike.basic]

theorem route_of_alike (alike : http.Alike other) (target : String) :
    provider.route target http = provider.route target other := by
  simp only [route, answerToken, answerMigration, alike.method, provider.acceptRequest_of_alike alike,
    provider.migrate_of_alike alike]

/-- A JSON object and a form that list the same pairs are both read, the object with the last value of each name and the
form with the first. They are read alike if and only if these agree for each name, and then, with the same credentials
in the header, both endpoints go about them in the same way. -/
theorem bodies_agree_iff {json form : HttpRequest} {pairs : List (String × String)} (object : json.PostsJson pairs)
    (written : form.PostsForm pairs) :
    ∃ last first, json.form = .ok last ∧ form.form = .ok first ∧
      (∀ key, last.get? key = pairs.reverse.lookup key) ∧ (∀ key, first.get? key = pairs.lookup key) ∧
      (json.form = form.form ↔ ∀ key, pairs.lookup key = pairs.reverse.lookup key) ∧
      ((∀ key, pairs.lookup key = pairs.reverse.lookup key) → json.basicAuth? = form.basicAuth? →
        (∀ session, provider.acceptRequest json session = provider.acceptRequest form session) ∧
        provider.migrate json = provider.migrate form ∧
        ∀ target, provider.route target json = provider.route target form) := by
  have last := Table.get?_ofList pairs
  have first := Table.get?_ofFirst pairs
  have agree : json.form = form.form ↔ ∀ key, pairs.lookup key = pairs.reverse.lookup key := by
    rw [object.form, written.form, Except.ok.injEq]
    constructor
    · intro same key
      rw [← last, ← first, same]
    · intro same
      ext key : 1
      rw [last, first, same]
  refine ⟨.ofList pairs, .ofFirst pairs, object.form, written.form, last, first, agree, fun same basic => ?_⟩
  have alike : json.Alike form := ⟨object.posted.trans written.posted.symm, agree.mpr same, basic⟩
  exact ⟨provider.acceptRequest_of_alike alike, provider.migrate_of_alike alike, provider.route_of_alike alike⟩

end Provider

namespace Specimen

def robot : Client := ⟨"app", "plain:key", false, ["client_credentials"], ["a"]⟩

def robotRequest (http : HttpRequest) : Except OAuthError TokenRequest :=
  (instruments.perform ((Provider.standard {} instruments.signer).acceptRequest (http.withBasicAuth "app" "key") {}).run
    ⟨.ofClients [robot], chances, []⟩).1

end Specimen

/-- A request that names two grants is accepted as a form and refused as a JSON object. -/
theorem Provider.repeated_name_told_apart :
    let pairs := [("grant_type", "client_credentials"), ("grant_type", "password")]
    (HttpRequest.jsonPost pairs).form ≠ (HttpRequest.formPost pairs).form ∧
      (Specimen.robotRequest (.formPost pairs)).toOption.isSome = true ∧
      Specimen.robotRequest (.jsonPost pairs) = .error (.unsupportedGrantType ["password"]) := by
  decide +kernel

/-- A name that is posted twice with one value makes no difference. -/
theorem Provider.repeated_value_read_alike :
    let pairs := [("grant_type", "client_credentials"), ("scope", "a"), ("grant_type", "client_credentials")]
    Specimen.robotRequest (.jsonPost pairs) = Specimen.robotRequest (.formPost pairs) ∧
      (Specimen.robotRequest (.formPost pairs)).toOption.isSome = true := by
  intro pairs
  have object := (HttpRequest.postsJson_jsonPost pairs).withBasicAuth "app" "key"
  have written := (HttpRequest.postsForm_formPost pairs).withBasicAuth "app" "key"
  have basic : ((HttpRequest.jsonPost pairs).withBasicAuth "app" "key").basicAuth? =
      ((HttpRequest.formPost pairs).withBasicAuth "app" "key").basicAuth? := by
    rw [HttpRequest.basicAuth?_withBasicAuth, HttpRequest.basicAuth?_withBasicAuth]
  have agree : ∀ key, pairs.lookup key = pairs.reverse.lookup key := by
    intro key
    simp only [pairs, List.reverse_cons, List.reverse_nil, List.nil_append, List.cons_append, List.lookup_cons,
      List.lookup_nil]
  obtain ⟨_, _, _, _, _, _, _, decided⟩ :=
    bodies_agree_iff (standard {} Specimen.instruments.signer) object written
  refine ⟨?_, by decide +kernel⟩
  rw [Specimen.robotRequest, (decided agree basic).1 {}, Specimen.robotRequest]

end TokenServer
