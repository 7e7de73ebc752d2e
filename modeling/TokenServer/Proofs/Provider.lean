import TokenServer.Provider
import TokenServer.Proofs.Grant.ClientCredentials
import TokenServer.Proofs.Grant.Refresh
import TokenServer.Proofs.Migration
import TokenServer.Proofs.WordList

/-! What the provider with all handlers asks for. Of its two grants at most one has anything to do with a
request, so that what becomes of the request is what that grant makes of it. -/

namespace TokenServer

section

variable (first second : GrantHandler Work)

theorem apply_validateAll_pair (request : TokenRequest) :
    (validateAll [first, second]).apply request = do
      match ← first.validate.apply request with
      | (.error error, request) => return (.error error, request)
      | (.ok outcome, request) =>
        match ← second.validate.apply request with
        | (.error error, request) => return (.error error, request)
        | (.ok other, request) =>
          return (if [outcome, other].contains .handled then .ok ()
            else .error (.unsupportedGrantType request.grantTypes), request) := by
  simp only [validateAll, List.mapM_cons, List.mapM_nil, Edit.apply_bind, bind_assoc]
  congr 1
  funext result
  rcases result with ⟨error | outcome, request⟩
  · rfl
  dsimp only
  congr 1
  funext result
  rcases result with ⟨error | other, request⟩
  · rfl
  simp only [Edit.apply_pure, pure_bind]
  cases [outcome, other].contains .handled <;> rfl

theorem apply_populateAll_pair (request : TokenRequest) (response : TokenResponse) :
    (populateAll [first, second] request).apply response = do
      match ← (first.populate request).apply response with
      | (.error error, response) => return (.error error, response)
      | (.ok _, response) =>
        match ← (second.populate request).apply response with
        | (.error error, response) => return (.error error, response)
        | (.ok _, response) =>
          return (if response.isComplete then .ok () else .error .responseIncomplete, response) := by
  simp only [populateAll, List.mapM_cons, List.mapM_nil, Edit.apply_bind, bind_assoc]
  congr 1
  funext result
  rcases result with ⟨error | outcome, response⟩
  · rfl
  dsimp only
  congr 1
  funext result
  rcases result with ⟨error | other, response⟩
  · rfl
  simp only [Edit.apply_pure, Edit.apply_get, pure_bind]
  cases response.isComplete <;> rfl

theorem apply_migrateAll_single (handler : MigrationHandler Work) (response : TokenResponse)
    (request : TokenRequest) :
    (migrateAll [handler] response).apply request = do
      match ← (handler.migrate response).apply request with
      | (.error error, request) => return (.error error, request)
      | (.ok outcome, request) =>
        return (if [outcome].contains .handled then .ok () else .error .noHandlers, request) := by
  simp only [migrateAll, List.mapM_cons, List.mapM_nil, Edit.apply_bind, bind_assoc]
  congr 1
  funext result
  rcases result with ⟨error | outcome, request⟩
  · rfl
  simp only [Edit.apply_pure, pure_bind]
  cases [outcome].contains .handled <;> rfl

end

theorem HttpRequest.posted_of_requirePost {http : HttpRequest} (posted : http.requirePost = .ok ()) :
    http.method = "POST" := by
  rw [requirePost] at posted
  split at posted
  · assumption
  · cases posted

/-- A client whose credentials hold by the replies to the calls. -/
structure Authenticated (past : Transcript) (credentials : Credentials) (client : Client) : Prop where
  found : ⟨.findClient credentials.id, .ok client⟩ ∈ past
  proven : client.isPublic = true ∨
    ⟨.compareSecret client.hashedSecret credentials.secret, .ok ()⟩ ∈ past

theorem Authenticated.mono {past after : Transcript} {credentials : Credentials} {client : Client}
    (authenticated : Authenticated past credentials client) (kept : past ⊆ after) :
    Authenticated after credentials client :=
  ⟨kept authenticated.found, authenticated.proven.imp_right (kept ·)⟩

theorem Client.find_meets (id : String) (past : Transcript) :
    Attempt.Meets ⟨fun _ call => call.isWrite = false, fun past client =>
      ⟨.findClient id, .ok client⟩ ∈ past⟩ (Client.find id) past := by
  refine ⟨rfl, fun found => ?_⟩
  cases found with
  | error error => exact fun _ same => nomatch same
  | ok client =>
    intro other same
    cases same
    exact List.mem_cons_self

theorem Client.verifySecret_meets (client : Client) (secret : String) (past : Transcript) :
    Attempt.Meets ⟨fun _ call => call.isWrite = false, fun past _ =>
      ⟨.compareSecret client.hashedSecret secret, .ok ()⟩ ∈ past⟩ (Client.verifySecret client secret)
      past := by
  refine ⟨rfl, fun compared => ?_⟩
  rcases compared with (_ | _) | _
  · exact fun _ same => nomatch same
  · exact fun _ same => nomatch same
  · exact fun _ _ => List.mem_cons_self

/-- Why credentials have not held: no client was found for them, or the secret is not that of the client. -/
inductive Unauthenticated (past : Transcript) (credentials : Credentials) : Prop
  | unknown {error : StoreError} (missed : ⟨.findClient credentials.id, .error error⟩ ∈ past)
  | unproven {client : Client} {failure : ComparisonFailure}
      (found : ⟨.findClient credentials.id, .ok client⟩ ∈ past) (confidential : client.isPublic = false)
      (refused : ⟨.compareSecret client.hashedSecret credentials.secret, .error failure⟩ ∈ past)

theorem authenticate_ends (credentials : Credentials) (past : Transcript) :
    Work.Meets ⟨fun _ call => call.isWrite = false, fun past result =>
      (∃ client, result = .ok client ∧ Authenticated past credentials client) ∨
        ∃ error, result = .error error ∧ Unauthenticated past credentials⟩
      (Client.authenticate credentials).run past := by
  refine ⟨rfl, fun found => ?_⟩
  cases found with
  | error error => exact .inr ⟨_, rfl, .unknown List.mem_cons_self⟩
  | ok client =>
    change Work.Meets _ (ExceptT.run (if client.isPublic then _ else _)) _
    cases known : client.isPublic with
    | true => exact .inl ⟨client, rfl, List.mem_cons_self, .inl known⟩
    | false =>
      refine ⟨rfl, fun compared => ?_⟩
      have found : ∀ {made : Made}, ⟨.findClient credentials.id, .ok client⟩ ∈
          made :: ⟨.findClient credentials.id, .ok client⟩ :: past :=
        List.mem_cons_of_mem _ List.mem_cons_self
      rcases compared with failure | _
      · cases failure <;> exact .inr ⟨_, rfl, .unproven found known List.mem_cons_self⟩
      · exact .inl ⟨client, rfl, found, .inr List.mem_cons_self⟩

theorem authenticate_meets (credentials : Credentials) (past : Transcript) :
    Attempt.Meets ⟨fun _ call => call.isWrite = false, fun past client =>
      Authenticated past credentials client⟩ (Client.authenticate credentials) past := by
  refine (authenticate_ends credentials past).mono (fun _ _ asks => asks) ?_
  rintro past _ (⟨client, rfl, authenticated⟩ | ⟨error, rfl, _⟩) other same
  · cases same
    exact authenticated
  · cases same

namespace Provider

/-- A request as it is before its handlers see it: read from an HTTP request, its client known. -/
inductive Received (http : HttpRequest) (session : Session) (past : Transcript) : TokenRequest → Prop
  | intro {form : Table String} {id : Uuid} {now : Instant} {credentials : Credentials}
      {client : Client} (posted : http.requirePost = .ok ()) (read : http.form = .ok form)
      (presented : Credentials.ofRequest http form = .ok credentials)
      (authenticated : Authenticated past credentials client) :
      Received http session past {
        id
        requestedAt := now
        client
        requestedScopes := WordList.parse (field form "scope")
        grantTypes := WordList.parse (field form "grant_type")
        form
        session }

theorem Received.mono {http : HttpRequest} {session : Session} {past after : Transcript}
    {request : TokenRequest} (received : Received http session past request) (kept : past ⊆ after) :
    Received http session after request := by
  cases received with
  | intro posted read presented authenticated =>
    exact .intro posted read presented (authenticated.mono kept)

variable (settings : Settings) (signer : Signer)

def authority : TokenAuthority := ⟨signer, settings.lifespans⟩

/-- Why a request has been accepted, and as what. -/
inductive Accepts (http : HttpRequest) (session : Session) (past : Transcript) : TokenRequest → Prop
  | refresh {request accepted : TokenRequest} (received : Received http session past request)
      (applies : request.grantTypes.isExactly RefreshGrant.name = true)
      (judged : RefreshGrant.Judged (authority settings signer) request past (.ok .handled, accepted)) :
      Accepts http session past accepted
  | clientCredentials {request accepted : TokenRequest} (received : Received http session past request)
      (applies : request.grantTypes.isExactly ClientCredentialsGrant.name = true)
      (judged : ClientCredentialsGrant.Judged (authority settings signer) request past
        (.ok .handled, accepted)) :
      Accepts http session past accepted

theorem editing_meets {σ α : Type} {contract : Contract (α × σ)} {edit : WorkEdit σ α} {value : σ}
    {past : Transcript} (meets : WorkEdit.Meets contract edit value past) :
    Attempt.Meets contract (editing edit value) past := by
  refine Work.Meets.bind _ meets fun after result good => ?_
  rcases result with ⟨error | outcome, edited⟩
  · intro _ same
    cases same
  · intro other same
    cases same
    exact good outcome rfl

theorem other_of_refresh {request : TokenRequest}
    (applies : request.grantTypes.isExactly RefreshGrant.name = true) :
    request.grantTypes.isExactly ClientCredentialsGrant.name = false :=
  WordList.not_isExactly applies (by decide)

theorem validateAll_meets {http : HttpRequest} {session : Session} {past : Transcript}
    {request : TokenRequest} (received : Received http session past request) :
    WorkEdit.Meets ⟨fun _ call => call.isWrite = false, fun past result =>
      Accepts settings signer http session past result.2 ∧ result.2.Timed settings.lifespans past⟩
      (validateAll (standard settings signer).grants) request past := by
  rw [WorkEdit.Meets, standard, apply_validateAll_pair]
  cases applies : request.grantTypes.isExactly RefreshGrant.name with
  | true =>
    refine .bind _ (.grows (List.Subset.refl past) (RefreshGrant.validate_ends _ applies past)) ?_
    rintro after ⟨error | outcome, accepted⟩ ⟨kept, judged, timed⟩
    · intro _ same
      cases same
    · have unchanged : accepted.grantTypes = request.grantTypes := by cases judged; rfl
      have other := ClientCredentialsGrant.apply_validate_of_other (authority settings signer)
        (unchanged ▸ other_of_refresh applies)
      change Work.Meets _
        ((ClientCredentialsGrant.validate (authority settings signer)).apply accepted >>= _) after
      rw [other]
      cases judged with
      | admitted looked asked judged askedLast =>
        exact fun _ _ =>
          ⟨.refresh (received.mono kept) applies (.admitted looked asked judged askedLast), timed rfl⟩
  | false =>
    change Work.Meets _
      ((RefreshGrant.validate (authority settings signer)).apply request >>= _) past
    rw [RefreshGrant.apply_validate_of_other _ applies]
    change Work.Meets _
      ((ClientCredentialsGrant.validate (authority settings signer)).apply request >>= _) past
    cases second : request.grantTypes.isExactly ClientCredentialsGrant.name with
    | true =>
      refine .bind _ (.grows (List.Subset.refl past)
        (ClientCredentialsGrant.validate_ends _ second past)) ?_
      rintro after ⟨error | outcome, accepted⟩ ⟨kept, judged, timed⟩
      · intro _ same
        cases same
      · cases judged with
        | admitted accepts asked =>
          exact fun _ _ =>
            ⟨.clientCredentials (received.mono kept) second (.admitted accepts asked), timed rfl⟩
    | false =>
      rw [ClientCredentialsGrant.apply_validate_of_other _ second]
      intro _ same
      cases same

/-- A request is accepted for good reasons, and the last call is for the time. -/
theorem acceptRequest_ends (http : HttpRequest) (session : Session) (past : Transcript) :
    Attempt.Meets ⟨fun _ call => call.isWrite = false, fun past request =>
      Accepts settings signer http session past request ∧ request.Timed settings.lifespans past⟩
      ((standard settings signer).acceptRequest http session) past := by
  refine .bind (fun _ _ => http.requirePost = .ok ()) (.ofExcept fun _ posted => posted) ?_
  intro past _ posted
  refine .bind (fun _ form => http.form = .ok form) (.ofExcept fun _ read => read) ?_
  intro past form read
  refine .bind (fun _ request => ∃ id now, request = { id, requestedAt := now }) ?_ ?_
  · exact ⟨rfl, fun id => ⟨rfl, fun now _ same => by cases same; exact ⟨id, now, rfl⟩⟩⟩
  rintro past _ ⟨id, now, rfl⟩
  change Attempt.Meets _ (if (WordList.parse (field form "grant_type")).isEmpty then _ else _) past
  split
  · intro _ same
    cases same
  · refine .bind (fun _ credentials => Credentials.ofRequest http form = .ok credentials)
      (.ofExcept fun _ presented => presented) ?_
    intro past credentials presented
    refine .bind _ (authenticate_meets credentials past) ?_
    intro past client authenticated
    have received : Received http session past {
        id
        requestedAt := now
        client
        requestedScopes := WordList.parse (field form "scope")
        grantTypes := WordList.parse (field form "grant_type")
        form
        session } := .intro posted read presented authenticated
    have validated := editing_meets (validateAll_meets settings signer received)
    exact Attempt.Meets.bind _ validated fun past result accepts => .pure accepts

theorem acceptRequest_meets (http : HttpRequest) (session : Session) (past : Transcript) :
    Attempt.Meets ⟨fun _ call => call.isWrite = false, Accepts settings signer http session⟩
      ((standard settings signer).acceptRequest http session) past :=
  (acceptRequest_ends settings signer http session past).mono (fun _ _ asks => asks)
    fun _ _ good request same => (good request same).1

/-- The response once the one grant that applies has filled it, if it is complete. -/
def finish : Except OAuthError Outcome × TokenResponse → Except OAuthError TokenResponse
  | (.error error, _) => .error error
  | (.ok _, response) => if response.isComplete then .ok response else .error .responseIncomplete

theorem run_editing {σ α β : Type} (edit : WorkEdit σ α) (value : σ) (outcome : α × σ → β) :
    (editing edit value >>= fun result => pure (outcome result)).run =
      (fun result => result.1.map fun edited => outcome (edited, result.2)) <$> edit.apply value := by
  simp only [editing, ExceptT.run_bind, ExceptT.run_mk, bind_assoc, map_eq_pure_bind]
  congr 1
  funext result
  rcases result with ⟨error | edited, value⟩ <;> rfl

theorem run_respond (provider : Provider) (request : TokenRequest) :
    (provider.respond request).run =
      (fun result => result.1.map fun _ => result.2) <$> (populateAll provider.grants request).apply {} :=
  run_editing _ _ Prod.snd

theorem run_respond_standard (request : TokenRequest) :
    ((standard settings signer).respond request).run =
      if request.grantTypes.isExactly RefreshGrant.name then
        finish <$> (RefreshGrant.populate (authority settings signer) request).apply {}
      else finish <$> (ClientCredentialsGrant.populate (authority settings signer) request).apply {} := by
  rw [run_respond, standard, apply_populateAll_pair]
  simp only [map_eq_pure_bind, bind_assoc]
  cases applies : request.grantTypes.isExactly RefreshGrant.name with
  | true =>
    rw [if_pos rfl]
    congr 1
    funext result
    rcases result with ⟨error | outcome, response⟩
    · rfl
    · dsimp only [ClientCredentialsGrant.handler]
      rw [ClientCredentialsGrant.apply_populate_of_other _ (other_of_refresh applies)]
      change Work.done _ = Work.done _
      cases complete : response.isComplete <;> simp [finish, complete, Except.map]
  | false =>
    dsimp only [RefreshGrant.handler, ClientCredentialsGrant.handler]
    rw [RefreshGrant.apply_populate_of_other _ applies, if_neg Bool.false_ne_true]
    change (ClientCredentialsGrant.populate (authority settings signer) request).apply {} >>= _ >>= _ = _
    rw [bind_assoc]
    congr 1
    funext result
    rcases result with ⟨error | outcome, response⟩
    · rfl
    · cases complete : response.isComplete <;> simp [finish, complete, Except.map]

theorem respond_refresh_ends {request : TokenRequest}
    (applies : request.grantTypes.isExactly RefreshGrant.name = true) (before : Transcript) :
    Work.Meets ⟨RefreshGrant.Asks (authority settings signer) request before, fun past result =>
      ∃ ending, RefreshGrant.Ends (authority settings signer) request before {} past ending ∧
        result = finish ending⟩
      ((standard settings signer).respond request).run before := by
  rw [run_respond_standard, if_pos applies]
  exact .bind _ (RefreshGrant.populate_ends (authority settings signer) applies {} before)
    fun past ending ends => ⟨ending, ends, rfl⟩

theorem respond_other_ends {request : TokenRequest}
    (other : request.grantTypes.isExactly RefreshGrant.name = false) (before : Transcript) :
    Work.Meets ⟨ClientCredentialsGrant.Asks request before, fun past result =>
      (request.grantTypes.isExactly ClientCredentialsGrant.name = false ∧ past = before ∧
        result = .error .responseIncomplete) ∨
      request.grantTypes.isExactly ClientCredentialsGrant.name = true ∧
        ∃ ending, ClientCredentialsGrant.Ends (authority settings signer) request before {} past ending ∧
          result = finish ending⟩
      ((standard settings signer).respond request).run before := by
  rw [run_respond_standard, if_neg (by rw [other]; exact Bool.false_ne_true)]
  cases applies : request.grantTypes.isExactly ClientCredentialsGrant.name with
  | false =>
    rw [ClientCredentialsGrant.apply_populate_of_other _ applies]
    exact .inl ⟨rfl, rfl, rfl⟩
  | true =>
    exact .bind _ (ClientCredentialsGrant.populate_ends (authority settings signer) applies {} before)
      fun past ending ends => .inr ⟨rfl, ending, ends, rfl⟩

theorem finish_eq_ok {result : Except OAuthError Outcome × TokenResponse} {response : TokenResponse}
    (finished : finish result = .ok response) :
    result.2 = response ∧ ∃ outcome, result.1 = .ok outcome := by
  rcases result with ⟨error | outcome, filled⟩
  · cases finished
  · rw [finish] at finished
    split at finished <;> cases finished
    exact ⟨rfl, outcome, rfl⟩

theorem respond_refresh_meets {request : TokenRequest}
    (applies : request.grantTypes.isExactly RefreshGrant.name = true) (before : Transcript) :
    Attempt.Meets ⟨RefreshGrant.Asks (authority settings signer) request before,
      RefreshGrant.Fills (authority settings signer) request before {}⟩
      ((standard settings signer).respond request) before := by
  refine (respond_refresh_ends settings signer applies before).mono (fun _ _ asks => asks) ?_
  rintro past _ ⟨ending, ends, rfl⟩ response finished
  obtain ⟨rfl, outcome, good⟩ := finish_eq_ok finished
  cases ends with
  | unfilled => cases good
  | filled fills => exact fills

theorem respond_other_meets {request : TokenRequest}
    (other : request.grantTypes.isExactly RefreshGrant.name = false) (before : Transcript) :
    Attempt.Meets ⟨ClientCredentialsGrant.Asks request before, fun past response =>
      request.grantTypes.isExactly ClientCredentialsGrant.name = true ∧
        ClientCredentialsGrant.Fills (authority settings signer) request before {} past response⟩
      ((standard settings signer).respond request) before := by
  refine (respond_other_ends settings signer other before).mono (fun _ _ asks => asks) ?_
  rintro past _ (⟨_, _, rfl⟩ | ⟨applies, ending, ends, rfl⟩) response finished
  · cases finished
  · obtain ⟨rfl, outcome, good⟩ := finish_eq_ok finished
    cases ends with
    | unfilled => cases good
    | filled fills => exact ⟨applies, fills⟩

/-- The call exchanges no token. -/
def Keeps : Call → Prop
  | .exchangeSession _ _ _ _ => False
  | _ => True

end Provider

namespace Specimen

def presenting (token : String) : TokenRequest :=
  { id, requestedAt := ⟨0, 0⟩, client, grantTypes := [RefreshGrant.name]
    form := (∅ : Table String).insert RefreshGrant.name token }

def refreshPost (token : String) : HttpRequest :=
  (HttpRequest.formPost [("grant_type", "refresh_token"), ("refresh_token", token)]).withBasicAuth
    "app" "key"

def response : TokenResponse :=
  ⟨"BwgJ.BwgJ", "bearer", some 3600, ["offline", "a"],
    (∅ : Table Json).insert TokenResponse.refreshTokenKey (.string "CAkK.CAkK")⟩

end Specimen

end TokenServer
