import Mathlib.Control.Monad.Basic
import TokenServer.Proofs.Provider

/-! Authorisation at the token endpoint: what an answer with tokens says of the request, of the client and of
what was stored. Nothing is assumed of clocks, of random sources or of failures of the store. -/

namespace TokenServer

/-- A registered client that asks for a grant of its own, known by its credentials. -/
structure Identified (hasher : SecretHasher) (store : Store) (http : HttpRequest) (form : Table String)
    (grant : String) (credentials : Credentials) (client : Client) : Prop where
  posted : http.method = "POST"
  read : http.form = .ok form
  asked : WordList.parse (Provider.field form "grant_type") = [grant]
  /-- Credentials in the header win over those in the body. -/
  presented : (match http.basicAuth? with
    | some basic => Credentials.decode basic.user basic.password .header
    | none => Credentials.decode (Provider.field form "client_id")
        (Provider.field form "client_secret") .body) = .ok credentials
  registered : store.clients.get? credentials.id = some client
  listed : grant ∈ client.grantTypes
  proven : client.isPublic = true ∨
    hasher.compare client.hashedSecret (Utf8.encode credentials.secret) = .ok ()

/-- What a client gets on its own behalf. -/
structure ClientCredentialsGrant.Granted (form : Table String) (client : Client)
    (response : TokenResponse) : Prop where
  confidential : client.isPublic = false
  scopes : response.scopes = List.eraseDups (WordList.parse (Provider.field form "scope"))
  within : ∀ scope ∈ response.scopes, scope ∈ client.scopes
  unrefreshed : response.extra.get? TokenResponse.refreshTokenKey = none

/-- What a client gets for a refresh token, at one of the given instants. -/
structure RefreshGrant.Granted (authority : TokenAuthority) (offered : Instant → Prop) (store : Store)
    (form : Table String) (client : Client) (response : TokenResponse) (session : TokenRequest) :
    Prop where
  stored : store.refresh.get? (SignedToken.signatureOf (Provider.field form name)) = some session
  owned : session.client.id = client.id
  offline : offlineScope ∈ session.grantedScopes
  signed : authority.signer.validate (Provider.field form name) = .ok ()
  unexpired : authority.lifespans.refreshSeconds ≤ 0 ∨ ∃ expiry now, offered now ∧
    session.requestedAt.plusSeconds? authority.lifespans.refreshSeconds = some expiry ∧ now ≤ expiry
  scopes : response.scopes = List.eraseDups session.grantedScopes

theorem Credentials.decoded_of_request {http : HttpRequest} {form : Table String}
    {credentials : Credentials} (presented : ofRequest http form = .ok credentials) :
    (match http.basicAuth? with
      | some basic => decode basic.user basic.password .header
      | none => decode (Provider.field form "client_id") (Provider.field form "client_secret") .body) =
        .ok credentials := by
  rw [ofRequest] at presented
  cases header : http.basicAuth? with
  | some basic =>
    rw [header] at presented
    exact presented
  | none =>
    simp only [header] at presented
    split at presented
    · cases presented
    · exact presented

theorem ClientCredentialsGrant.permitted_of_refusal {request : TokenRequest}
    (accepts : refusal? request = none) :
    request.client.isPublic = false ∧ name ∈ request.client.grantTypes ∧
      ∀ scope ∈ request.requestedScopes, scope ∈ request.client.scopes := by
  rw [refusal?] at accepts
  split at accepts
  · cases accepts
  · next confidential =>
    split at accepts
    · cases accepts
    · next listed =>
      have none_forbidden : forbiddenScope? request = none := Option.map_eq_none_iff.mp accepts
      refine ⟨by simpa using confidential, by simpa using listed, fun scope requested => ?_⟩
      simpa using List.find?_eq_none.mp none_forbidden scope requested

theorem RefreshGrant.unexpired_of_isTooOld {authority : TokenAuthority} {offered : Instant → Prop}
    {session : TokenRequest} {now : Instant} (told : offered now)
    (young : isTooOld authority session now = .ok false) :
    authority.lifespans.refreshSeconds ≤ 0 ∨ ∃ expiry now, offered now ∧
      session.requestedAt.plusSeconds? authority.lifespans.refreshSeconds = some expiry ∧
        now ≤ expiry := by
  rw [isTooOld] at young
  by_cases permanent : authority.lifespans.refreshSeconds ≤ 0
  · exact .inl permanent
  · rw [if_neg permanent] at young
    cases ends : session.requestedAt.plusSeconds? authority.lifespans.refreshSeconds with
    | none =>
      rw [ends] at young
      cases young
    | some expiry =>
      rw [ends] at young
      have before : ¬ expiry < now := by simpa using young
      exact .inr ⟨expiry, now, told, rfl, Instant.not_lt.mp before⟩

namespace Provider

variable {instruments : Instruments} {possible : Chance → Prop} {settings : Settings} {signer : Signer}
  {http : HttpRequest} {session : Session} {store after : Store} {past : Transcript}
  {request : TokenRequest}

theorem Received.identified {grant : String} (received : Received http session past request)
    (answered : Answered instruments possible store past after)
    (applies : request.grantTypes.isExactly grant = true) (listed : grant ∈ request.client.grantTypes) :
    ∃ credentials, Identified instruments.hasher store http request.form grant credentials
      request.client := by
  cases received with
  | @intro form id now credentials client posted read presented authenticated =>
    have asked : WordList.parse (field form "grant_type") = [grant] := WordList.isExactly_iff.mp applies
    have registered := answered.registered authenticated.found
    have proven : client.isPublic = true ∨
        instruments.hasher.compare client.hashedSecret (Utf8.encode credentials.secret) = .ok () :=
      authenticated.proven.imp_right answered.compared
    exact ⟨credentials, HttpRequest.posted_of_requirePost posted, read, asked,
      Credentials.decoded_of_request presented, registered, listed, proven⟩

theorem fills_of_other {stage : Stage} {response : TokenResponse}
    (other : request.grantTypes.isExactly RefreshGrant.name = false)
    (answered : (instruments.perform ((standard settings signer).respond request).run stage).1 =
      .ok response) :
    ClientCredentialsGrant.Fills (authority settings signer) request stage.calls {}
      (instruments.perform ((standard settings signer).respond request).run stage).2.calls response :=
  (Work.Meets.ended instruments (respond_other_meets settings signer other stage.calls) response answered).2

theorem fills_of_refresh {stage : Stage} {response : TokenResponse}
    (applies : request.grantTypes.isExactly RefreshGrant.name = true)
    (answered : (instruments.perform ((standard settings signer).respond request).run stage).1 =
      .ok response) :
    RefreshGrant.Fills (authority settings signer) request stage.calls {}
      (instruments.perform ((standard settings signer).respond request).run stage).2.calls response :=
  Work.Meets.ended instruments (respond_refresh_meets settings signer applies stage.calls) response answered

theorem clientCredentials_granted {before final : Transcript} {accepted : TokenRequest}
    {response : TokenResponse} (received : Received http session past request)
    (accepts : ClientCredentialsGrant.refusal? request = none)
    (same : accepted.grantedScopes = request.grantedScopes.grantAll request.requestedScopes)
    (fills : ClientCredentialsGrant.Fills (authority settings signer) accepted before {} final response) :
    ClientCredentialsGrant.Granted request.form request.client response := by
  obtain ⟨confidential, _, allowed⟩ := ClientCredentialsGrant.permitted_of_refusal accepts
  have scopes : response.scopes = List.eraseDups request.requestedScopes := by
    cases fills with
    | intro =>
      cases received with
      | intro => exact same.trans (WordList.grantAll_nil _)
  have unrefreshed : response.extra.get? TokenResponse.refreshTokenKey = none := by
    cases fills with
    | intro => rfl
  have within : ∀ scope ∈ response.scopes, scope ∈ request.client.scopes := by
    intro scope member
    rw [scopes, List.mem_eraseDups] at member
    exact allowed scope member
  cases received with
  | intro => exact ⟨confidential, scopes, within, unrefreshed⟩

theorem refresh_granted {before final : Transcript} {found accepted : TokenRequest} {now later : Instant}
    {response : TokenResponse} (received : Received http session past request)
    (answered : Answered instruments possible store past after) {offered : Instant → Prop}
    (told : ∀ chance, possible chance → offered chance.instant)
    (asking : past.Idle)
    (looked : RefreshGrant.Looked request past found now)
    (judged : RefreshGrant.judge (authority settings signer) request found now later = .ok ())
    (same : accepted.grantedScopes = request.grantedScopes.grantAll found.grantedScopes)
    (fills : RefreshGrant.Fills (authority settings signer) accepted before {} final response) :
    RefreshGrant.Granted (authority settings signer) offered store request.form request.client response
      found := by
  obtain ⟨young, offline, checked, owned⟩ := RefreshGrant.judge_eq_ok.mp judged
  have stored : store.refresh.get? (RefreshGrant.presented request) = some found :=
    answered.stored asking looked.found
  obtain ⟨chance, met, rfl⟩ := answered.told looked.asked
  have unexpired := RefreshGrant.unexpired_of_isTooOld (told chance met) young
  have scopes : response.scopes = List.eraseDups found.grantedScopes := by
    cases fills with
    | intro =>
      cases received with
      | intro => exact same.trans (WordList.grantAll_nil _)
  exact ⟨stored, owned, by simpa using offline, RefreshGrant.signed_of_check checked, unexpired, scopes⟩

/-- An answer with tokens means that a registered client has proved itself and asked by POST for one grant,
which it is registered for, and that it gets no more than the grant gives. -/
theorem authorised_of_response (instruments : Instruments) (settings : Settings) (http : HttpRequest)
    (session : Session) (store : Store) (chances : Nat → Chance) {response : TokenResponse}
    (answered : (instruments.perform ((standard settings instruments.signer).acceptRequest http session >>=
      (standard settings instruments.signer).respond).run ⟨store, chances, []⟩).1 = .ok response) :
    ∃ form grant credentials client,
      Identified instruments.hasher store http form grant credentials client ∧
        (grant = ClientCredentialsGrant.name ∧ ClientCredentialsGrant.Granted form client response ∨
          grant = RefreshGrant.name ∧ ∃ found, RefreshGrant.Granted
            (authority settings instruments.signer) (fun now => ∃ number, (chances number).instant = now)
            store form client response found) := by
  obtain ⟨accepted, middle, first, second⟩ := Attempt.performed_of_bind answered
  have told : ∀ chance, Stage.Offers ⟨store, chances, []⟩ chance →
      ∃ number, (chances number).instant = chance.instant := by
    rintro chance ⟨number, rfl⟩
    exact ⟨number, rfl⟩
  have unused : Stage.calls ⟨store, chances, []⟩ = [] := rfl
  obtain ⟨good, asking, ledTo⟩ := Work.Meets.asked instruments (fun _ _ allowed => allowed) unused
    (acceptRequest_meets settings instruments.signer http session [])
  rw [first] at good asking ledTo
  cases good accepted rfl with
  | @clientCredentials request _ received applies judged =>
    obtain ⟨accepts, sameTypes, sameScopes⟩ := judged.accepted
    have listed := (ClientCredentialsGrant.permitted_of_refusal accepts).2.1
    obtain ⟨credentials, identified⟩ := received.identified ledTo applies listed
    have other : accepted.grantTypes.isExactly RefreshGrant.name = false :=
      WordList.not_isExactly (sameTypes ▸ applies) (by decide)
    have fills := fills_of_other other second
    have granted := clientCredentials_granted received accepts sameScopes fills
    exact ⟨_, _, credentials, _, identified, .inl ⟨rfl, granted⟩⟩
  | @refresh request _ received applies judged =>
    obtain ⟨found, now, later, looked, judged, sameTypes, sameScopes⟩ := judged.accepted
    have listed : RefreshGrant.name ∈ request.client.grantTypes := by simpa using looked.listed
    obtain ⟨credentials, identified⟩ := received.identified ledTo applies listed
    have fills := fills_of_refresh (sameTypes ▸ applies) second
    have granted : RefreshGrant.Granted (authority settings instruments.signer)
        (fun now => ∃ number, (chances number).instant = now) store request.form request.client response
        found := refresh_granted received ledTo told asking looked judged sameScopes fills
    exact ⟨_, _, credentials, _, identified, .inr ⟨rfl, found, granted⟩⟩

theorem authorised_of_specimen :
    (Specimen.instruments.perform ((standard {} Specimen.instruments.signer).acceptRequest
        (Specimen.refreshPost "AQID.AQID") {} >>= (standard {} Specimen.instruments.signer).respond).run
      ⟨Specimen.store ["offline", "a", "offline"] ⟨0, 0⟩, Specimen.chances, []⟩).1 =
        .ok Specimen.response ∧
    ∃ form grant credentials client,
      Identified Specimen.instruments.hasher (Specimen.store ["offline", "a", "offline"] ⟨0, 0⟩)
          (Specimen.refreshPost "AQID.AQID") form grant credentials client ∧
        (grant = ClientCredentialsGrant.name ∧
            ClientCredentialsGrant.Granted form client Specimen.response ∨
          grant = RefreshGrant.name ∧ ∃ found, RefreshGrant.Granted
            (authority {} Specimen.instruments.signer)
            (fun now => ∃ number, (Specimen.chances number).instant = now)
            (Specimen.store ["offline", "a", "offline"] ⟨0, 0⟩) form client Specimen.response found) := by
  have answered : (Specimen.instruments.perform
      ((standard {} Specimen.instruments.signer).acceptRequest (Specimen.refreshPost "AQID.AQID") {} >>=
        (standard {} Specimen.instruments.signer).respond).run
      ⟨Specimen.store ["offline", "a", "offline"] ⟨0, 0⟩, Specimen.chances, []⟩).1 =
        .ok Specimen.response := by decide +kernel
  exact ⟨answered, authorised_of_response Specimen.instruments {} _ {} _ Specimen.chances answered⟩

end Provider

end TokenServer
