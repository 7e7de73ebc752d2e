import TokenServer.Proofs.Effect

/-! One exchange of a refresh token: when it succeeds, and what is stored for the token that it hands out. -/

namespace TokenServer

/-- A request that presents a refresh token, and the credentials that it comes with. -/
structure Presentation (http : HttpRequest) (form : Table String) (credentials : Credentials) (token : String) :
    Prop where
  posted : http.requirePost = .ok ()
  read : http.form = .ok form
  asked : WordList.parse (Provider.field form "grant_type") = [RefreshGrant.name]
  presented : Credentials.ofRequest http form = .ok credentials
  token : Provider.field form RefreshGrant.name = token

theorem RefreshGrant.Next.idle {authority : TokenAuthority} {request : TokenRequest} {before past : Transcript}
    {token : SignedToken} (next : Next authority request before past token) (idle : before.Idle) :
    past.Idle := by
  cases next with
  | kept => exact idle
  | minted => exact List.forall_mem_cons.mpr ⟨rfl, idle⟩

theorem RefreshGrant.Fills.scopes {authority : TokenAuthority} {request : TokenRequest} {before past : Transcript}
    {blank response : TokenResponse} (fills : Fills authority request before blank past response) :
    response.scopes = request.grantedScopes := by
  cases fills
  rfl

namespace Provider

variable (settings : Settings) (signer : Signer) {http : HttpRequest} {form : Table String}
  {credentials : Credentials} {token : String}

theorem validateAll_refresh_ends {request : TokenRequest}
    (applies : request.grantTypes.isExactly RefreshGrant.name = true) (past : Transcript) :
    Work.Meets ⟨fun _ call => call.isWrite = false, fun past result => ∃ ending,
      RefreshGrant.Judged (authority settings signer) request past ending ∧
        result = (ending.1.map fun _ => (), ending.2)⟩
      ((validateAll (standard settings signer).grants).apply request) past := by
  rw [standard, apply_validateAll_pair]
  refine .bind _ (RefreshGrant.validate_meets (authority settings signer) applies past) ?_
  rintro after ⟨error | outcome, accepted⟩ judged
  · exact ⟨_, judged, rfl⟩
  · have unchanged : accepted.grantTypes = request.grantTypes := by cases judged; rfl
    have other := ClientCredentialsGrant.apply_validate_of_other (authority settings signer)
      (unchanged ▸ other_of_refresh applies)
    change Work.Meets _
      ((ClientCredentialsGrant.validate (authority settings signer)).apply accepted >>= _) after
    rw [other]
    refine ⟨_, judged, ?_⟩
    cases judged
    rfl

def received (form : Table String) (session : Session) (id : Uuid) (now : Instant) (client : Client) :
    TokenRequest :=
  { id
    requestedAt := now
    client
    requestedScopes := WordList.parse (field form "scope")
    grantTypes := WordList.parse (field form "grant_type")
    form
    session }

theorem acceptRequest_refresh_ends (presentation : Presentation http form credentials token) (session : Session)
    (past : Transcript) :
    Work.Meets ⟨fun _ call => call.isWrite = false, fun past result =>
      (∃ error, result = .error error ∧ Unauthenticated past credentials) ∨
        ∃ client id now ending, Authenticated past credentials client ∧ ⟨.now, now⟩ ∈ past ∧
          RefreshGrant.Judged (authority settings signer) (received form session id now client) past
            ending ∧
          result = ending.1.map fun _ => ending.2⟩
      ((standard settings signer).acceptRequest http session).run past := by
  obtain ⟨posted, read, asked, presented, rfl⟩ := presentation
  rw [acceptRequest, posted, read]
  refine ⟨rfl, fun id => ⟨rfl, fun now => ?_⟩⟩
  have nonempty : (WordList.parse (field form "grant_type")).isEmpty = false := by rw [asked]; rfl
  change Work.Meets _ (ExceptT.run (if (WordList.parse (field form "grant_type")).isEmpty then _ else _)) _
  rw [nonempty, presented]
  change Work.Meets _ (ExceptT.run (Client.authenticate credentials >>= _)) _
  rw [ExceptT.run_bind]
  refine .bind _ (.grows (List.Subset.refl _) (authenticate_ends credentials _)) ?_
  rintro past result ⟨grown, ⟨client, rfl, authenticated⟩ | ⟨error, rfl, unauthenticated⟩⟩
  · have applies : (received form session id now client).grantTypes.isExactly RefreshGrant.name = true :=
      WordList.isExactly_iff.mpr asked
    change Work.Meets _ (ExceptT.run (editing (validateAll (standard settings signer).grants)
      (received form session id now client) >>= fun result => pure result.2)) past
    rw [run_editing]
    refine .bind _ (.grows (List.Subset.refl _) (validateAll_refresh_ends settings signer applies past)) ?_
    rintro after _ ⟨grownOn, ending, judged, rfl⟩
    have asked : ⟨.now, now⟩ ∈ after := grownOn (grown List.mem_cons_self)
    refine .inr ⟨client, id, now, ending, authenticated.mono grownOn, asked, judged, ?_⟩
    rcases ending with ⟨error | outcome, accepted⟩ <;> rfl
  · exact .inl ⟨error, rfl, unauthenticated⟩

variable {settings} in
/-- While no call fails, a request whose token has a session is answered. -/
theorem answered_of_stored {instruments : Instruments} {origin : Store} {stage : Stage}
    {request session : TokenRequest} (applies : request.grantTypes.isExactly RefreshGrant.name = true)
    (stored : origin.refresh.get? (RefreshGrant.presented request) = some session) (idle : stage.calls.Idle)
    (answered : Answered instruments (·.failure = none) origin stage.calls stage.store)
    (offered : ∀ chance, stage.Offers chance → chance.failure = none) :
    ∃ response,
      (instruments.perform ((standard settings instruments.signer).respond request).run stage).1 =
        .ok response := by
  have led := instruments.perform_answered ((standard settings instruments.signer).respond request).run offered
    answered
  rcases respond_refresh_effect settings applies (answered.weaken fun _ _ => trivial) with
    ⟨error, failed, _, unfilled⟩ | ⟨_, _, response, done, _⟩
  · generalize (instruments.perform ((standard settings instruments.signer).respond request).run stage).2.calls
      = calls at *
    cases unfilled with
    | accessUnmade | refreshUnmade =>
      obtain ⟨_, _, made⟩ := led.made List.mem_cons_self
      cases made
    | refused next =>
      -- The last call has found the session gone, but nothing has been written since it was found.
      obtain ⟨before, chance, earlier, met, reply⟩ := led.head
      have unwritten : before = origin := earlier.store_eq (next.idle (List.forall_mem_cons.mpr ⟨rfl, idle⟩))
      have present : origin.refresh.contains (RefreshGrant.presented request) = true := by
        rw [Table.contains, stored]
        rfl
      rw [unwritten, instruments.answer_eq_serve met, Instruments.serve,
        Store.exchangeSession, if_pos present] at reply
      cases reply
  · exact ⟨response, done⟩

end Provider

/-- A client that is registered, and that the secret among its credentials proves unless it is public. -/
structure Known (hasher : SecretHasher) (store : Store) (credentials : Credentials) (client : Client) : Prop where
  registered : store.clients.get? credentials.id = some client
  proven : client.isPublic = true ∨
    hasher.compare client.hashedSecret (Utf8.encode credentials.secret) = .ok ()

/-- A client whose refresh token it is: the session under its signature is that of the client, and has the scope
for it. -/
structure RefreshGrant.Entitled (signer : Signer) (store : Store) (client : Client) (token : String)
    (session : TokenRequest) : Prop where
  stored : store.refresh.get? (SignedToken.signatureOf token) = some session
  listed : client.grantTypes.contains name = true
  owned : session.client.id = client.id
  offline : session.grantedScopes.contains offlineScope = true
  signed : signer.validate token = .ok ()

/-- The readings of the clock are not past the lifespan of the stored session, nor past the expiry in the session
that the request comes with, if it has one. -/
structure RefreshGrant.InTime (lifespans : Lifespans) (stored : TokenRequest) (session : Session)
    (readings : List Instant) : Prop where
  young : lifespans.refreshSeconds ≤ 0 ∨ ∃ expiry,
    stored.requestedAt.plusSeconds? lifespans.refreshSeconds = some expiry ∧ ∀ now ∈ readings, now ≤ expiry
  welcome : ∀ expiry, session.expiresAt.get? .refreshToken = some expiry → ∀ now ∈ readings, now ≤ expiry

namespace RefreshGrant

variable (authority : TokenAuthority) {request session : TokenRequest} {now : Instant} {readings : List Instant}

theorem isTooOld_of_inTime {presenting : Session}
    (inTime : InTime authority.lifespans session presenting readings) (read : now ∈ readings) :
    isTooOld authority session now = .ok false := by
  rw [isTooOld]
  split
  · rfl
  · next positive =>
    rcases inTime.young with forever | ⟨expiry, dated, within⟩
    · exact absurd forever positive
    · rw [dated]
      exact congrArg Except.ok (decide_eq_false (Instant.not_lt.mpr (within now read)))

theorem check_of_inTime (signed : authority.signer.validate (request.field name) = .ok ())
    (inTime : InTime authority.lifespans session request.session readings) (read : now ∈ readings) :
    check authority request now = .ok () := by
  have passed : authority.checkSignature (request.field name) = .ok () := by
    rw [TokenAuthority.checkSignature, signed]
    rfl
  rw [check]
  split
  · next expiry given =>
    rw [TokenAuthority.checkUntil, if_neg (Instant.not_lt.mpr (inTime.welcome expiry given now read)), passed]
  · exact passed

/-- A token that is not signed is refused like an unknown one, once its session has been found good. -/
theorem judge_of_unsigned {later : Instant} (young : isTooOld authority session now = .ok false)
    (offline : session.grantedScopes.contains offlineScope = true)
    (unsigned : authority.signer.validate (request.field name) ≠ .ok ()) :
    judge authority request session now later = .error .refreshTokenInvalid := by
  rw [judge, young, offline]
  cases checked : check authority request later with
  | error error => rfl
  | ok => exact absurd (signed_of_check checked) unsigned

end RefreshGrant

/-- A request with the session that it comes with, the store and the chances that it meets. -/
structure Round where
  http : HttpRequest
  session : Session := {}
  store : Store
  chances : Nat → Chance

/-- What a session hands on to the next. Only access tokens expire anew. -/
structure Inherits (session next : TokenRequest) : Prop where
  subject : next.session.subject = session.session.subject
  username : next.session.username = session.session.username
  extra : next.session.extra = session.session.extra
  expiries : ∀ kind, kind ≠ .accessToken →
    next.session.expiresAt.get? kind = session.session.expiresAt.get? kind
  requested : next.requestedScopes = session.requestedScopes
  granted : next.grantedScopes = List.eraseDups session.grantedScopes
  client : next.client.id = session.client.id

theorem Inherits.trans {first second third : TokenRequest} (one : Inherits first second)
    (other : Inherits second third) : Inherits first third where
  subject := other.subject.trans one.subject
  username := other.username.trans one.username
  extra := other.extra.trans one.extra
  expiries kind differs := (other.expiries kind differs).trans (one.expiries kind differs)
  requested := other.requested.trans one.requested
  granted := by rw [other.granted, one.granted, WordList.eraseDups_eraseDups]
  client := other.client.trans one.client

theorem inherits_adopt {session request : TokenRequest} (expiry : Instant)
    (ungranted : request.grantedScopes = []) (owned : session.client.id = request.client.id) :
    Inherits session (RefreshGrant.adopt session expiry request) where
  subject := rfl
  username := rfl
  extra := rfl
  expiries kind differs :=
    (Expiries.get?_set session.session.expiresAt .accessToken kind expiry).trans (if_neg differs.symm)
  requested := rfl
  granted := (congrArg (WordList.grantAll · session.grantedScopes) ungranted).trans (WordList.grantAll_nil _)
  client := owned.symm

/-- Whoever was entitled to a token is entitled to one whose session has inherited from that of the first. -/
theorem RefreshGrant.Entitled.renew {signer : Signer} {before after : Store} {client : Client}
    {token next : String} {session successor : TokenRequest}
    (entitled : Entitled signer before client token session) (inherits : Inherits session successor)
    (stored : after.refresh.get? (SignedToken.signatureOf next) = some successor)
    (signed : signer.validate next = .ok ()) : Entitled signer after client next successor where
  stored
  listed := entitled.listed
  owned := inherits.client.trans entitled.owned
  offline := by
    rw [inherits.granted]
    simpa using entitled.offline
  signed

/-- What an exchange leaves: the token that it hands out has taken the place of the presented one, with a session
that has inherited what the given session says. -/
structure Renewed (permanent : Bool) (session successor : TokenRequest) (token next : String)
    (before after : Store) (response : TokenResponse) : Prop where
  handed : response.refreshToken? = some next
  refreshed : after.refresh.get? (SignedToken.signatureOf next) = some successor
  accessed : after.access.get? (SignedToken.signatureOf response.accessToken) = some successor
  inherits : Inherits session successor
  refresh : after.refresh.size = before.refresh.size
  access : after.access.size = before.access.size + 1
  kept : permanent = true → next = token
  rotated : permanent = false →
    next ≠ token ∧ after.refresh.get? (SignedToken.signatureOf token) = none

theorem renewed_of_issued {permanent : Bool} {before after : Store} {session request : TokenRequest}
    {response : TokenResponse} {next : String} (handed : response.refreshToken? = some next)
    (asked : request.grantTypes = [RefreshGrant.name])
    (stored : before.refresh.get? (RefreshGrant.presented request) = some session)
    (inherits : Inherits session request) (issued : Issued permanent before after request response) :
    Renewed permanent session request (request.field RefreshGrant.name) next before after response := by
  cases issued with
  | clientCredentials other => exact absurd (asked.symm.trans other) (by decide)
  | refresh _ handedToo access refresh kept rotated =>
    cases handed.symm.trans handedToo
    have sameSize := refresh.size.trans (Table.size_erase_of_bound stored)
    refine ⟨handed, refresh.get?_self, access.get?_self, inherits, sameSize, access.size, kept, ?_⟩
    intro rotates
    -- A free signature cannot be the presented one, under which a session is stored.
    have differ : SignedToken.signatureOf next ≠ RefreshGrant.presented request := by
      intro same
      have unstored := rotated rotates
      rw [same] at unstored
      cases unstored.symm.trans stored
    refine ⟨fun same => differ (congrArg SignedToken.signatureOf same), ?_⟩
    rw [refresh.added]
    refine (Table.get?_insert_ne _ _ differ).trans ?_
    rw [Table.get?_erase]
    exact if_pos rfl

namespace Round

variable (instruments : Instruments) (settings : Settings) (round : Round)

def acceptance : Except OAuthError TokenRequest × Stage :=
  instruments.perform ((Provider.standard settings instruments.signer).acceptRequest round.http
    round.session).run ⟨round.store, round.chances, []⟩

def exchange : Except OAuthError TokenResponse × Stage :=
  instruments.perform ((Provider.standard settings instruments.signer).acceptRequest round.http round.session
    >>= (Provider.standard settings instruments.signer).respond).run ⟨round.store, round.chances, []⟩

variable {instruments settings round} in
theorem exchange_of_accepted {request : TokenRequest} {middle : Stage}
    (accepted : round.acceptance instruments settings = (.ok request, middle)) :
    round.exchange instruments settings =
      instruments.perform ((Provider.standard settings instruments.signer).respond request).run middle := by
  rw [acceptance] at accepted
  rw [exchange, Attempt.perform_bind, accepted]

variable {instruments settings round} {form : Table String} {credentials : Credentials} {token : String}
  {client : Client}

variable (instruments settings) in
/-- What becomes of a presented token, all calls answered. -/
theorem acceptance_ends (presentation : Presentation round.http form credentials token) :
    let final := round.acceptance instruments settings
    ((∃ error, final.1 = .error error ∧ Unauthenticated final.2.calls credentials) ∨
      ∃ client id now ending, Authenticated final.2.calls credentials client ∧ ⟨.now, now⟩ ∈ final.2.calls ∧
        RefreshGrant.Judged (Provider.authority settings instruments.signer)
          (Provider.received form round.session id now client) final.2.calls ending ∧
        final.1 = ending.1.map fun _ => ending.2) ∧
      final.2.calls.Idle ∧
      Answered instruments (Stage.Offers ⟨round.store, round.chances, []⟩) round.store final.2.calls
        final.2.store := by
  have unused : Stage.calls ⟨round.store, round.chances, []⟩ = [] := rfl
  exact Work.Meets.asked instruments (fun _ _ asks => asks) unused
    (Provider.acceptRequest_refresh_ends settings instruments.signer presentation round.session [])

/-- Acceptance writes nothing, and the chances that it leaves for what follows are among those of the round. -/
theorem stage_of_acceptance (presentation : Presentation round.http form credentials token)
    (possible : Chance → Prop) (sound : ∀ number, possible (round.chances number)) :
    let middle := (round.acceptance instruments settings).2
    middle.calls.Idle ∧ Answered instruments possible round.store middle.calls middle.store ∧
      ∀ chance, middle.Offers chance → possible chance := by
  obtain ⟨_, idle, answered⟩ := acceptance_ends instruments settings presentation
  have among : ∀ chance, Stage.Offers ⟨round.store, round.chances, []⟩ chance → possible chance := by
    rintro _ ⟨number, rfl⟩
    exact sound number
  exact ⟨idle, answered.weaken among,
    fun chance offered => among chance (instruments.offers_of_performed _ offered)⟩

/-- A token that is accepted is that of the client. Its session is handed on to the request. -/
theorem entitled_of_accepted (presentation : Presentation round.http form credentials token)
    (registered : round.store.clients.get? credentials.id = some client) {request : TokenRequest}
    (accepted : (round.acceptance instruments settings).1 = .ok request) :
    ∃ session id now expiry, RefreshGrant.Entitled instruments.signer round.store client token session ∧
      request = RefreshGrant.adopt session expiry (Provider.received form round.session id now client) := by
  obtain ⟨ended, idle, answered⟩ := acceptance_ends instruments settings presentation
  rcases ended with ⟨error, refused, _⟩ | ⟨found, id, now, ending, authenticated, _, judged, same⟩
  · cases accepted.symm.trans refused
  · cases (answered.registered authenticated.found).symm.trans registered
    rw [accepted] at same
    cases judged with
    | unlisted | unloaded | refused => cases same
    | @admitted session checked later last looked _ judged =>
      cases same
      obtain ⟨_, offline, checked, owned⟩ := RefreshGrant.judge_eq_ok.mp judged
      have shown : (Provider.received form round.session id now client).field RefreshGrant.name = token :=
        presentation.token
      refine ⟨session, id, now, _, ⟨?_, looked.listed, owned, offline, ?_⟩, rfl⟩
      · exact shown ▸ answered.stored idle looked.found
      · exact shown ▸ RefreshGrant.signed_of_check checked

variable (instruments settings) in
/-- A client that is known has its request judged, as long as nothing fails. -/
theorem judged_of_known (presentation : Presentation round.http form credentials token)
    (known : Known instruments.hasher round.store credentials client)
    (sound : ∀ number, (round.chances number).failure = none) :
    let final := round.acceptance instruments settings
    (∃ id now ending, ⟨.now, now⟩ ∈ final.2.calls ∧
      RefreshGrant.Judged (Provider.authority settings instruments.signer)
        (Provider.received form round.session id now client) final.2.calls ending ∧
      final.1 = ending.1.map fun _ => ending.2) ∧
    final.2.calls.Idle ∧
      Answered instruments (·.failure = none) round.store final.2.calls final.2.store := by
  intro final
  obtain ⟨ended, idle, answered⟩ := acceptance_ends instruments settings presentation
  have unfailing : ∀ chance, Stage.Offers ⟨round.store, round.chances, []⟩ chance → chance.failure = none := by
    rintro _ ⟨number, rfl⟩
    exact sound number
  have served := answered.weaken unfailing
  refine ⟨?_, idle, served⟩
  rcases ended with ⟨error, _, unauthenticated⟩ | ⟨found, id, now, ending, authenticated, asked, judged, same⟩
  · cases unauthenticated with
    | unknown missed =>
      have reply := served.foundClient (fun _ unfailing => unfailing) missed
      rw [Store.findClient, known.registered] at reply
      cases reply
    | unproven found confidential refused =>
      cases (answered.registered found).symm.trans known.registered
      rcases known.proven with isPublic | accepted
      · cases isPublic.symm.trans confidential
      · cases accepted.symm.trans (answered.compared refused)
  · cases (answered.registered authenticated.found).symm.trans known.registered
    exact ⟨id, now, ending, asked, judged, same⟩

variable (instruments settings) in
/-- A token with a session is judged by that session, at two readings of the clock. -/
theorem judged_of_stored (presentation : Presentation round.http form credentials token)
    (known : Known instruments.hasher round.store credentials client)
    (listed : client.grantTypes.contains RefreshGrant.name = true) {session : TokenRequest}
    (stored : round.store.refresh.get? (SignedToken.signatureOf token) = some session)
    (sound : ∀ number, (round.chances number).failure = none) :
    let final := round.acceptance instruments settings
    ∃ request now later accepted, request.field RefreshGrant.name = token ∧ request.client = client ∧
      request.session = round.session ∧ now ∈ final.2.calls.readings ∧ later ∈ final.2.calls.readings ∧
      final.1 = (RefreshGrant.judge (Provider.authority settings instruments.signer) request session now later).map
        fun _ => accepted := by
  intro final
  obtain ⟨⟨id, requestedAt, ending, _, judged, same⟩, idle, answered⟩ :=
    judged_of_known instruments settings presentation known sound
  change final.1 = _ at same
  rw [same]
  generalize final.2.calls = calls at *
  have shown : (Provider.received form round.session id requestedAt client).field RefreshGrant.name = token :=
    presentation.token
  have held : round.store.refresh.get?
      (RefreshGrant.presented (Provider.received form round.session id requestedAt client)) = some session := by
    rw [RefreshGrant.presented, shown, stored]
  cases judged with
  | unlisted refused => cases listed.symm.trans refused
  | unloaded _ missed =>
    have reply := answered.lookedUp idle (fun _ unfailing => unfailing) missed
    rw [Store.findSession, Store.sessions, held] at reply
    cases reply
  | @refused other now later error looked asked judged =>
    cases (answered.stored idle looked.found).symm.trans held
    refine ⟨_, now, later, session, shown, rfl, rfl, Transcript.mem_readings looked.asked,
      Transcript.mem_readings asked, ?_⟩
    rw [judged]
    rfl
  | @admitted other now later last looked asked judged =>
    cases (answered.stored idle looked.found).symm.trans held
    refine ⟨Provider.received form round.session id requestedAt client, now, later,
      RefreshGrant.adopt session (last.plusSeconds settings.lifespans.accessSeconds)
        (Provider.received form round.session id requestedAt client),
      shown, rfl, rfl, Transcript.mem_readings looked.asked, Transcript.mem_readings asked, ?_⟩
    rw [judged]
    rfl

theorem accepted_of_entitled (presentation : Presentation round.http form credentials token)
    (known : Known instruments.hasher round.store credentials client) {session : TokenRequest}
    (entitled : RefreshGrant.Entitled instruments.signer round.store client token session)
    (inTime : RefreshGrant.InTime settings.lifespans session round.session
      (round.acceptance instruments settings).2.calls.readings)
    (sound : ∀ number, (round.chances number).failure = none) :
    ∃ request, (round.acceptance instruments settings).1 = .ok request := by
  obtain ⟨request, now, later, accepted, shown, rfl, comesWith, read, readLater, same⟩ :=
    judged_of_stored instruments settings presentation known entitled.listed entitled.stored sound
  rw [← comesWith] at inTime
  have young := RefreshGrant.isTooOld_of_inTime (Provider.authority settings instruments.signer) inTime read
  have checked : RefreshGrant.check (Provider.authority settings instruments.signer) request later = .ok () :=
    RefreshGrant.check_of_inTime _ (shown ▸ entitled.signed) inTime readLater
  rw [same, RefreshGrant.judge_eq_ok.mpr ⟨young, entitled.offline, checked, entitled.owned⟩]
  exact ⟨accepted, rfl⟩

/-- A token without a session is refused to whoever may use the grant. -/
theorem refused_of_unstored (presentation : Presentation round.http form credentials token)
    (known : Known instruments.hasher round.store credentials client)
    (listed : client.grantTypes.contains RefreshGrant.name = true)
    (absent : round.store.refresh.get? (SignedToken.signatureOf token) = none)
    (sound : ∀ number, (round.chances number).failure = none) :
    (round.acceptance instruments settings).1 = .error .refreshTokenInvalid := by
  obtain ⟨⟨id, now, ending, _, judged, same⟩, idle, answered⟩ :=
    judged_of_known instruments settings presentation known sound
  rw [same]
  generalize (round.acceptance instruments settings).2.calls = calls at *
  have shown : (Provider.received form round.session id now client).field RefreshGrant.name = token :=
    presentation.token
  have unstored : round.store.refresh.get?
      (RefreshGrant.presented (Provider.received form round.session id now client)) = none := by
    rw [RefreshGrant.presented, shown, absent]
  cases judged with
  | unlisted refused => cases listed.symm.trans refused
  | unloaded _ missed =>
    have reply := answered.lookedUp idle (fun _ unfailing => unfailing) missed
    rw [Store.findSession, Store.sessions, unstored] at reply
    cases reply
    rfl
  | refused looked | admitted looked => cases (answered.stored idle looked.found).symm.trans unstored

/-- A token that is not signed is refused, whatever session there is under its signature, as long as that is good. -/
theorem refused_of_unsigned (presentation : Presentation round.http form credentials token)
    (known : Known instruments.hasher round.store credentials client)
    (listed : client.grantTypes.contains RefreshGrant.name = true) {session : TokenRequest}
    (stored : round.store.refresh.get? (SignedToken.signatureOf token) = some session)
    (offline : session.grantedScopes.contains RefreshGrant.offlineScope = true)
    (unsigned : instruments.signer.validate token ≠ .ok ())
    (inTime : RefreshGrant.InTime settings.lifespans session round.session
      (round.acceptance instruments settings).2.calls.readings)
    (sound : ∀ number, (round.chances number).failure = none) :
    (round.acceptance instruments settings).1 = .error .refreshTokenInvalid := by
  obtain ⟨request, now, later, accepted, shown, _, _, read, _, same⟩ :=
    judged_of_stored instruments settings presentation known listed stored sound
  have young := RefreshGrant.isTooOld_of_inTime (Provider.authority settings instruments.signer) inTime read
  rw [same, RefreshGrant.judge_of_unsigned _ young offline (shown ▸ unsigned)]
  rfl

theorem exchange_of_refused (presentation : Presentation round.http form credentials token) {error : OAuthError}
    (refused : (round.acceptance instruments settings).1 = .error error) :
    (round.exchange instruments settings).1 = .error error ∧
      (round.exchange instruments settings).2.store = round.store := by
  obtain ⟨_, idle, answered⟩ := acceptance_ends instruments settings presentation
  have ended : round.acceptance instruments settings = (.error error, (round.acceptance instruments settings).2) :=
    Prod.ext refused rfl
  generalize (round.acceptance instruments settings).2 = middle at *
  rw [acceptance] at ended
  rw [exchange, Attempt.perform_bind, ended]
  exact ⟨rfl, answered.store_eq idle⟩

/-- Whoever is known, entitled and in time has the token exchanged, as long as nothing fails. -/
theorem exchanged_of_entitled (presentation : Presentation round.http form credentials token)
    (known : Known instruments.hasher round.store credentials client) {session : TokenRequest}
    (entitled : RefreshGrant.Entitled instruments.signer round.store client token session)
    (inTime : RefreshGrant.InTime settings.lifespans session round.session
      (round.acceptance instruments settings).2.calls.readings)
    (sound : ∀ number, (round.chances number).failure = none) :
    ∃ response, (round.exchange instruments settings).1 = .ok response := by
  obtain ⟨request, accepted⟩ := accepted_of_entitled presentation known entitled inTime sound
  obtain ⟨_, id, now, expiry, _, same⟩ := entitled_of_accepted presentation known.registered accepted
  obtain ⟨idle, answered, offered⟩ := stage_of_acceptance presentation (·.failure = none) sound
  have asked : request.grantTypes = [RefreshGrant.name] := same ▸ presentation.asked
  have applies : request.grantTypes.isExactly RefreshGrant.name = true := WordList.isExactly_iff.mpr asked
  have stored : round.store.refresh.get? (RefreshGrant.presented request) = some session := by
    have shown : request.field RefreshGrant.name = token := same ▸ presentation.token
    rw [RefreshGrant.presented, shown, entitled.stored]
  rw [exchange_of_accepted (Prod.ext accepted rfl)]
  exact Provider.answered_of_stored applies stored idle answered offered

/-- An exchange that succeeds has been made for a session of the client, which the request has taken over. -/
theorem exchanged_of_done (presentation : Presentation round.http form credentials token)
    (registered : round.store.clients.get? credentials.id = some client) {response : TokenResponse}
    (done : (round.exchange instruments settings).1 = .ok response) (possible : Chance → Prop)
    (met : ∀ number, possible (round.chances number)) :
    let final := (round.exchange instruments settings).2
    ∃ session request access next,
      RefreshGrant.Entitled instruments.signer round.store client token session ∧
      Inherits session request ∧ request.grantTypes = [RefreshGrant.name] ∧
      request.field RefreshGrant.name = token ∧ response.scopes = request.grantedScopes ∧
      RefreshGrant.Exchanged (Provider.authority settings instruments.signer) request round.store final.store
        final.calls access next response ∧
      Answered instruments possible round.store final.calls final.store := by
  intro final
  obtain ⟨request, middle, accepted, answered⟩ := Attempt.performed_of_bind done
  change round.acceptance instruments settings = _ at accepted
  obtain ⟨session, id, now, expiry, entitled, same⟩ := entitled_of_accepted presentation registered
    (congrArg Prod.fst accepted)
  obtain ⟨idle, started, offered⟩ := stage_of_acceptance presentation possible met
  rw [accepted] at idle started offered
  have unwritten : middle.store = round.store := started.store_eq idle
  have inherits : Inherits session request := same ▸ inherits_adopt expiry rfl entitled.owned
  have asked : request.grantTypes = [RefreshGrant.name] := same ▸ presentation.asked
  have shown : request.field RefreshGrant.name = token := same ▸ presentation.token
  have applies : request.grantTypes.isExactly RefreshGrant.name = true := WordList.isExactly_iff.mpr asked
  have fills := (Provider.respond_refresh_meets settings instruments.signer applies middle.calls).ended instruments
    response answered
  have ended := instruments.perform_answered
    ((Provider.standard settings instruments.signer).respond request).run offered started
  rw [← exchange_of_accepted accepted] at ended
  rcases Provider.respond_refresh_effect settings applies (started.weaken fun _ _ => trivial) with
    ⟨error, failed, _⟩ | ⟨access, next, other, answeredToo, exchanged⟩
  · cases answered.symm.trans failed
  · cases answered.symm.trans answeredToo
    rw [unwritten, ← exchange_of_accepted accepted] at exchanged
    exact ⟨session, request, access, next, entitled, inherits, asked, shown, fills.scopes, exchanged, ended⟩

/-- A token that has been exchanged was that of the client, and so is the token that is handed out for it. -/
theorem renewed_of_exchanged (presentation : Presentation round.http form credentials token)
    (registered : round.store.clients.get? credentials.id = some client) {response : TokenResponse}
    (done : (round.exchange instruments settings).1 = .ok response)
    (anew : MintedAnew round.store (round.exchange instruments settings).2.calls)
    (keyed : ∀ number, (round.chances number).key ≠ [])
    (coded : instruments.signer.Coded) :
    ∃ session successor next,
      RefreshGrant.Entitled instruments.signer round.store client token session ∧
      Renewed settings.lifespans.refreshIsPermanent session successor token next round.store
        (round.exchange instruments settings).2.store response ∧
      RefreshGrant.Entitled instruments.signer (round.exchange instruments settings).2.store client next
        successor := by
  obtain ⟨session, request, access, next, entitled, inherits, asked, shown, _, exchanged, ended⟩ :=
    exchanged_of_done presentation registered done (·.key ≠ []) keyed
  have applies : request.grantTypes.isExactly RefreshGrant.name = true := WordList.isExactly_iff.mpr asked
  have issued := Provider.issued_of_exchanged applies (ended.weaken fun _ _ => trivial) exchanged anew
  have stored : round.store.refresh.get? (RefreshGrant.presented request) = some session := by
    rw [RefreshGrant.presented, shown, entitled.stored]
  have renewed := renewed_of_issued exchanged.handed.2 asked stored inherits issued
  rw [shown] at renewed
  -- A kept token has just been checked, and one that was made has its code from the same signer.
  have signed : instruments.signer.validate next.token = .ok () := by
    rcases exchanged.chosen with ⟨_, rfl⟩ | ⟨_, made⟩
    · exact shown ▸ entitled.signed
    · obtain ⟨chance, keyed, minted⟩ := ended.made made
      cases minted
      exact Signer.validate_sign _ keyed (coded _ keyed)
  exact ⟨session, request, next.token, entitled, renewed, entitled.renew inherits renewed.refreshed signed⟩

end Round

end TokenServer
