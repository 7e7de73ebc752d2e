import TokenServer.Proofs.Course

/-! Where the sessions of a store come from, and the signatures under which they are stored. In a course of events
a session is that of an accepted request or of a migration. What an exchange stores goes back to a session that was
found, which is why facts about all sessions are proved by induction on the calls. -/

namespace TokenServer

/-- The session of this kind that a call has stored, with its signature. -/
def Made.stores? (kind : SessionKind) : Made → Option (String × TokenRequest)
  | ⟨.createSession other signature request, .ok ()⟩ =>
    if other = kind then some (signature, request) else none
  | ⟨.exchangeSession _ access refresh request, .ok ()⟩ =>
    match kind with
    | .access => some (access, request)
    | .refresh => some (refresh, request)
  | _ => none

/-- Sessions are stored by the call that creates one, and by an exchange. -/
theorem Made.stores?_eq_some {made : Made} {kind : SessionKind} {signature : String} {session : TokenRequest}
    (stores : made.stores? kind = some (signature, session)) :
    made = ⟨.createSession kind signature session, .ok ()⟩ ∨ ∃ presented access refresh,
      made = ⟨.exchangeSession presented access refresh session, .ok ()⟩ ∧
        signature = if kind = .access then access else refresh := by
  rcases made with ⟨call, reply⟩
  cases call with
  | createSession other written request =>
    cases reply with
    | error => cases stores
    | ok =>
      rw [stores?] at stores
      split at stores
      · next same =>
        cases stores
        exact .inl (same ▸ rfl)
      · cases stores
  | exchangeSession presented access refresh request =>
    cases reply with
    | error => cases stores
    | ok =>
      cases kind <;> cases stores
      · exact .inr ⟨presented, signature, refresh, rfl, rfl⟩
      · exact .inr ⟨presented, access, signature, rfl, rfl⟩
  | _ => cases stores

def Transcript.Stored (calls : Transcript) (kind : SessionKind) (signature : String) (session : TokenRequest) :
    Prop :=
  ∃ made ∈ calls, made.stores? kind = some (signature, session)

/-- The session was in the store from the start, or has been stored since. -/
def EverStored (store : Store) (calls : Transcript) (kind : SessionKind) (signature : String)
    (session : TokenRequest) : Prop :=
  (store.sessions kind).get? signature = some session ∨ calls.Stored kind signature session

section

variable {store : Store} {kind : SessionKind} {signature : String} {session : TokenRequest}
  {past calls : Transcript}

theorem Transcript.Stored.mono (stored : Transcript.Stored past kind signature session) (kept : past ⊆ calls) :
    Transcript.Stored calls kind signature session := by
  obtain ⟨made, member, stores⟩ := stored
  exact ⟨made, kept member, stores⟩

theorem EverStored.mono (stored : EverStored store past kind signature session) (kept : past ⊆ calls) :
    EverStored store calls kind signature session :=
  stored.imp_right (·.mono kept)

theorem EverStored.stored {clients : Table Client}
    (stored : EverStored { clients } calls kind signature session) : calls.Stored kind signature session := by
  rcases stored with initial | stored
  · cases kind <;> cases initial
  · exact stored

/-- A session in a store was stored by the last call, or was there before it. -/
theorem Made.stores_of_effect {made : Made}
    (present : ((made.effect store).sessions kind).get? signature = some session) :
    made.stores? kind = some (signature, session) ∨ (store.sessions kind).get? signature = some session := by
  rcases made with ⟨call, reply⟩
  cases call with
  | createSession other written request =>
    cases reply with
    | error => exact .inr present
    | ok =>
      rw [Made.effect, Store.get?_createSession] at present
      split at present
      · next same =>
        obtain ⟨rfl, rfl⟩ := same
        cases present
        exact .inl (if_pos rfl)
      · exact .inr present
  | deleteSession other removed =>
    cases reply with
    | error => exact .inr present
    | ok =>
      rw [Made.effect, Store.get?_removeSession] at present
      split at present
      · cases present
      · exact .inr present
  | exchangeSession presented access refresh request =>
    cases reply with
    | error => exact .inr present
    | ok =>
      simp only [Made.effect, Store.rotateSession, Store.get?_createSession, Store.get?_removeSession] at present
      split at present
      · next same =>
        obtain ⟨rfl, rfl⟩ := same
        cases present
        exact .inl rfl
      · split at present
        · next same =>
          obtain ⟨rfl, rfl⟩ := same
          cases present
          exact .inl rfl
        · split at present
          · cases present
          · exact .inr present
  | _ => exact .inr present

variable {instruments : Instruments} {possible : Chance → Prop} {after : Store}

theorem Answered.everStored (answered : Answered instruments possible store calls after)
    (present : (after.sessions kind).get? signature = some session) :
    EverStored store calls kind signature session := by
  induction answered with
  | start => exact .inl present
  | next _ _ call ih =>
    rw [instruments.answer_effect] at present
    rcases Made.stores_of_effect present with stores | earlier
    · exact .inr ⟨_, List.mem_cons_self, stores⟩
    · exact (ih earlier).mono (List.subset_cons_self _ _)

theorem Answered.everStored_of_found (answered : Answered instruments possible store calls after)
    (found : ⟨.findSession kind signature, .ok session⟩ ∈ calls) :
    EverStored store calls kind signature session := by
  obtain ⟨earlier, before, chance, inside, led, _, replied⟩ := answered.of_mem found
  exact (led.everStored (Instruments.stored_of_answer replied.symm)).mono inside

end

/-- An accepted request has taken over a session that was found for the token that it presents. -/
structure RefreshGrant.Adopts (calls : Transcript) (request session : TokenRequest) : Prop where
  found : ⟨.findSession .refresh (presented request), .ok session⟩ ∈ calls
  owned : session.client.id = request.client.id
  requested : request.requestedScopes = session.requestedScopes
  granted : request.grantedScopes = List.eraseDups session.grantedScopes

namespace Provider

section

variable {settings : Settings} {signer : Signer} {calls : Transcript} {request : TokenRequest}

theorem Accepted.adopts (accepted : Accepted settings signer calls request)
    (applies : request.grantTypes.isExactly RefreshGrant.name = true) :
    ∃ session, RefreshGrant.Adopts calls request session := by
  obtain ⟨http, caller, accepts⟩ := accepted
  cases accepts with
  | refresh received _ judged =>
    cases judged with
    | @admitted session _ _ _ looked _ judged _ =>
      cases received with
      | intro =>
        exact ⟨session, looked.found, (RefreshGrant.judge_eq_ok.mp judged).2.2.2, rfl, WordList.grantAll_nil _⟩
  | clientCredentials received other judged =>
    cases judged with
    | admitted => cases (other_of_refresh applies).symm.trans other

/-- A client that acts for itself is granted what it asks for. -/
theorem Accepted.grants (accepted : Accepted settings signer calls request)
    (applies : request.grantTypes.isExactly ClientCredentialsGrant.name = true) :
    request.grantedScopes = List.eraseDups request.requestedScopes := by
  obtain ⟨http, caller, accepts⟩ := accepted
  cases accepts with
  | refresh received other judged =>
    cases judged with
    | admitted => cases (other_of_refresh other).symm.trans applies
  | clientCredentials received _ judged =>
    cases judged with
    | admitted =>
      cases received with
      | intro => exact WordList.grantAll_nil _

end

/-- The field in which a migration posts the token of this kind. -/
def tokenField : SessionKind → String
  | .access => "token"
  | .refresh => "refresh_token"

variable (settings : Settings) (instruments : Instruments) (sent : HttpRequest → Prop) (store : Store)

/-- A migration was sent for the token with the signature, with all that must be known for it, and takes it over
with this session. -/
inductive Import (kind : SessionKind) (signature : String) (session : TokenRequest) : Prop
  | intro {http : HttpRequest} {form : Table String} {owner : Credentials} {client : Client} {expiries : Expiries}
      (asked : sent http)
      (permitted : Permitted (store.registry instruments.hasher) settings.migrationScope http form owner client)
      (signed : SignedToken.signatureOf (dotted (field form (tokenField kind))) = signature ∧ signature ≠ "")
      (imported : Imported form owner client expiries session) (ungranted : session.grantTypes = []) :
      Import kind signature session

/-- A migration has stored the session under the signature. -/
structure Migrated (calls : Transcript) (kind : SessionKind) (signature : String) (session : TokenRequest) :
    Prop where
  stored : calls.Stored kind signature session
  taken : Import settings instruments sent store kind signature session

/-- Why a session has been stored, in view of the calls before. -/
inductive Origin (calls : Transcript) : SessionKind → String → TokenRequest → Prop
  | issued {request : TokenRequest} {access : SignedToken}
      (accepted : Accepted settings instruments.signer calls request)
      (applies : request.grantTypes.isExactly ClientCredentialsGrant.name = true)
      (made : ⟨.mint .access, .ok access⟩ ∈ calls) : Origin calls .access access.signature request
  | exchanged {request : TokenRequest} {access : SignedToken}
      (accepted : Accepted settings instruments.signer calls request)
      (applies : request.grantTypes.isExactly RefreshGrant.name = true)
      (made : ⟨.mint .access, .ok access⟩ ∈ calls) : Origin calls .access access.signature request
  | rotated {request : TokenRequest} {next : SignedToken}
      (accepted : Accepted settings instruments.signer calls request)
      (applies : request.grantTypes.isExactly RefreshGrant.name = true)
      (temporary : settings.lifespans.refreshIsPermanent = false)
      (made : ⟨.mint .refresh, .ok next⟩ ∈ calls) : Origin calls .refresh next.signature request
  | kept {request : TokenRequest} (accepted : Accepted settings instruments.signer calls request)
      (applies : request.grantTypes.isExactly RefreshGrant.name = true)
      (permanent : settings.lifespans.refreshIsPermanent = true) :
      Origin calls .refresh (RefreshGrant.presented request) request
  | taken {kind : SessionKind} {signature : String} {session : TokenRequest}
      (taken : Import settings instruments sent store kind signature session) :
      Origin calls kind signature session

/-- A session that has not come down from another under the same signature. -/
inductive Root (calls : Transcript) (kind : SessionKind) (signature : String) (session : TokenRequest) : Prop
  | initial (present : (store.sessions kind).get? signature = some session)
  | minted {token : SignedToken} (made : ⟨.mint kind, .ok token⟩ ∈ calls) (signed : token.signature = signature)
      (stored : calls.Stored kind signature session)
      (rotated : kind = .refresh → settings.lifespans.refreshIsPermanent = false ∧
        session.grantTypes.isExactly RefreshGrant.name = true)
  | migrated (migrated : Migrated settings instruments sent store calls kind signature session)

variable {settings instruments sent store} {kind : SessionKind} {signature : String} {session : TokenRequest}
  {calls : Transcript}

theorem Root.everStored (root : Root settings instruments sent store calls kind signature session) :
    EverStored store calls kind signature session := by
  cases root with
  | initial present => exact .inl present
  | minted _ _ stored => exact .inr stored
  | migrated migrated => exact .inr migrated.stored

theorem Imports.ungranted {http : HttpRequest} {signer : Signer}
    (imports : Imports http settings signer calls (.createSession kind signature session)) :
    session.grantTypes = [] := by
  cases imports with
  | intro permitted makes =>
    cases makes with
    | access => rfl
    | refresh =>
      rw [Migration.refreshRequest]
      split <;> rfl

theorem Imports.import {http : HttpRequest} (asked : sent http)
    (imports : Imports http settings instruments.signer calls (.createSession kind signature session))
    (within : calls.registry.Within (store.registry instruments.hasher)) :
    Import settings instruments sent store kind signature session := by
  have ungranted := imports.ungranted
  cases imports with
  | @intro form owner client id requestedAt _ permitted makes =>
    cases makes with
    | access read =>
      obtain ⟨rfl, signed, _⟩ := signatures_migratedResponse read
      exact .intro asked (permitted.mono within) ⟨rfl, signed⟩ ⟨rfl, rfl, rfl, rfl, rfl⟩ ungranted
    | @refresh access _ now read =>
      obtain ⟨_, _, refreshed⟩ := signatures_migratedResponse read
      have given : field form "refresh_token" ≠ "" := by
        intro blank
        rw [if_pos blank] at refreshed
        cases refreshed
      rw [if_neg given] at refreshed
      obtain ⟨same, signed⟩ := refreshed
      cases same
      exact .intro asked (permitted.mono within) ⟨rfl, signed⟩ (imported_refreshRequest settings _ _ now) ungranted

end Provider

namespace Lawful

open Provider

variable {settings : Settings} {instruments : Instruments} {sent : HttpRequest → Prop} {store after : Store}
  {calls : Transcript} {kind : SessionKind} {signature : String} {session : TokenRequest}

theorem origin (lawful : Lawful settings instruments sent store calls after) {made : Made}
    (licensed : Licensed settings instruments.signer sent calls made.call)
    (stores : made.stores? kind = some (signature, session)) :
    Origin settings instruments sent store calls kind signature session := by
  obtain rfl | ⟨presented, access, refresh, rfl, rfl⟩ := Made.stores?_eq_some stores
  · cases licensed with
    | asking asks => cases asks
    | issue accepted applies made => exact .issued accepted applies made
    | migration asked imports => exact .taken (imports.import asked lawful.answered.registry)
  · cases licensed with
    | asking asks => cases asks
    | rotate accepted applies made temporary madeToo =>
      cases kind with
      | access => exact .exchanged accepted applies made
      | refresh => exact .rotated accepted applies temporary madeToo
    | keep accepted applies made permanent =>
      cases kind with
      | access => exact .exchanged accepted applies made
      | refresh => exact .kept accepted applies permanent
    | migration asked imports =>
      cases imports with
      | intro permitted makes => cases makes

/-- What holds of the sessions at the start, and of each that is stored as long as it holds of those found before,
holds of every session that has ever been stored. -/
theorem session_induction (holds : SessionKind → String → TokenRequest → Prop)
    (lawful : Lawful settings instruments sent store calls after)
    (initially : ∀ {kind signature session}, (store.sessions kind).get? signature = some session →
      holds kind signature session)
    (onwards : ∀ {past kind signature session}, past ⊆ calls → calls.Stored kind signature session →
      (∀ {kind signature session}, ⟨.findSession kind signature, .ok session⟩ ∈ past →
        holds kind signature session) →
      Origin settings instruments sent store past kind signature session → holds kind signature session)
    (stored : EverStored store calls kind signature session) : holds kind signature session := by
  suffices within : ∀ {past before}, Lawful settings instruments sent store past before → past ⊆ calls →
      ∀ {kind signature session}, EverStored store past kind signature session → holds kind signature session from
    within lawful (List.Subset.refl calls) stored
  intro past before earlier
  induction earlier with
  | start =>
    rintro _ kind signature session (initial | ⟨_, none, _⟩)
    · exact initially initial
    · cases none
  | @next past before call earlier licensed chance ih =>
    intro inside kind signature session stored
    obtain ⟨newest, older⟩ := List.cons_subset.mp inside
    rcases stored with initial | ⟨made, member, stores⟩
    · exact initially initial
    · rcases List.mem_cons.mp member with rfl | old
      · refine onwards older ⟨_, newest, stores⟩ (fun found => ?_) (earlier.origin licensed stores)
        exact ih older (earlier.answered.everStored_of_found found)
      · exact ih older (.inr ⟨made, old, stores⟩)

/-- A permanent token keeps its signature from one session to the next, and with it the client that it is for. -/
theorem rooted (lawful : Lawful settings instruments sent store calls after)
    (stored : EverStored store calls kind signature session) :
    ∃ root, Root settings instruments sent store calls kind signature root ∧
      root.client.id = session.client.id := by
  refine lawful.session_induction (fun kind signature session => ∃ root,
    Root settings instruments sent store calls kind signature root ∧ root.client.id = session.client.id)
    (fun present => ⟨_, .initial present, rfl⟩) ?_ stored
  intro past kind signature session inside stored before origin
  cases origin with
  | issued _ _ made => exact ⟨session, .minted (inside made) rfl stored nofun, rfl⟩
  | exchanged _ _ made => exact ⟨session, .minted (inside made) rfl stored nofun, rfl⟩
  | rotated _ applies temporary made =>
    exact ⟨session, .minted (inside made) rfl stored fun _ => ⟨temporary, applies⟩, rfl⟩
  | kept accepted applies =>
    obtain ⟨found, adopts⟩ := accepted.adopts applies
    obtain ⟨root, rooted, same⟩ := before adopts.found
    exact ⟨root, rooted, same.trans adopts.owned⟩
  | taken taken => exact ⟨session, .migrated ⟨stored, taken⟩, rfl⟩

theorem licensed (lawful : Lawful settings instruments sent store calls after) {made : Made} (member : made ∈ calls) :
    ∃ past, past ⊆ calls ∧ Licensed settings instruments.signer sent past made.call := by
  induction lawful with
  | start => cases member
  | next _ licensed _ ih =>
    rcases List.mem_cons.mp member with rfl | old
    · exact ⟨_, List.subset_cons_self _ _, licensed⟩
    · obtain ⟨past, inside, licensed⟩ := ih old
      exact ⟨past, List.subset_cons_of_subset _ inside, licensed⟩

/-- The session of a request to refresh a token is stored by the exchange of that token, once it is accepted. -/
theorem exchange_of_stores (lawful : Lawful settings instruments sent store calls after) {made : Made}
    (member : made ∈ calls) (stores : made.stores? kind = some (signature, session))
    (applies : session.grantTypes.isExactly RefreshGrant.name = true) :
    Accepted settings instruments.signer calls session ∧ ∃ access refresh, made =
      ⟨.exchangeSession (RefreshGrant.presented session) access refresh session, .ok ()⟩ := by
  obtain ⟨past, inside, licensed⟩ := lawful.licensed member
  obtain rfl | ⟨presented, access, refresh, rfl, _⟩ := Made.stores?_eq_some stores
  · cases licensed with
    | asking asks => cases asks
    | issue _ other => cases (other_of_refresh applies).symm.trans other
    | migration _ imports =>
      rw [imports.ungranted] at applies
      cases applies
  · cases licensed with
    | asking asks => cases asks
    | rotate accepted | keep accepted => exact ⟨accepted.mono inside, _, _, rfl⟩
    | migration _ imports =>
      cases imports with
      | intro permitted makes => cases makes

end Lawful

end TokenServer
