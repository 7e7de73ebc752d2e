import TokenServer.Proofs.Chain
import TokenServer.Proofs.MigrationRequest
import TokenServer.Proofs.TokenGrammar

/-! Refresh tokens that have been taken over. A migration stores a session for any text that can be read as a token,
without a look at its code, and writes a dot before a text that has none. Exchanging the token is where the code is
checked: only tokens of the own signer are of use to their clients, and no spelling of another makes up for it. -/

namespace TokenServer

theorem Signer.Signed.dot_mem {signer : Signer} {token : String} (signed : signer.Signed token) :
    '.' ∈ token.toList := by
  obtain ⟨key, spells, _⟩ := signed
  rw [spells.2]
  exact List.mem_append_right _ List.mem_cons_self

/-- A dot in front does not make a token of a text. -/
theorem Signer.validate_keyless (signer : Signer) {text : String} (undotted : '.' ∉ text.toList) :
    signer.validate ("." ++ text) ≠ .ok () := by
  have written : ("." ++ text).toList = [] ++ '.' :: text.toList := by simp
  intro signed
  rw [validate, SignedToken.decode, SignedToken.parts?_of_dot written ⟨List.not_mem_nil, undotted⟩] at signed
  cases signed

namespace Provider

variable {instruments : Instruments} {settings : Settings} {signer : Signer} {http : HttpRequest} {form : Table String}
  {owner : Credentials} {client : Client}

/-- Taking over that succeeds stores the session of a refresh token that was posted. -/
theorem refresh_of_ends {request : TokenRequest} {before past : Transcript}
    {ending : Except OAuthError Outcome × TokenRequest} (idle : before.Idle)
    (ends : Migration.Ends (authority settings signer) request
      (migratedResponse (field form "token") (field form "refresh_token")) before past ending)
    {outcome : Outcome} (done : ending.1 = .ok outcome) (given : field form "refresh_token" ≠ "") (store : Store) :
    ∃ now, SignedToken.signatureOf (dotted (field form "refresh_token")) ≠ "" ∧
      past.readings = now :: before.readings ∧
      (past.foldr (fun made store => made.effect store) store).refresh =
        store.refresh.insert (SignedToken.signatureOf (dotted (field form "refresh_token")))
          (Migration.refreshRequest (authority settings signer) request now) := by
  cases ends with
  | malformed | refused | undone | stuck => cases done
  | alone read =>
    obtain ⟨_, _, refresh⟩ := signatures_migratedResponse read
    rw [if_neg given] at refresh
    cases refresh.1
  | @both _ _ now read =>
    obtain ⟨_, _, refreshed⟩ := signatures_migratedResponse read
    rw [if_neg given] at refreshed
    obtain ⟨same, signed⟩ := refreshed
    cases same
    refine ⟨now, signed, rfl, ?_⟩
    rw [List.foldr_cons, List.foldr_cons, List.foldr_cons, idle.effect]
    rfl

theorem requestedAt_refreshRequest (authority : TokenAuthority) (request : TokenRequest) (now : Instant) :
    (Migration.refreshRequest authority request now).requestedAt = request.requestedAt := by
  rw [Migration.refreshRequest]
  split <;> rfl

/-- The session that a migration leaves for a refresh token dates from when the migration was requested, which is
the last time the clock is read before the session is made. -/
theorem refresh_of_migrated {store : Store} {chances : Nat → Chance} :
    let migrating := instruments.perform ((standard settings instruments.signer).migrate http).run
      ⟨store, chances, []⟩
    migrating.1 = .ok () → ∃ form owner client,
      Permitted (store.registry instruments.hasher) settings.migrationScope http form owner client ∧
      (field form "refresh_token" ≠ "" → ∃ expiries session, Imported form owner client expiries session ∧
        (∃ now earlier, migrating.2.calls.readings = now :: session.requestedAt :: earlier) ∧
        SignedToken.signatureOf (dotted (field form "refresh_token")) ≠ "" ∧
        migrating.2.store.refresh =
          store.refresh.insert (SignedToken.signatureOf (dotted (field form "refresh_token"))) session) := by
  intro migrating done
  obtain ⟨form, owner, client, _, _, _, _, _, permitted, idle, last, ends, succeeded, effects⟩ := migrated_of_done done
  refine ⟨form, owner, client, permitted, fun given => ?_⟩
  obtain ⟨now, signed, readings, stored⟩ := refresh_of_ends idle ends succeeded given store
  rw [← effects] at stored
  refine ⟨_, _, imported_refreshRequest settings instruments.signer _ now, ⟨now, ?_⟩, signed, stored⟩
  obtain ⟨earlier, same⟩ := List.head?_eq_some_iff.mp last
  rw [readings, same, requestedAt_refreshRequest]
  exact ⟨_, rfl⟩

end Provider

namespace Round

variable (instruments : Instruments) (settings : Settings) (round : Round)

/-- A client comes back with a token while its session is young, and the store has been left alone as far as this
token is concerned. -/
structure Returns (store : Store) (client : Client) (credentials : Credentials) (token : String)
    (session : TokenRequest) : Prop where
  known : Known instruments.hasher round.store credentials client
  inTime : RefreshGrant.InTime settings.lifespans session round.session
    (round.acceptance instruments settings).2.calls.readings
  untouched : ∀ text ∈ [token, Provider.dotted token],
    round.store.refresh.get? (SignedToken.signatureOf text) = store.refresh.get? (SignedToken.signatureOf text)
  sound : ∀ number, (round.chances number).failure = none

/-- The request is answered like one with an unknown token, and nothing is changed. -/
structure Refused : Prop where
  answer : (round.exchange instruments settings).1 = .error .refreshTokenInvalid
  store : (round.exchange instruments settings).2.store = round.store

/-- Both tokens of a response have a session that says what was posted when the presented one was taken over. -/
structure Redeemed (form : Table String) (owner : Credentials) (response : TokenResponse) (next : String)
    (issued : TokenRequest) : Prop where
  answer : (round.exchange instruments settings).1 = .ok response
  handed : response.refreshToken? = some next
  refreshed : (round.exchange instruments settings).2.store.refresh.get? (SignedToken.signatureOf next) = some issued
  accessed : (round.exchange instruments settings).2.store.access.get?
    (SignedToken.signatureOf response.accessToken) = some issued
  subject : issued.session.subject = owner.id
  username : issued.session.username = Provider.field form "username"
  migrated : issued.session.extra.get? Provider.migratedKey = some (.bool true)
  scopes : response.scopes = List.eraseDups (WordList.parseSpaced (Provider.field form "scope"))

/-- The code of a token that was taken over decides what comes of it. -/
structure Decided (form : Table String) (owner : Credentials) (token : String) : Prop where
  accepted : (∃ request, (round.acceptance instruments settings).1 = .ok request) ↔ instruments.signer.Signed token
  redeemed : instruments.signer.Signed token →
    ∃ response next issued, round.Redeemed instruments settings form owner response next issued
  refused : ¬instruments.signer.Signed token → round.Refused instruments settings

variable {instruments settings round} {form posted : Table String} {credentials owner : Credentials}
  {client : Client} {token : String} {session : TokenRequest}

theorem refused_of_acceptance (presentation : Presentation round.http posted credentials token)
    (refused : (round.acceptance instruments settings).1 = .error .refreshTokenInvalid) :
    round.Refused instruments settings := by
  obtain ⟨answer, store⟩ := exchange_of_refused presentation refused
  exact ⟨answer, store⟩

/-- What is exchanged for a token that was taken over. -/
theorem redeemed_of_entitled {expiries : Expiries}
    (presentation : Presentation round.http posted credentials token)
    (known : Known instruments.hasher round.store credentials client)
    (entitled : RefreshGrant.Entitled instruments.signer round.store client token session)
    (inTime : RefreshGrant.InTime settings.lifespans session round.session
      (round.acceptance instruments settings).2.calls.readings)
    (sound : ∀ number, (round.chances number).failure = none)
    (imported : Provider.Imported form owner client expiries session) :
    ∃ response next issued, round.Redeemed instruments settings form owner response next issued := by
  obtain ⟨response, done⟩ := exchanged_of_entitled presentation known entitled inTime sound
  obtain ⟨found, issued, access, next, entitledToo, inherits, _, shown, scopes, exchanged, answered⟩ :=
    exchanged_of_done presentation known.registered done (fun _ => True) (fun _ => trivial)
  cases entitledToo.stored.symm.trans entitled.stored
  have signature : SignedToken.signatureOf next.token = next.signature := by
    rcases exchanged.chosen with ⟨_, rfl⟩ | ⟨_, made⟩
    · rfl
    · exact Provider.signature_of_made answered made
  have accessSignature : SignedToken.signatureOf response.accessToken = access.signature :=
    exchanged.handed.1 ▸ Provider.signature_of_made answered exchanged.made
  refine ⟨response, next.token, issued, done, exchanged.handed.2, ?_, ?_, ?_, ?_, ?_, ?_⟩
  · rw [exchanged.store, signature]
    exact Table.get?_insert_self _ _ _
  · rw [exchanged.store, accessSignature]
    exact Table.get?_insert_self _ _ _
  · rw [inherits.subject, imported.session]
  · rw [inherits.username, imported.session]
  · rw [inherits.extra, imported.session]
    exact Table.get?_insert_self _ _ _
  · rw [scopes, inherits.granted, imported.granted]

/-- There is a session under the signature of the token itself. -/
theorem decided_of_stored {expiries : Expiries} (presentation : Presentation round.http posted credentials token)
    (known : Known instruments.hasher round.store credentials client)
    (listed : client.grantTypes.contains RefreshGrant.name = true)
    (stored : round.store.refresh.get? (SignedToken.signatureOf token) = some session)
    (offline : session.grantedScopes.contains RefreshGrant.offlineScope = true)
    (inTime : RefreshGrant.InTime settings.lifespans session round.session
      (round.acceptance instruments settings).2.calls.readings)
    (sound : ∀ number, (round.chances number).failure = none)
    (imported : Provider.Imported form owner client expiries session) :
    round.Decided instruments settings form owner token := by
  have entitled : instruments.signer.Signed token →
      RefreshGrant.Entitled instruments.signer round.store client token session :=
    fun signed => ⟨stored, listed, congrArg Client.id imported.issued, offline,
      Signer.validate_eq_ok_iff_signed.mpr signed⟩
  refine ⟨⟨?_, fun signed => ?_⟩, fun signed => ?_, fun unsigned => ?_⟩
  · rintro ⟨request, accepted⟩
    obtain ⟨_, _, _, _, entitled, _⟩ := entitled_of_accepted presentation known.registered accepted
    exact Signer.validate_eq_ok_iff_signed.mp entitled.signed
  · exact accepted_of_entitled presentation known (entitled signed) inTime sound
  · exact redeemed_of_entitled presentation known (entitled signed) inTime sound imported
  · exact refused_of_acceptance presentation
      (refused_of_unsigned presentation known listed stored offline
        (mt Signer.validate_eq_ok_iff_signed.mp unsigned) inTime sound)

/-- There is no session under the signature of the token itself, which has no dot. -/
theorem decided_of_undotted (presentation : Presentation round.http posted credentials token)
    (known : Known instruments.hasher round.store credentials client)
    (listed : client.grantTypes.contains RefreshGrant.name = true)
    (absent : round.store.refresh.get? (SignedToken.signatureOf token) = none) (undotted : '.' ∉ token.toList)
    (sound : ∀ number, (round.chances number).failure = none) :
    round.Decided instruments settings form owner token := by
  have refused : (round.acceptance instruments settings).1 = .error .refreshTokenInvalid :=
    refused_of_unstored presentation known listed absent sound
  have unsigned : ¬instruments.signer.Signed token := fun signed => undotted signed.dot_mem
  refine ⟨⟨?_, fun signed => absurd signed unsigned⟩, fun signed => absurd signed unsigned, fun _ => ?_⟩
  · rintro ⟨request, accepted⟩
    cases refused.symm.trans accepted
  · exact refused_of_acceptance presentation refused

end Round

namespace Provider

/-- After a migration a client can exchange the refresh token that was taken over for it if and only if the token is
signed. Otherwise it is refused like an unknown one, whichever way it is written. -/
theorem refreshed_iff_signed (instruments : Instruments) (settings : Settings) (http : HttpRequest) (store : Store)
    (chances : Nat → Chance) (unused : store.refresh.get? "" = none) :
    let migrating := instruments.perform ((standard settings instruments.signer).migrate http).run
      ⟨store, chances, []⟩
    migrating.1 = .ok () → ∃ form owner client,
      Permitted (store.registry instruments.hasher) settings.migrationScope http form owner client ∧
      (field form "refresh_token" ≠ "" → RefreshGrant.offlineScope ∈ WordList.parseSpaced (field form "scope") →
        RefreshGrant.name ∈ client.grantTypes → ∃ session,
          migrating.2.store.refresh.get? (SignedToken.signatureOf (dotted (field form "refresh_token"))) =
            some session ∧
          (∃ now earlier, migrating.2.calls.readings = now :: session.requestedAt :: earlier) ∧
          ∀ (round : Round) (posted : Table String) (credentials : Credentials),
            round.Returns instruments settings migrating.2.store client credentials (field form "refresh_token")
                session →
              (Presentation round.http posted credentials (field form "refresh_token") →
                round.Decided instruments settings form owner (field form "refresh_token")) ∧
              ('.' ∉ (field form "refresh_token").toList →
                Presentation round.http posted credentials ("." ++ field form "refresh_token") →
                  round.Refused instruments settings)) := by
  intro migrating done
  obtain ⟨form, owner, client, permitted, takenOver⟩ := refresh_of_migrated done
  refine ⟨form, owner, client, permitted, fun given offline listed => ?_⟩
  obtain ⟨expiries, session, imported, told, signature, after⟩ := takenOver given
  generalize field form "refresh_token" = token at *
  change migrating.2.store.refresh = _ at after
  have stored : migrating.2.store.refresh.get? (SignedToken.signatureOf (dotted token)) = some session := by
    rw [after]
    exact Table.get?_insert_self _ _ _
  refine ⟨session, stored, told, fun round posted credentials returns => ?_⟩
  obtain ⟨known, inTime, untouched, sound⟩ := returns
  have listed : client.grantTypes.contains RefreshGrant.name = true := List.contains_iff_mem.mpr listed
  have offline : session.grantedScopes.contains RefreshGrant.offlineScope = true := by
    rw [imported.granted]
    exact List.contains_iff_mem.mpr offline
  have kept : round.store.refresh.get? (SignedToken.signatureOf (dotted token)) = some session := by
    rw [untouched _ (by simp), stored]
  by_cases dot : '.' ∈ token.toList
  · rw [dotted_of_mem dot] at kept
    exact ⟨fun presentation =>
      Round.decided_of_stored presentation known listed kept offline inTime sound imported,
      fun undotted => absurd dot undotted⟩
  · -- The session is stored under the text itself, but the text has no signature.
    have blank : SignedToken.signatureOf token = "" := by
      rw [SignedToken.signatureOf, SignedToken.parts?_of_undotted dot]
    have absent : round.store.refresh.get? (SignedToken.signatureOf token) = none := by
      rw [untouched _ (by simp), blank, after]
      exact (Table.get?_insert_ne _ _ signature).trans unused
    rw [dotted_of_not_mem dot] at kept
    exact ⟨fun presentation => Round.decided_of_undotted presentation known listed absent dot sound,
      fun _ presentation => Round.refused_of_acceptance presentation
        (Round.refused_of_unsigned presentation known listed kept offline (instruments.signer.validate_keyless dot)
          inTime sound)⟩

end Provider

namespace Specimen

def mover : Client := { client with scopes := [usualMigrationScope] }

def moverStore : Store := .ofClients [mover]

def movingFields : List (String × String) :=
  [("token", "opaque"), ("refresh_token", "AQID.AQID"), ("client", "YXBwOmtleQ=="), ("scope", "offline a offline"),
    ("username", "ann")]

def moving : HttpRequest := (HttpRequest.formPost movingFields).withBasicAuth "app" "key"

def comingBack : Round where
  http := refreshPost "AQID.AQID"
  store := (instruments.perform ((Provider.standard {} instruments.signer).migrate moving).run
    ⟨moverStore, chances, []⟩).2.store
  chances number := chances (number + 7)

end Specimen

/-- The client exchanges a signed token that was taken over for it. -/
theorem Provider.refreshed_once_moved :
    ∃ form owner response next issued,
      Specimen.comingBack.Redeemed Specimen.instruments {} form owner response next issued ∧
        owner.id = "app" ∧ response.scopes = ["offline", "a"] := by
  have done : (Specimen.instruments.perform
      ((standard {} Specimen.instruments.signer).migrate Specimen.moving).run
      ⟨Specimen.moverStore, Specimen.chances, []⟩).1 = .ok () := by decide +kernel
  have unused : Specimen.moverStore.refresh.get? "" = none := by decide +kernel
  obtain ⟨form, owner, client, permitted, exchanged⟩ :=
    refreshed_iff_signed Specimen.instruments {} Specimen.moving Specimen.moverStore Specimen.chances unused done
  have read : Specimen.moving.form = .ok (.ofList Specimen.movingFields) := by decide +kernel
  cases permitted.read.symm.trans read
  obtain ⟨identified, same⟩ : "app" = owner.id ∧ Specimen.mover = client := by
    cases permitted.owned with
    | intro _ _ _ registered =>
      have alone : Specimen.moverStore.clients = (∅ : Table Client).insert "app" Specimen.mover := rfl
      change Specimen.moverStore.clients.get? owner.id = some client at registered
      rw [alone, Table.get?_insert] at registered
      split at registered
      · next identified => exact ⟨identified, Option.some.inj registered⟩
      · cases registered
  subst same
  have given : field (.ofList Specimen.movingFields) "refresh_token" = "AQID.AQID" := by decide +kernel
  rw [given] at exchanged
  obtain ⟨session, _, ⟨_, _, told⟩, comesBack⟩ := exchanged (by decide) (by decide +kernel) (by decide)
  have known : Known Specimen.instruments.hasher Specimen.comingBack.store ⟨"app", "key"⟩ Specimen.mover :=
    ⟨by decide +kernel, .inr (by decide +kernel)⟩
  have readings : (Specimen.instruments.perform
      ((standard {} Specimen.instruments.signer).migrate Specimen.moving).run
      ⟨Specimen.moverStore, Specimen.chances, []⟩).2.calls.readings = [⟨0, 0⟩, ⟨0, 0⟩] := by decide +kernel
  rw [readings] at told
  have dated : session.requestedAt.plusSeconds? (Lifespans.refreshSeconds {}) = some ⟨2592000, 0⟩ := by
    obtain ⟨_, rest⟩ := List.cons.inj told
    obtain ⟨requested, _⟩ := List.cons.inj rest
    rw [← requested]
    decide +kernel
  have presentation : Presentation Specimen.comingBack.http (Specimen.startForm "AQID.AQID") ⟨"app", "key"⟩
      "AQID.AQID" := by
    constructor <;> decide +kernel
  obtain ⟨exchanges, _⟩ := comesBack Specimen.comingBack _ _
    ⟨known, ⟨.inr ⟨⟨2592000, 0⟩, dated, by decide +kernel⟩, nofun⟩, fun _ _ => rfl, fun _ => rfl⟩
  have signed : Specimen.instruments.signer.Signed "AQID.AQID" :=
    Signer.validate_eq_ok_iff_signed.mp (by decide +kernel)
  obtain ⟨response, next, issued, redeemed⟩ := (exchanges presentation).redeemed signed
  refine ⟨_, owner, response, next, issued, redeemed, identified.symm, ?_⟩
  rw [redeemed.scopes]
  decide +kernel

end TokenServer
