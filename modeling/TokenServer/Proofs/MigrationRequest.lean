import TokenServer.Proofs.Credentials
import TokenServer.Proofs.Provider

/-! Requests to migrate tokens. Only a client that the header names, and that has the scope for it, can have
tokens taken over, and only for a client that is registered; whatever else the body says, nothing is written
before both are known. -/

namespace TokenServer

/-- Which clients go by which ids, and which secrets are theirs. -/
structure Registry where
  holds : String → Client → Prop
  proves : Client → String → Prop

def Store.registry (hasher : SecretHasher) (store : Store) : Registry where
  holds id client := store.clients.get? id = some client
  proves client secret := hasher.compare client.hashedSecret (Utf8.encode secret) = .ok ()

/-- What the replies to calls tell of clients. -/
def Transcript.registry (calls : Transcript) : Registry where
  holds id client := ⟨.findClient id, .ok client⟩ ∈ calls
  proves client secret := ⟨.compareSecret client.hashedSecret secret, .ok ()⟩ ∈ calls

/-- Whatever the one register says, the other says as well. -/
structure Registry.Within (first second : Registry) : Prop where
  holds : ∀ id client, first.holds id client → second.holds id client
  proves : ∀ client secret, first.proves client secret → second.proves client secret

theorem Transcript.registry_mono {past after : Transcript} (grown : past ⊆ after) :
    past.registry.Within after.registry :=
  ⟨fun _ _ found => grown found, fun _ _ compared => grown compared⟩

theorem Answered.registry {instruments : Instruments} {possible : Chance → Prop} {store after : Store}
    {calls : Transcript} (answered : Answered instruments possible store calls after) :
    calls.registry.Within (store.registry instruments.hasher) :=
  ⟨fun _ _ => answered.registered, fun _ _ => answered.compared⟩

namespace Provider

/-- A confidential client that may migrate tokens. Its credentials are those of the header. -/
inductive Vouched (registry : Registry) (scope : String) (http : HttpRequest) : Prop
  | intro {basic : BasicCredentials} {credentials : Credentials} {migrator : Client}
      (header : http.basicAuth? = some basic)
      (spelt : Credentials.Spells basic.user basic.password credentials)
      (registered : registry.holds credentials.id migrator)
      (confidential : migrator.isPublic = false)
      (proven : registry.proves migrator credentials.secret)
      (inScope : scope ∈ migrator.scopes)

/-- The client that tokens were issued to. A field holds its id and, if need be, its secret. -/
inductive Owned (registry : Registry) (form : Table String) : Credentials → Client → Prop
  | intro {id secret : String} {owner : Credentials} {client : Client} (parted : ':' ∉ id.toList)
      (written : (field form "client").toList = Base64.standard.encode (Utf8.encode (id ++ ":" ++ secret)))
      (spelt : Credentials.Spells id secret owner)
      (registered : registry.holds owner.id client)
      (proven : owner.secret ≠ "" → client.isPublic = false → registry.proves client owner.secret) :
      Owned registry form owner client

/-- What must be known before any token is taken over. -/
structure Permitted (registry : Registry) (scope : String) (http : HttpRequest) (form : Table String)
    (owner : Credentials) (client : Client) : Prop where
  posted : http.method = "POST"
  read : http.form = .ok form
  tokened : field form "token" ≠ ""
  vouched : Vouched registry scope http
  owned : Owned registry form owner client

variable {first second : Registry} {scope : String} {http : HttpRequest} {form : Table String}
  {owner : Credentials} {client : Client}

theorem Vouched.mono (vouched : Vouched first scope http) (within : first.Within second) :
    Vouched second scope http := by
  cases vouched with
  | intro header spelt registered confidential proven inScope =>
    exact .intro header spelt (within.holds _ _ registered) confidential (within.proves _ _ proven)
      inScope

theorem Owned.mono (owned : Owned first form owner client) (within : first.Within second) :
    Owned second form owner client := by
  cases owned with
  | intro parted written spelt registered proven =>
    exact .intro parted written spelt (within.holds _ _ registered)
      fun given confidential => within.proves _ _ (proven given confidential)

theorem Permitted.mono (permitted : Permitted first scope http form owner client)
    (within : first.Within second) : Permitted second scope http form owner client :=
  { permitted with
    vouched := permitted.vouched.mono within
    owned := permitted.owned.mono within }

theorem ownerCredentials_eq_ok {encoded : String} (known : ownerCredentials encoded = .ok owner) :
    ∃ id secret, ':' ∉ id.toList ∧
      encoded.toList = Base64.standard.encode (Utf8.encode (id ++ ":" ++ secret)) ∧
      Credentials.Spells id secret owner := by
  rw [ownerCredentials] at known
  split at known
  · cases known
  · split at known
    · next pair decoded =>
      obtain ⟨bytes, read, text⟩ := Option.map_eq_some_iff.mp decoded
      split at known
      · next id secret parted =>
        obtain ⟨joined, unmarked⟩ := HttpRequest.splitOnce?_eq_some_iff.mp parted
        have written : String.ofList id ++ ":" ++ String.ofList secret = pair := by
          rw [← String.toList_inj]
          simpa using joined.symm
        refine ⟨String.ofList id, String.ofList secret, by simpa using unmarked, ?_, ?_⟩
        · rw [written, Utf8.encode_of_decode text, Base64.encode_of_decode? read]
        · cases parts : Credentials.decode (String.ofList id) (String.ofList secret) .body with
          | error error =>
            rw [parts] at known
            cases known
          | ok credentials =>
            rw [parts] at known
            cases known
            exact Credentials.decode_eq_ok_iff.mp parts
      · cases known
    · cases known

theorem findMigrator_meets (provider : Provider) (http : HttpRequest) (past : Transcript) :
    Attempt.Meets ⟨fun _ call => call.isWrite = false, fun past _ =>
      Vouched (Transcript.registry past) provider.settings.migrationScope http⟩
      (provider.findMigrator http) past := by
  rw [findMigrator]
  cases header : http.basicAuth? with
  | none => exact .throw _
  | some basic =>
    refine .bind (fun _ credentials => Credentials.Spells basic.user basic.password credentials)
      (.ofExcept fun _ decoded => Credentials.decode_eq_ok_iff.mp decoded) fun past credentials spelt => ?_
    refine .bind _ (Client.find_meets credentials.id past) fun past migrator registered => ?_
    change Attempt.Meets _ (if migrator.isPublic then _ else _) past
    cases confidential : migrator.isPublic with
    | true => exact fun _ same => nomatch same
    | false =>
      refine .bind_grows _ (Client.verifySecret_meets migrator credentials.secret past) ?_
      intro after _ grown proven
      change Attempt.Meets _
        (if !migrator.scopes.contains provider.settings.migrationScope then _ else _) after
      cases inScope : migrator.scopes.contains provider.settings.migrationScope with
      | false => exact fun _ same => nomatch same
      | true =>
        exact .pure (.intro header spelt (grown registered) confidential proven (by simpa using inScope))

theorem findOwner_meets (form : Table String) (past : Transcript) :
    Attempt.Meets ⟨fun _ call => call.isWrite = false, fun past found =>
      ∃ owner, owner.id = found.2 ∧ Owned (Transcript.registry past) form owner found.1⟩
      (findOwner form) past := by
  refine .bind (fun _ owner => ownerCredentials (field form "client") = .ok owner)
    (.ofExcept fun _ known => known) fun past owner known => ?_
  obtain ⟨id, secret, parted, written, spelt⟩ := ownerCredentials_eq_ok known
  refine .bind _ (Client.find_meets owner.id past) fun past client registered => ?_
  change Attempt.Meets _ (if owner.secret ≠ "" ∧ !client.isPublic then _ else _) past
  split
  · refine .bind_grows _ (Client.verifySecret_meets client owner.secret past) ?_
    intro after _ grown proven
    exact .pure ⟨owner, rfl, .intro parted written spelt (grown registered) fun _ _ => proven⟩
  · next unasked =>
    refine .pure ⟨owner, rfl, .intro parted written spelt registered fun given confidential => ?_⟩
    have asked : (!client.isPublic) = true := congrArg (! ·) confidential
    exact absurd ⟨given, asked⟩ unasked

theorem freshRequest_meets (past : Transcript) :
    Attempt.Meets ⟨fun _ call => call.isWrite = false, fun past request =>
      ∃ id now, request = { id, requestedAt := now } ∧ past.head? = some ⟨.now, now⟩⟩ freshRequest past := by
  refine ⟨rfl, fun id => ⟨rfl, fun now request same => ?_⟩⟩
  cases same
  exact ⟨id, now, rfl, rfl⟩

variable (settings : Settings) (signer : Signer)

variable (http) in
inductive Migrates : Transcript → Except OAuthError Unit → Prop
  | refused {past : Transcript} {error : OAuthError} (idle : past.Idle) : Migrates past (.error error)
  | permitted {before past : Transcript} {form : Table String} {owner : Credentials} {client : Client}
      {id : Uuid} {now : Instant} {ending : Except OAuthError Outcome × TokenRequest} (idle : before.Idle)
      (permitted : Permitted before.registry settings.migrationScope http form owner client)
      (last : before.head? = some ⟨.now, now⟩)
      (ends : Migration.Ends (authority settings signer)
        (migratedRequest { id, requestedAt := now } client owner.id form)
        (migratedResponse (field form "token") (field form "refresh_token")) before past ending) :
      Migrates past (ending.1.map fun _ => ())

theorem migrateAll_meets {before : Transcript} (request : TokenRequest) (response : TokenResponse) :
    Work.Meets ⟨fun _ => Migration.Makes (authority settings signer) request response, fun past result =>
      ∃ ending, Migration.Ends (authority settings signer) request response before past ending ∧
        result.1 = ending.1.map fun _ => ()⟩
      ((migrateAll (standard settings signer).migrations response).apply request) before := by
  rw [standard, apply_migrateAll_single]
  refine .bind _ (Migration.migrate_makes (authority settings signer) request response before) ?_
  rintro past ⟨error | outcome, stored⟩ ends
  · exact ⟨_, ends, rfl⟩
  · cases ends with
    | alone read => exact ⟨_, .alone read, rfl⟩
    | both read => exact ⟨_, .both read, rfl⟩

variable (http) in
/-- The calls of a request that is permitted, by what earlier calls have found. -/
inductive Imports (past : Transcript) : Call → Prop
  | intro {form : Table String} {owner : Credentials} {client : Client} {id : Uuid} {now : Instant} {call : Call}
      (permitted : Permitted past.registry settings.migrationScope http form owner client)
      (makes : Migration.Makes (authority settings signer)
        (migratedRequest { id, requestedAt := now } client owner.id form)
        (migratedResponse (field form "token") (field form "refresh_token")) call) : Imports past call

/-- Nothing is written before the request is permitted. -/
theorem migrate_imports (http : HttpRequest) {past : Transcript} (idle : past.Idle) :
    Work.Meets ⟨fun past call => call.isWrite = false ∨ Imports http settings signer past call,
      Migrates http settings signer⟩ ((standard settings signer).migrate http).run past := by
  have allowed : ∀ (past : Transcript) call, call.isWrite = false →
      call.isWrite = false ∨ Imports http settings signer past call := fun _ _ => .inl
  have failed : ∀ (past : Transcript) error, past.Idle → Migrates http settings signer past (.error error) :=
    fun _ _ => .refused
  -- Each check only asks, so that its failure leaves the store alone; what it has found is kept for those behind it.
  refine Attempt.asking_bind (fun _ _ => http.requirePost = .ok ()) (.ofExcept fun _ posted => posted) idle
    allowed failed ?_
  intro past _ _ idle posted
  refine Attempt.asking_bind (fun _ form => http.form = .ok form) (.ofExcept fun _ read => read) idle
    allowed failed ?_
  intro past form _ idle read
  change Work.Meets _ (ExceptT.run (if field form "token" = "" then _ else _)) past
  split
  · exact .refused idle
  · next tokened =>
    refine Attempt.asking_bind _ (findMigrator_meets (standard settings signer) http past) idle allowed
      failed ?_
    intro past _ _ idle vouched
    refine Attempt.asking_bind _ (findOwner_meets form past) idle allowed failed ?_
    rintro known ⟨client, _⟩ grown idle ⟨owner, rfl, owned⟩
    refine Attempt.asking_bind _ (freshRequest_meets known) idle allowed failed ?_
    rintro before _ later idle ⟨id, now, rfl, last⟩
    have permitted : Permitted (Transcript.registry known) settings.migrationScope http form owner client :=
      ⟨HttpRequest.posted_of_requirePost posted, read, tokened,
        vouched.mono (Transcript.registry_mono grown), owned⟩
    change Work.Meets _ (ExceptT.run (editing _ _ >>= fun result => pure ((fun _ => ()) result))) before
    rw [run_editing]
    have takesOver := (@migrateAll_meets settings signer before
      (migratedRequest { id, requestedAt := now } client owner.id form)
      (migratedResponse (field form "token") (field form "refresh_token"))).throughout (known ⊆ ·)
      (fun _ _ _ within _ => List.subset_cons_of_subset _ within) later
    refine .bind _ (takesOver.mono ?_ fun _ _ ends => ends) ?_
    · rintro past call ⟨within, makes⟩
      exact .inr (.intro (permitted.mono (Transcript.registry_mono within)) makes)
    · rintro past ⟨result, stored⟩ ⟨_, ending, ends, rfl⟩
      have known := permitted.mono (Transcript.registry_mono later)
      have concluded : Migrates http settings signer past (ending.1.map fun _ => ()) :=
        .permitted idle known last ends
      rcases ending with ⟨error | outcome, _⟩ <;> exact concluded

theorem migrate_meets (http : HttpRequest) {past : Transcript} (idle : past.Idle) :
    Work.Meets ⟨fun past call => call.isWrite = false ∨ Migration.Asks past call,
      Migrates http settings signer⟩ ((standard settings signer).migrate http).run past := by
  refine (migrate_imports settings signer http idle).mono ?_ fun _ _ ends => ends
  rintro past call (asks | ⟨_, makes⟩)
  · exact .inl asks
  · exact .inr makes.asks

structure Imported (form : Table String) (owner : Credentials) (client : Client) (expiries : Expiries)
    (request : TokenRequest) : Prop where
  issued : request.client = client
  posted : request.form = form
  requested : request.requestedScopes = client.scopes
  granted : request.grantedScopes = WordList.parseSpaced (field form "scope")
  session : request.session =
    { subject := owner.id
      username := field form "username"
      expiresAt := expiries
      extra := (∅ : Table Json).insert migratedKey (.bool true) }

/-- What has become of the store once tokens have been taken over, at an instant. -/
structure TakenOver (lifespans : Lifespans) (form : Table String) (owner : Credentials) (client : Client)
    (now : Instant) (before after : Store) : Prop where
  clients : after.clients = before.clients
  access : SignedToken.signatureOf (dotted (field form "token")) ≠ "" ∧ ∃ request,
    Imported form owner client { accessToken := some (now.plusSeconds lifespans.accessSeconds) } request ∧
      after.access =
        before.access.insert (SignedToken.signatureOf (dotted (field form "token"))) request
  unrefreshed : field form "refresh_token" = "" → after.refresh = before.refresh
  refresh : field form "refresh_token" ≠ "" →
    SignedToken.signatureOf (dotted (field form "refresh_token")) ≠ "" ∧ ∃ request,
      Imported form owner client
        { accessToken := some (now.plusSeconds lifespans.accessSeconds)
          refreshToken :=
            if 0 < lifespans.refreshSeconds then some (now.plusSeconds lifespans.refreshSeconds)
            else none } request ∧
      after.refresh =
        before.refresh.insert (SignedToken.signatureOf (dotted (field form "refresh_token"))) request

theorem dotted_of_mem {token : String} (dot : '.' ∈ token.toList) : dotted token = token :=
  if_pos (List.contains_iff_mem.mpr dot)

theorem dotted_of_not_mem {token : String} (undotted : '.' ∉ token.toList) : dotted token = "." ++ token :=
  if_neg (by simpa using undotted)

theorem dotted_ne_empty {token : String} (given : token ≠ "") : dotted token ≠ "" := by
  rw [dotted]
  split
  · exact given
  · intro blank
    have characters := congrArg String.toList blank
    simp at characters

theorem accessToken_migratedResponse (token refreshToken : String) :
    (migratedResponse token refreshToken).accessToken = dotted token := by
  rw [migratedResponse]
  split <;> rfl

theorem signatures_migratedResponse {token refreshToken access : String} {refresh : Option String}
    (read : Migration.signatures (migratedResponse token refreshToken) = .ok (access, refresh)) :
    access = SignedToken.signatureOf (dotted token) ∧ access ≠ "" ∧
      if refreshToken = "" then refresh = none
      else refresh = some (SignedToken.signatureOf (dotted refreshToken)) ∧
        SignedToken.signatureOf (dotted refreshToken) ≠ "" := by
  have other : migratedKey ≠ TokenResponse.refreshTokenKey := by decide
  by_cases given : refreshToken = ""
  · have found : (migratedResponse token refreshToken).extra.get? TokenResponse.refreshTokenKey = none := by
      rw [migratedResponse, if_pos given]
      exact Table.get?_insert_ne _ _ other
    rw [if_pos given]
    simp only [Migration.signatures, found, accessToken_migratedResponse] at read
    change (if _ = "" then _ else if "" = "" then _ else _) = _ at read
    split at read
    · cases read
    · next signed =>
      cases read
      exact ⟨rfl, signed, rfl⟩
  · have found : (migratedResponse token refreshToken).extra.get? TokenResponse.refreshTokenKey =
        some (.string (dotted refreshToken)) := by
      rw [migratedResponse, if_neg given]
      exact (Table.get?_insert_ne _ _ other).trans (Table.get?_insert_self _ _ _)
    rw [if_neg given]
    simp only [Migration.signatures, found, accessToken_migratedResponse] at read
    change (if _ = "" then _ else if dotted refreshToken = "" then _ else if _ = "" then _ else _) = _
      at read
    rw [if_neg (dotted_ne_empty given)] at read
    split at read
    · cases read
    · next signed =>
      split at read
      · cases read
      · next signedToo =>
        cases read
        exact ⟨rfl, signed, rfl, signedToo⟩

theorem imported_refreshRequest (request : TokenRequest) (now : Instant) :
    Imported form owner client
      { accessToken := some (now.plusSeconds settings.lifespans.accessSeconds)
        refreshToken :=
          if 0 < settings.lifespans.refreshSeconds then
            some (now.plusSeconds settings.lifespans.refreshSeconds)
          else none }
      (Migration.refreshRequest (authority settings signer) (migratedRequest request client owner.id form)
        now) := by
  have same : (authority settings signer).lifespans = settings.lifespans := rfl
  rw [Migration.refreshRequest, same]
  split <;> exact ⟨rfl, rfl, rfl, rfl, rfl⟩

variable {settings signer} in
/-- Tokens that are taken over are stored at one instant, which the last asked for. -/
theorem takenOver_of_ends {id : Uuid} {requestedAt : Instant} {before past : Transcript}
    {ending : Except OAuthError Outcome × TokenRequest} (idle : before.Idle)
    (ends : Migration.Ends (authority settings signer)
      (migratedRequest { id, requestedAt } client owner.id form)
      (migratedResponse (field form "token") (field form "refresh_token")) before past ending)
    {outcome : Outcome} (done : ending.1 = .ok outcome) (store : Store) :
    ∃ now, ⟨.now, now⟩ ∈ past ∧ TakenOver settings.lifespans form owner client now store
      (past.foldr (fun made store => made.effect store) store) := by
  cases ends with
  | malformed | refused | undone | stuck => cases done
  | @alone access now read =>
    obtain ⟨rfl, signed, refresh⟩ := signatures_migratedResponse read
    have unrefreshed : field form "refresh_token" = "" := by
      by_contra given
      rw [if_neg given] at refresh
      cases refresh.1
    refine ⟨now, by simp, ?_⟩
    rw [List.foldr_cons, List.foldr_cons, idle.effect]
    exact ⟨rfl, ⟨signed, _, ⟨rfl, rfl, rfl, rfl, rfl⟩, rfl⟩, fun _ => rfl,
      fun given => absurd unrefreshed given⟩
  | @both access refresh now read =>
    obtain ⟨rfl, signed, refreshed⟩ := signatures_migratedResponse read
    have given : field form "refresh_token" ≠ "" := by
      intro blank
      rw [if_pos blank] at refreshed
      cases refreshed
    rw [if_neg given] at refreshed
    obtain ⟨same, signedToo⟩ := refreshed
    cases same
    refine ⟨now, by simp, ?_⟩
    rw [List.foldr_cons, List.foldr_cons, List.foldr_cons, idle.effect]
    refine ⟨rfl, ⟨signed, _, ⟨rfl, rfl, rfl, rfl, rfl⟩, rfl⟩, fun blank => absurd blank given,
      fun _ => ⟨signedToo, _, imported_refreshRequest settings signer _ now, rfl⟩⟩

/-- A request to migrate tokens that has been carried out has ended in one of its ways, by calls that the store has
answered. -/
theorem migrates_of_performed (instruments : Instruments) (settings : Settings) (http : HttpRequest) (store : Store)
    (chances : Nat → Chance) :
    let migrating := instruments.perform ((standard settings instruments.signer).migrate http).run
      ⟨store, chances, []⟩
    Migrates http settings instruments.signer migrating.2.calls migrating.1 ∧
      Answered instruments (Stage.Offers ⟨store, chances, []⟩) store migrating.2.calls migrating.2.store := by
  have unused : (Stage.calls ⟨store, chances, []⟩).Idle := Transcript.idle_nil
  exact ⟨(migrate_meets settings instruments.signer http unused).ended instruments,
    instruments.perform_answered _ (fun _ offered => offered) .start⟩

variable {settings} in
/-- A request to migrate tokens that succeeds has been permitted, and has had its tokens taken over after calls that
only asked. -/
theorem migrated_of_done {instruments : Instruments} {store : Store} {chances : Nat → Chance} :
    let migrating := instruments.perform ((standard settings instruments.signer).migrate http).run
      ⟨store, chances, []⟩
    migrating.1 = .ok () → ∃ form owner client id requestedAt before ending outcome,
      Permitted (store.registry instruments.hasher) settings.migrationScope http form owner client ∧
      Transcript.Idle before ∧ before.head? = some ⟨.now, requestedAt⟩ ∧
      Migration.Ends (authority settings instruments.signer)
        (migratedRequest { id, requestedAt } client owner.id form)
        (migratedResponse (field form "token") (field form "refresh_token")) before migrating.2.calls ending ∧
      ending.1 = .ok outcome ∧
      migrating.2.store = migrating.2.calls.foldr (fun made store => made.effect store) store := by
  intro migrating done
  obtain ⟨migrates, answered⟩ : Migrates http settings instruments.signer migrating.2.calls migrating.1 ∧
      Answered instruments (Stage.Offers ⟨store, chances, []⟩) store migrating.2.calls migrating.2.store :=
    migrates_of_performed instruments settings http store chances
  have effects := answered.effects
  generalize migrating.2.calls = calls at *
  generalize migrating.2.store = after at *
  generalize migrating.1 = result at *
  cases migrates with
  | refused => cases done
  | @permitted before _ form owner client id requestedAt ending idle permitted last ends =>
    have known := (permitted.mono (Transcript.registry_mono ends.grown)).mono answered.registry
    obtain ⟨outcome, succeeded⟩ : ∃ outcome, ending.1 = .ok outcome := by
      rcases ending with ⟨error | outcome, _⟩
      · cases done
      · exact ⟨outcome, rfl⟩
    exact ⟨form, owner, client, id, requestedAt, before, ending, outcome, known, idle, last, ends, succeeded, effects⟩

/-- Only a request that is permitted changes anything or is answered with success, and then it has had its
tokens taken over. Without credentials in the header nothing is permitted, whatever the body says. -/
theorem migration_effect (instruments : Instruments) (settings : Settings) (http : HttpRequest)
    (store : Store) (chances : Nat → Chance) :
    let migrating := instruments.perform ((standard settings instruments.signer).migrate http).run
      ⟨store, chances, []⟩
    (migrating.2.store ≠ store ∨ migrating.1 = .ok () → ∃ form owner client,
      Permitted (store.registry instruments.hasher) settings.migrationScope http form owner client) ∧
    (http.basicAuth? = none → migrating.2.store = store ∧ ∃ error, migrating.1 = .error error) ∧
    (migrating.1 = .ok () → ∃ form owner client now, (∃ number, (chances number).instant = now) ∧
      Permitted (store.registry instruments.hasher) settings.migrationScope http form owner client ∧
      TakenOver settings.lifespans form owner client now store migrating.2.store) := by
  intro migrating
  obtain ⟨migrates, answered⟩ : Migrates http settings instruments.signer migrating.2.calls migrating.1 ∧
      Answered instruments (Stage.Offers ⟨store, chances, []⟩) store migrating.2.calls migrating.2.store :=
    migrates_of_performed instruments settings http store chances
  have effects := answered.effects
  generalize migrating.2.calls = calls at *
  generalize migrating.2.store = after at *
  generalize migrating.1 = result at *
  cases migrates with
  | refused idle =>
    rw [idle.effect] at effects
    refine ⟨?_, fun _ => ⟨effects, _, rfl⟩, fun done => nomatch done⟩
    rintro (changed | done)
    · exact absurd effects changed
    · cases done
  | @permitted before _ form owner client id requestedAt ending idle permitted _ ends =>
    have known := (permitted.mono (Transcript.registry_mono ends.grown)).mono answered.registry
    refine ⟨fun _ => ⟨form, owner, client, known⟩, ?_, ?_⟩
    · intro missing
      cases known.vouched with
      | intro header => cases missing.symm.trans header
    · intro done
      obtain ⟨_, succeeded⟩ : ∃ outcome, ending.1 = .ok outcome := by
        rcases ending with ⟨error | outcome, _⟩
        · cases done
        · exact ⟨outcome, rfl⟩
      obtain ⟨now, asked, takenOver⟩ := takenOver_of_ends idle ends succeeded store
      obtain ⟨_, ⟨number, rfl⟩, same⟩ := answered.told asked
      rw [← effects] at takenOver
      exact ⟨form, owner, client, now, ⟨number, same⟩, known, takenOver⟩

end Provider

namespace Specimen

def migrator : Client := ⟨"import", "plain:pass", false, [], [usualMigrationScope]⟩

def migratorStore : Store := .ofClients [client, migrator]

/-- The migrator has two tokens taken over for the client `app`, of which the first has no dot. -/
def migrationPost : HttpRequest :=
  (HttpRequest.formPost [("token", "opaque"), ("refresh_token", "AQID.AQID"), ("client", "YXBwOmtleQ=="),
    ("scope", "offline a"), ("username", "ann")]).withBasicAuth "import" "pass"

end Specimen

theorem Provider.migration_specimen :
    let migrating := Specimen.instruments.perform
      ((standard {} Specimen.instruments.signer).migrate Specimen.migrationPost).run
      ⟨Specimen.migratorStore, Specimen.chances, []⟩
    migrating.1 = .ok () ∧ migrating.2.store.access.contains "opaque" = true ∧
      migrating.2.store.refresh.contains "AQID" = true ∧
      ∃ form owner client now, (∃ number, (Specimen.chances number).instant = now) ∧
        Permitted (Specimen.migratorStore.registry Specimen.instruments.hasher) usualMigrationScope
          Specimen.migrationPost form owner client ∧
        TakenOver {} form owner client now Specimen.migratorStore migrating.2.store := by
  intro migrating
  have done : migrating.1 = .ok () := by decide +kernel
  have stored : migrating.2.store.access.contains "opaque" = true ∧
      migrating.2.store.refresh.contains "AQID" = true := by decide +kernel
  obtain ⟨_, _, effect⟩ := migration_effect Specimen.instruments {} Specimen.migrationPost
    Specimen.migratorStore Specimen.chances
  exact ⟨done, stored.1, stored.2, effect done⟩

end TokenServer
