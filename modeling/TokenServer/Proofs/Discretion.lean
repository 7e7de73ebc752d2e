import TokenServer.Http.Endpoint
import TokenServer.Proofs.Alike
import TokenServer.Proofs.MigrationRequest

/-! What callers learn of a store that fails. Every failure is reported as one error for all failures of its kind,
with the exception of a refresh session that is not there, or as an error of the server, of which callers are told
nothing but that there was one. So the answer shows that a call has failed and never how. -/

namespace TokenServer

namespace OAuthError.Alike

theorem sessionFailed (one other : StoreError) : Alike (.sessionFailed one) (.sessionFailed other) := ⟨rfl, rfl⟩

theorem storage (one other : StoreError) : Alike (.storage one) (.storage other) := ⟨rfl, rfl⟩

theorem rollbackFailed (cause other cleanup second : StoreError) :
    Alike (.rollbackFailed cause cleanup) (.rollbackFailed other second) := ⟨rfl, rfl⟩

theorem loadError {one other : StoreError} (same : one.isNotFound = other.isNotFound) :
    Alike (RefreshGrant.loadError one) (RefreshGrant.loadError other) := by
  rw [RefreshGrant.loadError, RefreshGrant.loadError, same]
  split
  · exact .refl _
  · exact sessionFailed one other

end OAuthError.Alike

theorem TokenAuthority.validateRefresh_alike (authority : TokenAuthority) (request : TokenRequest) (token : String) :
    Work.Alike Eq (authority.validateRefresh request token) (authority.validateRefresh request token) := by
  unfold validateRefresh
  split
  · refine .ask ?_
    rintro now _ rfl
    exact .done rfl
  · exact .done rfl

namespace RefreshGrant

variable (authority : TokenAuthority)

theorem validate_alike : WorkEdit.Alike (validate authority) (validate authority) := by
  refine .bind .get fun request => ?_
  split
  · exact .pure _
  refine .whenever (.throw _) ?_
  refine .call_bind _ fun found other alike => .bind (.ofExcept alike fun _ _ => .loadError) fun session => ?_
  refine .call_bind .now ?_
  rintro now _ rfl
  refine .bind (.ofExcept_same _ _) fun tooOld => .whenever (.throw _) (.whenever (.throw _) ?_)
  refine .lift_bind (authority.validateRefresh_alike request _) fun checked => ?_
  refine .bind (.ofExcept_same _ _) fun _ => .whenever (.throw _) ?_
  refine .call_bind .now ?_
  rintro later _ rfl
  exact .bind (.set _) fun _ => .pure _

theorem nextToken_alike (presented : String) :
    WorkEdit.Alike (nextToken authority presented) (nextToken authority presented) := by
  unfold nextToken
  split
  · exact .pure _
  · exact .mint .refresh

theorem populate_alike (request : TokenRequest) :
    WorkEdit.Alike (populate authority request) (populate authority request) := by
  unfold populate
  split
  · exact .pure _
  refine .bind (.mint .access) fun access => .bind (nextToken_alike authority _) fun refresh => ?_
  refine .call_bind _ fun exchanged other alike =>
    .bind (.ofExcept alike fun _ _ _ => .sessionFailed _ _) fun _ => ?_
  refine .call_bind .now ?_
  rintro now _ rfl
  exact .bind (.modify _) fun _ => .pure _

end RefreshGrant

namespace ClientCredentialsGrant

variable (authority : TokenAuthority)

theorem validate_alike : WorkEdit.Alike (validate authority) (validate authority) := by
  refine .bind .get fun request => ?_
  split
  · exact .pure _
  split
  · exact .throw _
  refine .call_bind .now ?_
  rintro now _ rfl
  exact .bind (.set _) fun _ => .pure _

theorem populate_alike (request : TokenRequest) :
    WorkEdit.Alike (populate authority request) (populate authority request) := by
  unfold populate
  split
  · exact .pure _
  refine .bind (.mint .access) fun access => ?_
  refine .call_bind _ fun created other alike =>
    .bind (.ofExcept alike fun _ _ _ => .sessionFailed _ _) fun _ => ?_
  refine .call_bind .now ?_
  rintro now _ rfl
  exact .bind (.modify _) fun _ => .pure _

end ClientCredentialsGrant

namespace Migration

variable (authority : TokenAuthority)

theorem rollBack_alike (access : String) (one other : StoreError) :
    WorkEdit.Alike (rollBack access one >>= fun error => throw error : WorkEdit TokenRequest Unit)
      (rollBack access other >>= fun error => throw error) := by
  intro request
  refine .ask fun removed second alike => ?_
  cases alike with
  | ok => exact .done ⟨.error (.storage one other), rfl⟩
  | error => exact .done ⟨.error (.rollbackFailed one other _ _), rfl⟩

theorem storeRefresh_alike (access refresh : String) (now : Instant) :
    WorkEdit.Alike (storeRefresh authority access refresh now) (storeRefresh authority access refresh now) := by
  unfold storeRefresh
  refine .whenever (.modify _) (.bind .get fun request => .call_bind _ fun created other alike => ?_)
  cases alike with
  | ok => exact .pure _
  | error => exact rollBack_alike access _ _

theorem migrate_alike (response : TokenResponse) :
    WorkEdit.Alike (migrate authority response) (migrate authority response) := by
  refine .bind (.ofExcept_same _ _) fun signatures => ?_
  refine .call_bind .now ?_
  rintro now _ rfl
  refine .bind (.modify _) fun _ => .bind .get fun request => ?_
  refine .call_bind _ fun created other alike =>
    .bind (.ofExcept alike fun _ _ _ => .storage _ _) fun _ => ?_
  rcases signatures with ⟨access, none | refresh⟩
  · exact .pure _
  · exact .bind (storeRefresh_alike authority access refresh now) fun _ => .pure _

end Migration

theorem validateAll_alike {handlers : List (GrantHandler Work)}
    (each : ∀ handler ∈ handlers, WorkEdit.Alike handler.validate handler.validate) :
    WorkEdit.Alike (validateAll handlers) (validateAll handlers) := by
  refine .bind (.mapM each) fun outcomes => ?_
  split
  · exact .pure _
  · exact .bind .get fun request => .throw _

theorem populateAll_alike {handlers : List (GrantHandler Work)} {request : TokenRequest}
    (each : ∀ handler ∈ handlers, WorkEdit.Alike (handler.populate request) (handler.populate request)) :
    WorkEdit.Alike (populateAll handlers request) (populateAll handlers request) := by
  refine .bind (.mapM each) fun _ => .bind .get fun response => ?_
  split
  · exact .pure _
  · exact .throw _

theorem migrateAll_alike {handlers : List (MigrationHandler Work)} {response : TokenResponse}
    (each : ∀ handler ∈ handlers, WorkEdit.Alike (handler.migrate response) (handler.migrate response)) :
    WorkEdit.Alike (migrateAll handlers response) (migrateAll handlers response) := by
  refine .bind (.mapM each) fun outcomes => ?_
  split
  · exact .pure _
  · exact .throw _

namespace Client

theorem find_alike (id : String) : Attempt.Alike (find id) (find id) :=
  .call_bind _ fun _ _ alike => .ofExcept alike fun _ _ _ => .refl _

theorem verifySecret_alike (client : Client) (secret : String) :
    Attempt.Alike (verifySecret client secret) (verifySecret client secret) := by
  refine .call_bind (.compareSecret client.hashedSecret secret) ?_
  rintro compared _ rfl
  split
  · exact .pure _
  · exact .throw _
  · exact .throw _

theorem authenticate_alike (credentials : Credentials) :
    Attempt.Alike (authenticate credentials) (authenticate credentials) := by
  refine .bind (find_alike credentials.id) fun client => ?_
  change Attempt.Alike (if client.isPublic then _ else _) (if client.isPublic then _ else _)
  split
  · exact .pure _
  · exact .bind (verifySecret_alike client _) fun _ => .pure _

end Client

theorem HttpAnswer.ofResult_eq {α : Type} {answer : α → HttpAnswer} {one other : Except OAuthError α}
    (concur : Concur OAuthError.Alike one other) : ofResult answer one = ofResult answer other := by
  cases concur with
  | ok value => rfl
  | error same => rw [ofResult, ofResult, ofError, ofError, same.status, same.reply]

namespace Provider

variable (settings : Settings) (signer : Signer)

theorem editing_alike {σ α : Type} {edit : WorkEdit σ α} (alike : WorkEdit.Alike edit edit) (value : σ) :
    Attempt.Alike (editing edit value) (editing edit value) := by
  refine Work.Alike.bind (alike value) ?_
  rintro ⟨_, after⟩ ⟨_, _⟩ ⟨concur, rfl⟩
  exact .done (concur.map _)

theorem freshRequest_alike : Attempt.Alike freshRequest freshRequest := by
  refine .call_bind .freshId ?_
  rintro id _ rfl
  refine .call_bind .now ?_
  rintro now _ rfl
  exact .pure _

theorem acceptRequest_alike (http : HttpRequest) (session : Session) :
    Attempt.Alike ((standard settings signer).acceptRequest http session)
      ((standard settings signer).acceptRequest http session) := by
  refine .bind (.ofExcept_same _ _) fun _ => .bind (.ofExcept_same _ _) fun form => ?_
  refine .bind freshRequest_alike fun request => .whenever (.throw _) ?_
  refine .bind (.ofExcept_same _ _) fun credentials => .bind (Client.authenticate_alike credentials) fun client => ?_
  refine .bind (editing_alike (validateAll_alike ?_) _) fun accepted => .pure _
  intro handler member
  simp only [standard, List.mem_cons, List.not_mem_nil, or_false] at member
  rcases member with rfl | rfl
  · exact RefreshGrant.validate_alike _
  · exact ClientCredentialsGrant.validate_alike _

theorem respond_alike (request : TokenRequest) :
    Attempt.Alike ((standard settings signer).respond request) ((standard settings signer).respond request) := by
  refine .bind (editing_alike (populateAll_alike ?_) _) fun filled => .pure _
  intro handler member
  simp only [standard, List.mem_cons, List.not_mem_nil, or_false] at member
  rcases member with rfl | rfl
  · exact RefreshGrant.populate_alike _ request
  · exact ClientCredentialsGrant.populate_alike _ request

theorem findMigrator_alike (provider : Provider) (http : HttpRequest) :
    Attempt.Alike (provider.findMigrator http) (provider.findMigrator http) := by
  rw [findMigrator]
  split
  · refine .bind (.ofExcept_same _ _) fun credentials => .bind (Client.find_alike _) fun migrator => ?_
    refine .whenever (.throw _) ?_
    exact .bind (Client.verifySecret_alike _ _) fun _ => .whenever (.throw _) (.pure _)
  · exact .throw _

theorem findOwner_alike (form : Table String) : Attempt.Alike (findOwner form) (findOwner form) := by
  refine .bind (.ofExcept_same _ _) fun owner => .bind (Client.find_alike _) fun client => ?_
  exact .whenever (Client.verifySecret_alike client _) (.pure _)

theorem migrate_alike (http : HttpRequest) :
    Attempt.Alike ((standard settings signer).migrate http) ((standard settings signer).migrate http) := by
  refine .bind (.ofExcept_same _ _) fun _ => .bind (.ofExcept_same _ _) fun form => .whenever (.throw _) ?_
  refine .bind (findMigrator_alike _ http) fun _ => .bind (findOwner_alike form) fun owned => ?_
  refine .bind freshRequest_alike fun request => ?_
  refine .bind (editing_alike (migrateAll_alike ?_) _) fun _ => .pure _
  intro handler member
  cases List.mem_singleton.mp member
  exact Migration.migrate_alike _ _

theorem answerToken_alike (http : HttpRequest) :
    Work.Alike Eq ((standard settings signer).answerToken http) ((standard settings signer).answerToken http) := by
  have attempt : Attempt.Alike
      ((standard settings signer).acceptRequest http {} >>= (standard settings signer).respond)
      ((standard settings signer).acceptRequest http {} >>= (standard settings signer).respond) :=
    .bind (acceptRequest_alike settings signer http {}) (respond_alike settings signer)
  exact Work.Alike.bind attempt fun _ _ concur => .done (HttpAnswer.ofResult_eq concur)

theorem answerMigration_alike (http : HttpRequest) :
    Work.Alike Eq ((standard settings signer).answerMigration http)
      ((standard settings signer).answerMigration http) :=
  Work.Alike.bind (migrate_alike settings signer http) fun _ _ concur => .done (HttpAnswer.ofResult_eq concur)

theorem route_alike {target : String} {http : HttpRequest} {work : Work HttpAnswer}
    (routed : (standard settings signer).route target http = .ok work) : Work.Alike Eq work work := by
  unfold route at routed
  dsimp only at routed
  split at routed
  · split at routed
    · cases routed
    · split at routed <;> cases routed
      · exact answerToken_alike settings signer http
      · exact answerMigration_alike settings signer http
  · cases routed

end Provider

/-- Two backends that take turns alike from states that correspond to each other: the same calls fail, and the
others come back with the same values. -/
structure BackendsAlike {σ τ : Type} (first : (call : Call) → σ → call.Reply × σ)
    (second : (call : Call) → τ → call.Reply × τ) (simulates : σ → τ → Prop) : Prop where
  replies : ∀ (call : Call) one other, simulates one other → call.Alike (first call one).1 (second call other).1
  onwards : ∀ (call : Call) one other, simulates one other → simulates (first call one).2 (second call other).2

/-- Whatever a backend says of its failures, the answer to a request is the same. -/
theorem Provider.answer_of_backendsAlike (settings : Settings) (signer : Signer) {σ τ : Type}
    {first : (call : Call) → σ → call.Reply × σ} {second : (call : Call) → τ → call.Reply × τ}
    {simulates : σ → τ → Prop} (alike : BackendsAlike first second simulates) (target : String) (http : HttpRequest)
    {work : Work HttpAnswer} (routed : (standard settings signer).route target http = .ok work) {one : σ} {other : τ}
    (start : simulates one other) : (work.run first one).1 = (work.run second other).1 :=
  ((route_alike settings signer routed).run
    (fun call one other simulated => ⟨alike.replies call one other simulated, alike.onwards call one other simulated⟩)
    start).1

/-- What two calls meet with differs at most in what a failure says. -/
structure Chance.Alike (one other : Chance) : Prop where
  instant : one.instant = other.instant
  identifier : one.identifier = other.identifier
  key : one.key = other.key
  failure : one.failure.map StoreError.isNotFound = other.failure.map StoreError.isNotFound

structure Stage.Alike (one other : Stage) : Prop where
  store : one.store = other.store
  chances : ∀ number, (one.chances number).Alike (other.chances number)

theorem Call.Alike.refl (call : Call) (reply : call.Reply) : call.Alike reply reply := by
  cases call with
  | findSession kind => cases kind <;> exact Concur.refl (fun _ => by trivial) reply
  | findClient | createSession | deleteSession | exchangeSession => exact Concur.refl (fun _ => trivial) reply
  | now | freshId | mint | compareSecret => rfl

namespace Instruments

variable (instruments : Instruments)

theorem answer_alike {one other : Chance} (alike : one.Alike other) (call : Call) (store : Store) :
    call.Alike (instruments.answer one call store).1 (instruments.answer other call store).1 ∧
      (instruments.answer one call store).2 = (instruments.answer other call store).2 := by
  obtain ⟨instant, identifier, key, failure⟩ := one
  obtain ⟨_, _, _, second⟩ := other
  obtain ⟨rfl, rfl, rfl, same⟩ := alike
  cases failure with
  | none =>
    cases second with
    | none => exact ⟨.refl _ _, rfl⟩
    | some => cases same
  | some failure =>
    cases second with
    | none => cases same
    | some second =>
      cases call with
      | findSession kind =>
        cases kind with
        | access => exact ⟨.error trivial, rfl⟩
        | refresh => exact ⟨.error (Option.some.inj same), rfl⟩
      | findClient | createSession | deleteSession | exchangeSession => exact ⟨.error trivial, rfl⟩
      | now | freshId | mint | compareSecret => exact ⟨rfl, rfl⟩

/-- The store in memory, with failures whose contents are arbitrary. -/
theorem backendsAlike : BackendsAlike instruments.reply instruments.reply Stage.Alike where
  replies call one other alike := by
    have answered := (instruments.answer_alike (alike.chances 0) call one.store).1
    rw [reply, reply, ← alike.store]
    exact answered
  onwards call one other alike := by
    have answered := (instruments.answer_alike (alike.chances 0) call one.store).2
    rw [reply, reply, ← alike.store]
    exact ⟨answered, fun number => alike.chances (number + 1)⟩

end Instruments

namespace Specimen

/-- The store fails from the ninth call on. -/
def failingStage (error : StoreError) : Stage where
  store := migratorStore
  chances number := if 8 ≤ number then { chances number with failure := some error } else chances number

end Specimen

/-- A migration that can neither be finished nor undone is answered alike for all failures. -/
theorem Provider.answer_of_stuck_migration :
    let work := (standard {} Specimen.instruments.signer).answerMigration Specimen.migrationPost
    let answer (error : StoreError) := (work.run Specimen.instruments.reply (Specimen.failingStage error)).1
    (answer (.connection "down")).status = 500 ∧ answer (.connection "down") = answer (.query "no such table") := by
  intro work answer
  have routed : (standard {} Specimen.instruments.signer).route "/oauth2/token/migrate" Specimen.migrationPost =
      .ok work := by
    rw [route, if_pos (by decide +kernel), if_neg (by decide +kernel), if_neg (by decide +kernel)]
  refine ⟨by decide +kernel, answer_of_backendsAlike {} Specimen.instruments.signer
    Specimen.instruments.backendsAlike _ _ routed ⟨rfl, fun number => ?_⟩⟩
  simp only [Specimen.failingStage]
  split <;> exact ⟨rfl, rfl, rfl, rfl⟩

end TokenServer
