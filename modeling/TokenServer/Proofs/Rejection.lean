import TokenServer.Http.Endpoint
import TokenServer.Proofs.MigrationRequest

/-! Clients that cannot prove who they are. At both endpoints, for a client that asks for tokens, for one that migrates
them and for the one that they were issued to, a failed authentication is answered in one way, before any session is
looked at: the answer does not tell whether there is such a client. -/

namespace TokenServer

def SecretHasher.Steady (hasher : SecretHasher) : Prop :=
  ∀ hashed candidate reason, hasher.compare hashed candidate ≠ .error (.aborted reason)

theorem SecretHasher.steady_argon2 : argon2.Steady := by
  intro hashed candidate reason aborted
  simp only [argon2] at aborted
  cases compared : compareArgon2 hashed candidate <;> rw [compared] at aborted <;> cases aborted

theorem SecretHasher.steady_clear : (clear fun _ => false).Steady := by
  intro hashed candidate reason aborted
  simp only [clear, Bool.false_eq_true, if_false] at aborted
  split at aborted
  · split at aborted <;> cases aborted
  · cases aborted

def Call.touchesSession : Call → Bool
  | .createSession _ _ _ | .findSession _ _ | .deleteSession _ _ | .exchangeSession _ _ _ _ => true
  | _ => false

theorem Call.isWrite_of_aside {call : Call} (aside : call.touchesSession = false) : call.isWrite = false := by
  cases call <;> first | rfl | cases aside

def Transcript.Sessionless (calls : Transcript) : Prop := ∀ made ∈ calls, made.call.touchesSession = false

theorem Transcript.Sessionless.cons {calls : Transcript} (before : calls.Sessionless) {call : Call}
    (aside : call.touchesSession = false) (reply : call.Reply) : Sessionless (⟨call, reply⟩ :: calls) :=
  List.forall_mem_cons.mpr ⟨aside, before⟩

/-- What is found for an id does not prove the secret: there is no client, for whatever reason, or it is a confidential
one that has another secret or none that can be read. -/
inductive Denied (hasher : SecretHasher) (secret : String) : Except StoreError Client → Prop
  | unknown (error : StoreError) : Denied hasher secret (.error error)
  | unproven {client : Client} (confidential : client.isPublic = false)
      (wrong : hasher.compare client.hashedSecret (Utf8.encode secret) ≠ .ok ()) : Denied hasher secret (.ok client)

/-- What is refused if no client can be authenticated: by what is wrong before that, if anything. -/
def refusalOf {α : Type} : Except OAuthError α → OAuthError
  | .ok _ => .authenticationFailed
  | .error error => error

namespace Instruments

variable (instruments : Instruments)

/-- What is found for an id, if the call for it is the one of that number. -/
def found (number : Nat) (id : String) (stage : Stage) : Except StoreError Client :=
  (instruments.answer (stage.chances number) (.findClient id) stage.store).1

theorem store_reply {call : Call} (asking : call.isWrite = false) (stage : Stage) :
    (instruments.reply call stage).2.store = stage.store :=
  (instruments.answer_effect _ _ call).trans (Made.effect_of_asking asking _)

theorem found_reply (call : Call) (asking : call.isWrite = false) (number : Nat) (id : String) (stage : Stage) :
    instruments.found number id (instruments.reply call stage).2 = instruments.found (number + 1) id stage := by
  rw [found, instruments.store_reply asking]
  rfl

variable {instruments} {stage : Stage}

theorem perform_find {id : String} {client : Client} (known : instruments.found 0 id stage = .ok client) :
    instruments.perform (Client.find id).run stage = (.ok client, (instruments.reply (.findClient id) stage).2) := by
  change instruments.perform (ExceptT.run (Attempt.ofExcept _ (instruments.found 0 id stage)))
    (instruments.reply (.findClient id) stage).2 = _
  rw [known]
  rfl

theorem perform_verifySecret {client : Client} {secret : String}
    (proven : instruments.hasher.compare client.hashedSecret (Utf8.encode secret) = .ok ()) :
    instruments.perform (Client.verifySecret client secret).run stage =
      (.ok (), (instruments.reply (.compareSecret client.hashedSecret secret) stage).2) := by
  have replied : (instruments.reply (.compareSecret client.hashedSecret secret) stage).1 = .ok () :=
    (answer_compareSecret _ _).trans proven
  have compared : instruments.perform (Attempt.call (.compareSecret client.hashedSecret secret)).run stage =
      (.ok (.ok ()), (instruments.reply (.compareSecret client.hashedSecret secret) stage).2) :=
    congrArg (fun reply => (Except.ok reply, _)) replied
  rw [Client.verifySecret, Attempt.perform_bind, compared]
  rfl

variable (instruments stage) in
/-- The attempt fails with the error, and no session has been touched by then. -/
structure Rejects {α : Type} (error : OAuthError) (attempt : Attempt α) (stage : Stage) : Prop where
  failed : (instruments.perform attempt.run stage).1 = .error error
  store : (instruments.perform attempt.run stage).2.store = stage.store
  sessionless : stage.calls.Sessionless → (instruments.perform attempt.run stage).2.calls.Sessionless

namespace Rejects

variable {α β : Type} {error : OAuthError}

theorem throw : instruments.Rejects error (MonadExcept.throw error : Attempt α) stage :=
  ⟨rfl, rfl, fun before => before⟩

theorem ofExcept {ε : Type} {toError : ε → OAuthError} {result : Except ε α}
    (refused : result.mapError toError = .error error) :
    instruments.Rejects error (Attempt.ofExcept toError result) stage := by
  rw [Attempt.ofExcept, refused]
  exact throw

theorem bind {attempt : Attempt α} (rejects : instruments.Rejects error attempt stage) (next : α → Attempt β) :
    instruments.Rejects error (attempt >>= next) stage := by
  obtain ⟨failed, store, sessionless⟩ := rejects
  have same : instruments.perform (attempt >>= next).run stage =
      (.error error, (instruments.perform attempt.run stage).2) := by
    rw [Attempt.perform_bind]
    rcases performed : instruments.perform attempt.run stage with ⟨found | value, middle⟩
    · rw [performed] at failed
      cases failed
      rfl
    · rw [performed] at failed
      cases failed
  constructor <;> rw [same]
  · exact store
  · exact sessionless

/-- A check of the request alone goes before, and what is wrong with the request is told at once. -/
theorem checked {γ : Type} {result : Except OAuthError α} {expected : α → Except OAuthError γ} {next : α → Attempt β}
    (rejects : ∀ value, result = .ok value → instruments.Rejects (refusalOf (expected value)) (next value) stage) :
    instruments.Rejects (refusalOf (result >>= expected)) (Attempt.ofExcept id result >>= next) stage := by
  cases result with
  | error refusal => exact bind (ofExcept rfl) next
  | ok value => exact rejects value rfl

/-- A call that has nothing to do with sessions goes before. -/
theorem ask (call : Call) (next : call.Reply → Attempt β) (aside : call.touchesSession = false)
    (rejects : instruments.Rejects error (next (instruments.reply call stage).1) (instruments.reply call stage).2) :
    instruments.Rejects error (Attempt.call call >>= next) stage where
  failed := rejects.failed
  store := rejects.store.trans (instruments.store_reply (Call.isWrite_of_aside aside) stage)
  sessionless before := rejects.sessionless (before.cons aside _)

/-- An attempt that succeeds without touching a session goes before. -/
theorem after {attempt : Attempt α} {next : α → Attempt β} {value : α} {middle : Stage}
    (done : instruments.perform attempt.run stage = (.ok value, middle)) (unchanged : middle.store = stage.store)
    (aside : stage.calls.Sessionless → middle.calls.Sessionless)
    (rejects : instruments.Rejects error (next value) middle) :
    instruments.Rejects error (attempt >>= next) stage := by
  have same : instruments.perform (attempt >>= next).run stage = instruments.perform (next value).run middle := by
    rw [Attempt.perform_bind, done]
  constructor <;> rw [same]
  · exact rejects.failed
  · exact rejects.store.trans unchanged
  · exact fun before => rejects.sessionless (aside before)

theorem find_unknown {id : String} {error : StoreError} (missed : instruments.found 0 id stage = .error error) :
    instruments.Rejects .authenticationFailed (Client.find id) stage := by
  refine ask (.findClient id) (fun found => Attempt.ofExcept (fun _ => .authenticationFailed) found) rfl (ofExcept ?_)
  change (instruments.found 0 id stage).mapError _ = _
  rw [missed]
  rfl

theorem find_known {id : String} {client : Client} {next : Client → Attempt β}
    (known : instruments.found 0 id stage = .ok client)
    (rejects : instruments.Rejects error (next client) (instruments.reply (.findClient id) stage).2) :
    instruments.Rejects error (Client.find id >>= next) stage :=
  after (perform_find known) (instruments.store_reply rfl stage) (·.cons rfl _) rejects

theorem verifySecret {client : Client} {secret : String} (steady : instruments.hasher.Steady)
    (wrong : instruments.hasher.compare client.hashedSecret (Utf8.encode secret) ≠ .ok ()) :
    instruments.Rejects .authenticationFailed (Client.verifySecret client secret) stage := by
  refine ask (.compareSecret client.hashedSecret secret) _ rfl ?_
  have replied : (instruments.reply (.compareSecret client.hashedSecret secret) stage).1 =
      instruments.hasher.compare client.hashedSecret (Utf8.encode secret) := answer_compareSecret _ _
  rw [replied]
  rcases compared : instruments.hasher.compare client.hashedSecret (Utf8.encode secret) with (_ | reason) | _
  · exact throw
  · exact absurd compared (steady _ _ reason)
  · exact absurd compared wrong

/-- Whatever becomes of a client that is found and proven, one that is denied gets no further than its secret. -/
theorem find_denied {id secret : String} {next : Client → Attempt β}
    (denied : Denied instruments.hasher secret (instruments.found 0 id stage))
    (checks : ∀ client middle, instruments.found 0 id stage = .ok client → client.isPublic = false →
      instruments.hasher.compare client.hashedSecret (Utf8.encode secret) ≠ .ok () →
        instruments.Rejects .authenticationFailed (next client) middle) :
    instruments.Rejects .authenticationFailed (Client.find id >>= next) stage := by
  generalize found : instruments.found 0 id stage = result at denied checks
  cases denied with
  | unknown error => exact (find_unknown found).bind next
  | @unproven client confidential wrong => exact find_known found (checks client _ rfl confidential wrong)

theorem authenticate {credentials : Credentials} (steady : instruments.hasher.Steady)
    (denied : Denied instruments.hasher credentials.secret (instruments.found 0 credentials.id stage)) :
    instruments.Rejects .authenticationFailed (Client.authenticate credentials) stage := by
  refine find_denied denied fun client middle _ confidential wrong => ?_
  change instruments.Rejects _ (if client.isPublic then _ else _) middle
  rw [confidential]
  exact (verifySecret steady wrong).bind _

end Rejects

end Instruments

/-- No credentials fail but those that are denied. -/
theorem Client.authenticate_fails_iff {instruments : Instruments} (steady : instruments.hasher.Steady)
    {credentials : Credentials} {stage : Stage} :
    (∃ error, (instruments.perform (authenticate credentials).run stage).1 = .error error) ↔
      Denied instruments.hasher credentials.secret (instruments.found 0 credentials.id stage) := by
  constructor
  · rintro ⟨error, failed⟩
    cases found : instruments.found 0 credentials.id stage with
    | error error => exact .unknown error
    | ok client =>
      rw [authenticate, Attempt.perform_bind, instruments.perform_find found] at failed
      change (instruments.perform (ExceptT.run (if client.isPublic then _ else _)) _).1 = _ at failed
      cases confidential : client.isPublic with
      | true =>
        rw [confidential] at failed
        cases failed
      | false =>
        refine .unproven confidential fun proven => ?_
        rw [confidential] at failed
        change (instruments.perform (ExceptT.run (client.verifySecret credentials.secret >>= _)) _).1 = _ at failed
        rw [Attempt.perform_bind, instruments.perform_verifySecret proven] at failed
        cases failed
  · intro denied
    exact ⟨_, (Instruments.Rejects.authenticate steady denied).failed⟩

namespace Provider

variable (provider : Provider) (instruments : Instruments) (stage : Stage)

def heading (http : HttpRequest) : Except OAuthError Credentials :=
  match http.basicAuth? with
  | some basic => (Credentials.decode basic.user basic.password .header).mapError .credentials
  | none => .error .authorizationMissing

/-- The client that the header names is found by the first call, and may migrate tokens. -/
structure Authorised (http : HttpRequest) (credentials : Credentials) (migrator : Client) : Prop where
  header : heading http = .ok credentials
  known : instruments.found 0 credentials.id stage = .ok migrator
  confidential : migrator.isPublic = false
  proven : instruments.hasher.compare migrator.hashedSecret (Utf8.encode credentials.secret) = .ok ()
  inScope : provider.settings.migrationScope ∈ migrator.scopes

/-- Clients that a request can speak for: the one that asks for tokens, the one that migrates tokens, and the one that
the migrated tokens were issued to. -/
inductive Party where
  | client
  | migrator
  | owner

namespace Party

def answer (http : HttpRequest) : Party → Work HttpAnswer
  | client => provider.answerToken http
  | migrator | owner => provider.answerMigration http

def migration (http : HttpRequest) : Except OAuthError (Table String) := do
  http.requirePost
  let form ← http.form
  if field form "token" = "" then throw .migratedTokenMissing
  return form

/-- The credentials that the request gives for the party, or what is wrong with it before they are looked up. -/
def presented (http : HttpRequest) : Party → Except OAuthError Credentials
  | client => do
    http.requirePost
    let form ← http.form
    if WordList.parse (field form "grant_type") = [] then throw .noGrantType
    (Credentials.ofRequest http form).mapError .credentials
  | migrator => do
    let _ ← migration http
    heading http
  | owner => do
    let form ← migration http
    ownerCredentials (field form "client")

def lookup : Party → Nat
  | migrator => 0
  | client | owner => 2

/-- The party does not prove who it is. The owner's turn is after a migrator that may migrate tokens, and its secret is
checked only if one is given. -/
structure Unproven (http : HttpRequest) (party : Party) : Prop where
  denied : ∀ credentials, party.presented http = .ok credentials →
    Denied instruments.hasher credentials.secret (instruments.found party.lookup credentials.id stage)
  authorised : party = owner → ∃ credentials migrator, Authorised provider instruments stage http credentials migrator
  checked : party = owner → ∀ credentials, party.presented http = .ok credentials →
    credentials.secret ≠ "" ∨ ∃ error, instruments.found party.lookup credentials.id stage = .error error

/-- Requests that differ in nothing that may be told to a party that is not proven: one and the same, two that give
credentials, and two migrations that differ in the client that the tokens were issued to. -/
inductive Alike : Party → HttpRequest → Party → HttpRequest → Prop
  | same {party : Party} {http : HttpRequest} : Alike party http party http
  | presenting {party other : Party} {http otherHttp : HttpRequest} {credentials otherCredentials : Credentials}
      (presented : party.presented http = .ok credentials) (others : other.presented otherHttp = .ok otherCredentials) :
      Alike party http other otherHttp
  | migrations {http otherHttp : HttpRequest} {form otherForm : Table String}
      (posted : http.requirePost = otherHttp.requirePost) (header : http.basicAuth? = otherHttp.basicAuth?)
      (read : http.form = .ok form) (otherRead : otherHttp.form = .ok otherForm)
      (token : field form "token" = field otherForm "token") : Alike migrator http migrator otherHttp

end Party

variable {provider instruments stage} {http : HttpRequest} {form : Table String} {credentials : Credentials}
  {error : OAuthError}

theorem heading_eq_ok_iff : heading http = .ok credentials ↔
    ∃ basic, http.basicAuth? = some basic ∧ Credentials.decode basic.user basic.password .header = .ok credentials := by
  rw [heading]
  cases http.basicAuth? with
  | none => simp
  | some basic =>
    cases decoded : Credentials.decode basic.user basic.password .header <;> simp [Except.mapError, decoded]

theorem rejects_findMigrator (steady : instruments.hasher.Steady) (header : heading http = .ok credentials)
    (denied : Denied instruments.hasher credentials.secret (instruments.found 0 credentials.id stage)) :
    instruments.Rejects .authenticationFailed (provider.findMigrator http) stage := by
  obtain ⟨basic, header, decoded⟩ := heading_eq_ok_iff.mp header
  rw [findMigrator, header]
  change instruments.Rejects _ (Attempt.ofExcept _ (Credentials.decode _ _ _) >>= _) stage
  rw [decoded]
  refine .find_denied denied fun client middle _ confidential wrong => ?_
  change instruments.Rejects _ (if client.isPublic then _ else _) middle
  rw [confidential]
  exact .bind (.verifySecret steady wrong) _

theorem rejects_findMigrator_of_heading (header : heading http = .error error) :
    instruments.Rejects error (provider.findMigrator http) stage := by
  rw [heading] at header
  rw [findMigrator]
  cases named : http.basicAuth? with
  | none =>
    rw [named] at header
    cases header
    exact .throw
  | some basic =>
    rw [named] at header
    change instruments.Rejects _ (Attempt.ofExcept _ (Credentials.decode _ _ _) >>= _) stage
    exact .bind (.ofExcept header) _

theorem rejects_findOwner (steady : instruments.hasher.Steady) {owner : Credentials}
    (named : ownerCredentials (field form "client") = .ok owner)
    (denied : Denied instruments.hasher owner.secret (instruments.found 0 owner.id stage))
    (checked : owner.secret ≠ "" ∨ ∃ error, instruments.found 0 owner.id stage = .error error) :
    instruments.Rejects .authenticationFailed (findOwner form) stage := by
  rw [findOwner, named]
  refine .find_denied denied fun client middle known confidential wrong => ?_
  have given : owner.secret ≠ "" := by
    refine checked.resolve_right fun ⟨error, missed⟩ => ?_
    cases known.symm.trans missed
  change instruments.Rejects _ (if owner.secret ≠ "" ∧ !client.isPublic then _ else _) middle
  rw [if_pos ⟨given, congrArg (! ·) confidential⟩]
  exact .bind (.verifySecret steady wrong) _

theorem perform_findMigrator {migrator : Client}
    (authorised : Authorised provider instruments stage http credentials migrator) :
    instruments.perform (provider.findMigrator http).run stage =
      (.ok migrator, (instruments.reply (.compareSecret migrator.hashedSecret credentials.secret)
        (instruments.reply (.findClient credentials.id) stage).2).2) := by
  obtain ⟨header, known, confidential, proven, inScope⟩ := authorised
  obtain ⟨basic, header, decoded⟩ := heading_eq_ok_iff.mp header
  have inside : migrator.scopes.contains provider.settings.migrationScope = true := by simpa using inScope
  rw [findMigrator, header]
  change instruments.perform (ExceptT.run (Attempt.ofExcept _ (Credentials.decode _ _ _) >>= _)) stage = _
  rw [decoded]
  change instruments.perform (ExceptT.run (Client.find credentials.id >>= _)) stage = _
  rw [Attempt.perform_bind, instruments.perform_find known]
  change instruments.perform (ExceptT.run (if migrator.isPublic then _ else _)) _ = _
  rw [confidential]
  change instruments.perform (ExceptT.run (Client.verifySecret migrator credentials.secret >>= _)) _ = _
  rw [Attempt.perform_bind, instruments.perform_verifySecret proven]
  change instruments.perform (ExceptT.run
    (if !migrator.scopes.contains provider.settings.migrationScope then _ else _)) _ = _
  rw [inside]
  rfl

/-- What the owner is refused for once the migrator is authorised. -/
theorem rejects_after_findMigrator {migrator : Client} {attempt : Attempt (Client × String)}
    (authorised : Authorised provider instruments stage http credentials migrator)
    (rejects : ∀ middle : Stage, (∀ id, instruments.found 0 id middle = instruments.found 2 id stage) →
      instruments.Rejects error attempt middle) {α : Type} (next : Client × String → Attempt α) :
    instruments.Rejects error (provider.findMigrator http >>= fun _ => attempt >>= next) stage := by
  refine .after (perform_findMigrator authorised) ?_ ?_ (.bind (rejects _ fun id => ?_) next)
  · rw [instruments.store_reply rfl, instruments.store_reply rfl]
  · exact fun before => (before.cons rfl _).cons rfl _
  · rw [instruments.found_reply _ rfl, instruments.found_reply _ rfl]

variable (instruments stage) in
/-- The answer is the error, no session has been read or written for it, and nothing is stored. -/
structure Refuses (error : OAuthError) (work : Work HttpAnswer) : Prop where
  answer : (instruments.perform work stage).1 = .ofError error
  sessionless : (instruments.perform work stage).2.calls.Sessionless
  store : (instruments.perform work stage).2.store = stage.store

theorem Refuses.of_rejects {α : Type} {attempt : Attempt α} (rejects : instruments.Rejects error attempt stage)
    (unused : stage.calls = []) (answer : α → HttpAnswer) {work : Work HttpAnswer}
    (works : work = attempt.run >>= fun result => pure (HttpAnswer.ofResult answer result)) :
    Refuses instruments stage error work := by
  subst works
  constructor <;> rw [instruments.perform_bind, rejects.failed]
  · rfl
  · exact rejects.sessionless (unused ▸ fun _ member => nomatch member)
  · exact rejects.store

namespace Party

/-- A migration is refused for what is wrong with its form, or else for what its clients are refused for. -/
theorem rejects_migrate {expected : Table String → Except OAuthError Credentials}
    (rejects : ∀ form, migration http = .ok form → ∀ next : Client × String → Attempt Unit,
      instruments.Rejects (refusalOf (expected form))
        (provider.findMigrator http >>= fun _ => findOwner form >>= next) stage) :
    instruments.Rejects (refusalOf (migration http >>= expected)) (provider.migrate http) stage := by
  rw [migration] at rejects ⊢
  rw [migrate, bind_assoc]
  refine .checked fun _ posted => ?_
  rw [bind_assoc]
  refine .checked fun form read => ?_
  rw [posted, read] at rejects
  change instruments.Rejects (refusalOf ((if field form "token" = "" then _ else _) >>= _))
    (if field form "token" = "" then _ else _) stage
  by_cases missing : field form "token" = ""
  · rw [if_pos missing, if_pos missing]
    exact .bind .throw _
  · rw [if_neg missing, if_neg missing]
    exact rejects form (if_neg missing) _

variable {party : Party}

theorem Unproven.rejects_client (steady : instruments.hasher.Steady)
    (unproven : Unproven provider instruments stage http client) :
    instruments.Rejects (refusalOf (client.presented http)) (provider.acceptRequest http {}) stage := by
  have denied := unproven.denied
  rw [presented] at denied ⊢
  rw [acceptRequest]
  -- The request gets its id and its time between its form and its credentials, so the lookup is the third call.
  refine .checked fun _ posted => .checked fun form read => .ask .freshId _ rfl (.ask .now _ rfl ?_)
  rw [posted, read] at denied
  change instruments.Rejects _ (if (WordList.parse (field form "grant_type")).isEmpty then _ else _) _
  by_cases asked : WordList.parse (field form "grant_type") = []
  · rw [if_pos asked, if_pos (List.isEmpty_iff.mpr asked)]
    exact .bind .throw _
  · rw [if_neg asked, if_neg (mt List.isEmpty_iff.mp asked)]
    cases given : Credentials.ofRequest http form with
    | error refusal => exact .bind (.ofExcept rfl) _
    | ok credentials =>
      have denied := denied credentials ((if_neg asked).trans (congrArg _ given))
      rw [lookup, ← instruments.found_reply .freshId rfl, ← instruments.found_reply .now rfl] at denied
      exact .bind (.authenticate steady denied) _

theorem Unproven.rejects_migrator (steady : instruments.hasher.Steady)
    (unproven : Unproven provider instruments stage http migrator) :
    instruments.Rejects (refusalOf (migrator.presented http)) (provider.migrate http) stage := by
  have denied := unproven.denied
  rw [presented] at denied ⊢
  refine rejects_migrate fun form read next => .bind ?_ _
  cases header : heading http with
  | error refusal => exact rejects_findMigrator_of_heading header
  | ok credentials =>
    rw [read, header] at denied
    exact rejects_findMigrator steady header (denied credentials rfl)

theorem Unproven.rejects_owner (steady : instruments.hasher.Steady)
    (unproven : Unproven provider instruments stage http owner) :
    instruments.Rejects (refusalOf (owner.presented http)) (provider.migrate http) stage := by
  obtain ⟨denied, authorised, checked⟩ := unproven
  obtain ⟨_, migrator, authorised⟩ := authorised rfl
  have checked := checked rfl
  rw [presented] at denied checked ⊢
  refine rejects_migrate fun form read => rejects_after_findMigrator authorised fun middle same => ?_
  rw [read] at denied checked
  cases named : ownerCredentials (field form "client") with
  | error refusal =>
    rw [findOwner, named]
    exact .bind (.ofExcept rfl) _
  | ok credentials =>
    have denied := denied credentials named
    have checked := checked credentials named
    rw [lookup, ← same] at denied checked
    exact rejects_findOwner steady named denied checked

theorem Alike.refusal_eq {other : Party} {otherHttp : HttpRequest} (alike : Alike party http other otherHttp) :
    refusalOf (party.presented http) = refusalOf (other.presented otherHttp) := by
  cases alike with
  | same => rfl
  | presenting presented others => rw [presented, others]; rfl
  | migrations posted header read otherRead token =>
    rw [presented, presented, migration, migration, heading, heading, posted, header, read, otherRead]
    cases otherHttp.requirePost with
    | error refusal => rfl
    | ok =>
      change refusalOf ((if field _ "token" = "" then _ else _) >>= _) =
        refusalOf ((if field _ "token" = "" then _ else _) >>= _)
      rw [token]
      split <;> rfl

theorem Unproven.refuses (steady : instruments.hasher.Steady) (unused : stage.calls = [])
    (unproven : Unproven provider instruments stage http party) :
    Refuses instruments stage (refusalOf (party.presented http)) (party.answer provider http) := by
  cases party with
  | client => exact .of_rejects ((unproven.rejects_client steady).bind provider.respond) unused _ rfl
  | migrator => exact .of_rejects (unproven.rejects_migrator steady) unused _ rfl
  | owner => exact .of_rejects (unproven.rejects_owner steady) unused _ rfl

end Party

/-- Two parties that cannot prove who they are get the same answer to requests that are alike, and no session is read
or written for either. A request that gives credentials, whichever they are, is refused for its authentication. Nothing
else makes an authentication fail. -/
theorem rejections_alike {provider other : Provider} {instruments others : Instruments}
    (steady : instruments.hasher.Steady ∧ others.hasher.Steady) {here there : Stage}
    (unused : here.calls = [] ∧ there.calls = []) {party otherParty : Party} {http otherHttp : HttpRequest}
    (unproven : party.Unproven provider instruments here http)
    (otherUnproven : otherParty.Unproven other others there otherHttp)
    (alike : party.Alike http otherParty otherHttp) :
    let first := instruments.perform (party.answer provider http) here
    let second := others.perform (otherParty.answer other otherHttp) there
    first.1 = second.1 ∧ (first.2.calls.Sessionless ∧ first.2.store = here.store) ∧
      (second.2.calls.Sessionless ∧ second.2.store = there.store) ∧
      (∀ credentials, party.presented http = .ok credentials → first.1 = .ofError .authenticationFailed) ∧
      ∀ credentials stage,
        (∃ error, (instruments.perform (Client.authenticate credentials).run stage).1 = .error error) ↔
          Denied instruments.hasher credentials.secret (instruments.found 0 credentials.id stage) := by
  intro first second
  have refused := unproven.refuses steady.1 unused.1
  have otherRefused := otherUnproven.refuses steady.2 unused.2
  have same : first.1 = second.1 := by
    rw [show first.1 = _ from refused.answer, show second.1 = _ from otherRefused.answer, alike.refusal_eq]
  refine ⟨same, ⟨refused.sessionless, refused.store⟩, ⟨otherRefused.sessionless, otherRefused.store⟩, ?_,
    fun _ _ => Client.authenticate_fails_iff steady.1⟩
  intro credentials presented
  rw [show first.1 = _ from refused.answer, presented, refusalOf]

end Provider

namespace Specimen

def spoiltStore : Store := .ofClients [{ client with hashedSecret := "key" }, migrator]

def failingChances (number : Nat) : Chance := { chances number with failure := some (.connection "down") }

end Specimen

/-- A client that is looked up in vain, and the owner of migrated tokens whose secret cannot be compared. -/
theorem Provider.owner_and_stranger_alike :
    let provider := standard {} Specimen.instruments.signer
    let stranger := Specimen.instruments.perform (provider.answerToken (Specimen.refreshPost "AQID.AQID"))
      ⟨Specimen.migratorStore, Specimen.failingChances, []⟩
    let owner := Specimen.instruments.perform (provider.answerMigration Specimen.migrationPost)
      ⟨Specimen.spoiltStore, Specimen.chances, []⟩
    Specimen.instruments.hasher.Steady ∧ stranger.1 = owner.1 ∧ stranger.1.status = 401 ∧
      owner.2.calls.Sessionless ∧ owner.2.calls.length = 4 := by
  intro provider stranger owner
  have steady : Specimen.instruments.hasher.Steady := SecretHasher.steady_clear
  have presented : Party.client.presented (Specimen.refreshPost "AQID.AQID") = .ok ⟨"app", "key"⟩ := by decide +kernel
  have unknown : Party.client.Unproven provider Specimen.instruments
      ⟨Specimen.migratorStore, Specimen.failingChances, []⟩ (Specimen.refreshPost "AQID.AQID") :=
    ⟨fun _ _ => .unknown (.connection "down"), nofun, nofun⟩
  have ownerPresented : Party.owner.presented Specimen.migrationPost = .ok ⟨"app", "key"⟩ := by decide +kernel
  have authorised : Authorised provider Specimen.instruments ⟨Specimen.spoiltStore, Specimen.chances, []⟩
      Specimen.migrationPost ⟨"import", "pass"⟩ Specimen.migrator :=
    ⟨by decide +kernel, by decide +kernel, rfl, by decide +kernel, by decide⟩
  have found : Specimen.instruments.found 2 "app" ⟨Specimen.spoiltStore, Specimen.chances, []⟩ =
      .ok { Specimen.client with hashedSecret := "key" } := by decide +kernel
  have spoilt : Party.owner.Unproven provider Specimen.instruments ⟨Specimen.spoiltStore, Specimen.chances, []⟩
      Specimen.migrationPost := by
    refine ⟨fun credentials named => ?_, fun _ => ⟨_, _, authorised⟩, fun _ credentials named => .inl ?_⟩
    · cases ownerPresented.symm.trans named
      change Denied Specimen.instruments.hasher "key" (Specimen.instruments.found 2 "app" _)
      rw [found]
      exact .unproven rfl (by decide +kernel)
    · cases ownerPresented.symm.trans named
      decide
  obtain ⟨same, _, aside, status, _⟩ :=
    rejections_alike ⟨steady, steady⟩ ⟨rfl, rfl⟩ unknown spoilt (.presenting presented ownerPresented)
  exact ⟨steady, same, congrArg HttpAnswer.status (status _ presented), aside.1, by decide +kernel⟩

end TokenServer
