import TokenServer.Proofs.Provider
import TokenServer.Proofs.WordList

/-! The first phase of the grants. It only asks, and a request changes all at once, when it is accepted: until then it
is as it came, and then it has the session, the expiry and the scopes that it is to go on with. What comes of a request
is therefore the same however often, and among whatever others, it is looked at. -/

namespace TokenServer

/-- Granting keeps what was granted before, and adds each further name once. -/
theorem WordList.exists_added (words names : WordList) : ∃ added : WordList, words.grantAll names = words ++ added ∧
    added.Nodup ∧ ∀ name ∈ added, name ∉ words := by
  refine ⟨_, grantAll_eq words names, nodup_eraseDups _, fun name member => ?_⟩
  have fresh := (List.mem_filter.mp (List.mem_eraseDups.mp member)).2
  simpa using fresh

/-- The request goes on with this session, whose access tokens expire then, and with further scopes. -/
structure TokenRequest.GoesOn (request : TokenRequest) (session : Session) (expiry : Instant)
    (accepted : TokenRequest) : Prop where
  id : accepted.id = request.id
  requestedAt : accepted.requestedAt = request.requestedAt
  client : accepted.client = request.client
  grantTypes : accepted.grantTypes = request.grantTypes
  form : accepted.form = request.form
  session : accepted.session = { session with expiresAt := session.expiresAt.set .accessToken expiry }
  scopes : ∃ added : WordList, accepted.grantedScopes = request.grantedScopes ++ added ∧ added.Nodup ∧
    ∀ scope ∈ added, scope ∉ request.grantedScopes

inductive Grant where
  | refresh
  | clientCredentials
  deriving DecidableEq

namespace Work

variable {σ α β : Type} {reply : (call : Call) → σ → call.Reply × σ} {state : σ}

/-- Work that only asks leaves the state alone, if asking does. -/
theorem run_of_asking (quiet : ∀ call, call.isWrite = false → ∀ state, (reply call state).2 = state)
    {ends : Transcript → α → Prop} {work : Work α} {past : Transcript}
    (asks : work.Meets ⟨fun _ call => call.isWrite = false, ends⟩ past) : (work.run reply state).2 = state := by
  induction work generalizing past with
  | done => rfl
  | ask call next ih =>
    change ((next (reply call state).1).run reply (reply call state).2).2 = state
    rw [quiet call asks.1 state]
    exact ih _ (asks.2 _)

/-- Pieces of work that leave the state alone come to the same one after the other as each of them alone. -/
theorem run_mapM_of_kept {work : β → Work α} (kept : ∀ item, ((work item).run reply state).2 = state)
    (items : List β) :
    (items.mapM work).run reply state = (items.map fun item => ((work item).run reply state).1, state) := by
  induction items with
  | nil => rfl
  | cons item rest ih =>
    rw [List.mapM_cons]
    change ((work item).bind fun first => (rest.mapM work).bind fun others =>
      .done (first :: others)).run reply state = _
    rw [run_bind, run_bind, kept, ih]
    rfl

end Work

/-- Replies with a chance for each call, the same whenever it is made: the clock stands still, and a call that fails
once always does. -/
def Instruments.steadily (instruments : Instruments) (meets : Call → Chance) (call : Call) (store : Store) :
    call.Reply × Store :=
  instruments.answer (meets call) call store

theorem Instruments.steadily_of_asking (instruments : Instruments) (meets : Call → Chance) (call : Call)
    (asks : call.isWrite = false) (store : Store) : (instruments.steadily meets call store).2 = store :=
  (instruments.answer_effect (meets call) store call).trans (Made.effect_of_asking asks store)

namespace Grant

def handler (authority : TokenAuthority) : Grant → GrantHandler Work
  | .refresh => RefreshGrant.handler authority
  | .clientCredentials => ClientCredentialsGrant.handler authority

def validation (authority : TokenAuthority) (phase : Grant × TokenRequest) :
    Work (Except OAuthError Outcome × TokenRequest) :=
  (phase.1.handler authority).validate.apply phase.2

/-- The session that a request is accepted on: for the refresh grant that of the presented token, otherwise its own. -/
def Backs (store : Store) (request : TokenRequest) : Grant → Session → Prop
  | .refresh, session => ∃ stored, store.refresh.get? (RefreshGrant.presented request) = some stored ∧
      session = stored.session
  | .clientCredentials, session => session = request.session

section

variable (authority : TokenAuthority) (request : TokenRequest) (past : Transcript)

/-- How a validation ends, by what its calls came back with. -/
inductive Concludes : Grant → Except OAuthError Outcome × TokenRequest → Prop
  | passed {grant : Grant} : Concludes grant (.ok .notApplicable, request)
  | refresh {result : Except OAuthError Outcome × TokenRequest}
      (judged : RefreshGrant.Judged authority request past result) : Concludes .refresh result
  | clientCredentials {result : Except OAuthError Outcome × TokenRequest}
      (judged : ClientCredentialsGrant.Judged authority request past result) : Concludes .clientCredentials result

theorem validation_ends (grant : Grant) : (validation authority (grant, request)).Meets
    ⟨fun _ call => call.isWrite = false, fun past result => Concludes authority request past grant result⟩ past := by
  cases grant with
  | refresh =>
    change ((RefreshGrant.validate authority).apply request).Meets _ _
    cases applies : request.grantTypes.isExactly RefreshGrant.name with
    | false =>
      rw [RefreshGrant.apply_validate_of_other authority applies]
      exact .passed
    | true =>
      exact (RefreshGrant.validate_meets authority applies past).mono (fun _ _ asks => asks)
        fun _ _ judged => .refresh judged
  | clientCredentials =>
    change ((ClientCredentialsGrant.validate authority).apply request).Meets _ _
    cases applies : request.grantTypes.isExactly ClientCredentialsGrant.name with
    | false =>
      rw [ClientCredentialsGrant.apply_validate_of_other authority applies]
      exact .passed
    | true =>
      exact (ClientCredentialsGrant.validate_ends authority applies past).mono (fun _ _ asks => asks)
        fun _ _ ends => .clientCredentials ends.1

variable {authority request past} {grant : Grant} {result : Except OAuthError Outcome × TokenRequest}

/-- A request that is not accepted stays as it came. -/
theorem Concludes.kept (concludes : Concludes authority request past grant result)
    (refused : result.1 ≠ .ok .handled) : result.2 = request := by
  cases concludes with
  | passed => rfl
  | refresh judged =>
    cases judged with
    | unlisted | unloaded | refused => rfl
    | admitted => exact absurd rfl refused
  | clientCredentials judged =>
    cases judged with
    | refused => rfl
    | admitted => exact absurd rfl refused

theorem Concludes.grantTypes_eq (concludes : Concludes authority request past grant result) :
    result.2.grantTypes = request.grantTypes := by
  cases concludes with
  | passed => rfl
  | refresh judged => cases judged <;> rfl
  | clientCredentials judged => cases judged <;> rfl

/-- A request that is accepted goes on with a session that was found for it, or with its own. -/
theorem Concludes.goesOn {accepted : TokenRequest}
    (concludes : Concludes authority request past grant (.ok .handled, accepted)) {instruments : Instruments}
    {possible : Chance → Prop} {store after : Store} (idle : past.Idle)
    (answered : Answered instruments possible store past after) :
    ∃ session chance, possible chance ∧ grant.Backs store request session ∧
      request.GoesOn session (chance.instant.plusSeconds authority.lifespans.accessSeconds) accepted := by
  cases concludes with
  | refresh judged =>
    cases judged with
    | @admitted session _ _ _ looked _ _ askedLast =>
      obtain ⟨chance, met, rfl⟩ := answered.told askedLast
      exact ⟨session.session, chance, met, ⟨session, answered.stored idle looked.found, rfl⟩,
        ⟨rfl, rfl, rfl, rfl, rfl, rfl, WordList.exists_added _ _⟩⟩
  | clientCredentials judged =>
    cases judged with
    | admitted _ asked =>
      obtain ⟨chance, met, rfl⟩ := answered.told asked
      exact ⟨request.session, chance, met, rfl, ⟨rfl, rfl, rfl, rfl, rfl, rfl, WordList.exists_added _ _⟩⟩

end

/-- What the validation of a request has left alone, and what it has made of the request if it was accepted. -/
structure Validated (lifespans : Lifespans) (grant : Grant) (request : TokenRequest) (stored : Store)
    (chances : Nat → Chance) (ending : (Except OAuthError Outcome × TokenRequest) × Stage) : Prop where
  idle : ending.2.calls.Idle
  store : ending.2.store = stored
  kept : ending.1.1 ≠ .ok .handled → ending.1.2 = request
  accepted : ending.1.1 = .ok .handled → ∃ session number, grant.Backs stored request session ∧
    request.GoesOn session ((chances number).instant.plusSeconds lifespans.accessSeconds) ending.1.2

theorem validation_validated (instruments : Instruments) (authority : TokenAuthority) (grant : Grant)
    (request : TokenRequest) (store : Store) (chances : Nat → Chance) :
    Validated authority.lifespans grant request store chances
      (instruments.perform (validation authority (grant, request)) ⟨store, chances, []⟩) := by
  have unused : (⟨store, chances, []⟩ : Stage).calls = [] := rfl
  obtain ⟨concludes, idle, answered⟩ := (validation_ends authority request [] grant).asked instruments
    (fun _ _ asks => asks) unused
  refine ⟨idle, answered.store_eq idle, concludes.kept, fun handled => ?_⟩
  generalize instruments.perform _ _ = ending at *
  obtain ⟨⟨_, accepted⟩, _⟩ := ending
  cases handled
  obtain ⟨session, _, ⟨number, rfl⟩, backs, goesOn⟩ := concludes.goesOn idle answered
  exact ⟨session, number, backs, goesOn⟩

/-- Validation writes nothing and changes a request only by accepting it, whatever the clock says and whichever calls
fail. While both stay as they are, requests that are validated one after the other, in whatever order and however
often, each come to what they come to alone. -/
theorem validation_transactional (instruments : Instruments) (authority : TokenAuthority) :
    (∀ grant request store chances, Validated authority.lifespans grant request store chances
      (instruments.perform (validation authority (grant, request)) ⟨store, chances, []⟩)) ∧
    ∀ (meets : Call → Chance) (store : Store) (phases : List (Grant × TokenRequest)),
      (phases.mapM (validation authority)).run (instruments.steadily meets) store =
        (phases.map fun phase => ((validation authority phase).run (instruments.steadily meets) store).1, store) := by
  refine ⟨validation_validated instruments authority, fun meets store phases => ?_⟩
  refine Work.run_mapM_of_kept (fun phase => ?_) phases
  exact Work.run_of_asking (instruments.steadily_of_asking meets) (validation_ends authority phase.2 [] phase.1)

/-- The scopes of the stored session come after those that the request has already. -/
example :
    ((Specimen.instruments.perform
      (validation Specimen.authority (.refresh, { Specimen.presenting "AQID.AQID" with grantedScopes := ["b"] }))
      ⟨Specimen.store ["offline", "b"] ⟨0, 0⟩, Specimen.chances, []⟩).1.map id (·.grantedScopes)) =
        (.ok .handled, ["b", "offline"]) := by decide +kernel

end Grant

end TokenServer
