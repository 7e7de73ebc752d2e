import TokenServer.Proofs.Authorisation
import TokenServer.Proofs.Effect
import TokenServer.Proofs.MigrationRequest

/-! The expiry that is recorded for refresh tokens. Migration records one, and every exchange hands it on with
the session, but no request is ever checked against it: what counts is the age of the session, which starts
anew with each exchange. A recorded expiry is therefore kept only until the first exchange. -/

namespace TokenServer

namespace Instant

theorem le_trans {a b c : Instant} (first : a ≤ b) (second : b ≤ c) : a ≤ c := by
  rw [le_iff] at *
  omega

theorem plusSeconds_mono {a b : Instant} (ordered : a ≤ b) (whole : a.inLeapSecond = false ∧ b.inLeapSecond = false)
    (seconds : Int) : a.plusSeconds seconds ≤ b.plusSeconds seconds := by
  -- From within a leap second the sum starts in the second before, and could be overtaken.
  simp only [plusSeconds, whole, Bool.false_eq_true, if_false]
  rw [le_iff] at *
  dsimp only
  omega

theorem eq_of_plusSeconds? {instant later : Instant} {seconds : Int}
    (dated : instant.plusSeconds? seconds = some later) : instant.plusSeconds seconds = later := by
  rw [plusSeconds?, inCalendar?] at dated
  split at dated
  · exact Option.some.inj dated
  · cases dated

end Instant

/-- The clock, which knows no leap seconds, goes from one instant to the other and never back. -/
structure Passes (before after : Instant) (chances : Nat → Chance) : Prop where
  started : ∀ number, before ≤ (chances number).instant
  ended : ∀ number, (chances number).instant ≤ after
  onwards : ∀ {first second}, first ≤ second → (chances first).instant ≤ (chances second).instant
  whole : ∀ number, (chances number).instant.inLeapSecond = false

/-- Later calls have later readings, and none is ahead of the clock. -/
structure Stage.Timely (stage : Stage) : Prop where
  onwards : ∀ {first second}, first ≤ second →
    (stage.chances first).instant ≤ (stage.chances second).instant
  past : ∀ instant ∈ stage.calls.readings, instant ≤ (stage.chances 0).instant
  ordered : stage.calls.readings.Pairwise (fun later earlier => earlier ≤ later)

theorem Stage.Timely.reply {instruments : Instruments} {stage : Stage} (timely : stage.Timely) (call : Call) :
    (instruments.reply call stage).2.Timely := by
  have advances : (stage.chances 0).instant ≤ (stage.chances (0 + 1)).instant :=
    timely.onwards (Nat.zero_le _)
  have past : ∀ instant ∈ stage.calls.readings, instant ≤ (stage.chances (0 + 1)).instant :=
    fun instant member => Instant.le_trans (timely.past instant member) advances
  have onwards : ∀ {first second}, first ≤ second →
      (stage.chances (first + 1)).instant ≤ (stage.chances (second + 1)).instant :=
    fun order => timely.onwards (Nat.add_le_add_right order 1)
  cases call with
  | now =>
    have read : (instruments.answer (stage.chances 0) .now stage.store).1 = (stage.chances 0).instant :=
      Instruments.answer_now _
    refine ⟨onwards, ?_, ?_⟩
    · refine List.forall_mem_cons.mpr ⟨?_, past⟩
      exact read ▸ advances
    · refine List.pairwise_cons.mpr ⟨?_, timely.ordered⟩
      exact fun earlier member => read ▸ timely.past earlier member
  | _ => exact ⟨onwards, past, timely.ordered⟩

theorem Instruments.perform_timely {α : Type} (instruments : Instruments) (work : Work α) {stage : Stage}
    (timely : stage.Timely) : (instruments.perform work stage).2.Timely := by
  induction work generalizing stage with
  | done => exact timely
  | ask call next ih => exact ih _ (timely.reply call)

/-- Sessions that come from an exchange, or on which no expiry is recorded that their age is ahead of. -/
def TokenRequest.Dated (lifespans : Lifespans) (session : TokenRequest) : Prop :=
  session.grantTypes = [RefreshGrant.name] ∨
    ∀ expiry, session.session.expiresAt.get? .refreshToken = some expiry →
      0 < lifespans.refreshSeconds ∧ session.requestedAt.plusSeconds lifespans.refreshSeconds ≤ expiry

def Store.Dated (lifespans : Lifespans) (store : Store) : Prop :=
  ∀ signature session, store.refresh.get? signature = some session → session.Dated lifespans

namespace Store.Dated

variable {lifespans : Lifespans} {store after : Store} {request : TokenRequest} {signature : String}

theorem of_same (dated : store.Dated lifespans) (same : after.refresh = store.refresh) :
    after.Dated lifespans := by
  intro signature session stored
  rw [same] at stored
  exact dated signature session stored

theorem of_insert (dated : store.Dated lifespans) (sound : request.Dated lifespans)
    (inserted : after.refresh = store.refresh.insert signature request) : after.Dated lifespans := by
  intro key session stored
  rw [inserted, Table.get?_insert] at stored
  split at stored
  · cases stored
    exact sound
  · exact dated key session stored

theorem of_erase (dated : store.Dated lifespans)
    (erased : after.refresh = store.refresh.erase signature) : after.Dated lifespans := by
  intro key session stored
  rw [erased, Table.get?_erase] at stored
  split at stored
  · cases stored
  · exact dated key session stored

end Store.Dated

/-- Taking over stores one refresh session at most, after the last reading of the clock. -/
theorem Migration.Ends.refresh_effect {authority : TokenAuthority} {request : TokenRequest}
    {response : TokenResponse} {before past : Transcript} {result : Except OAuthError Outcome × TokenRequest}
    (ends : Ends authority request response before past result) (idle : before.Idle) (store : Store) :
    let after := past.foldr (fun made store => made.effect store) store
    after.refresh = store.refresh ∨ ∃ signature now, ⟨.now, now⟩ ∈ past ∧
      past.readings = now :: before.readings ∧
      after.refresh = store.refresh.insert signature (refreshRequest authority request now) := by
  cases ends with
  | malformed => exact .inl (congrArg Store.refresh (idle.effect store))
  | @both access refresh now =>
    refine .inr ⟨refresh, now, by simp, rfl, ?_⟩
    rw [List.foldr_cons, List.foldr_cons, List.foldr_cons, idle.effect]
    rfl
  | refused | alone | undone | stuck =>
    simp only [List.foldr_cons, idle.effect]
    exact .inl rfl

namespace Provider

variable {instruments : Instruments} {settings : Settings} {http : HttpRequest} {session : Session}
  {store : Store} {chances : Nat → Chance}

theorem token_dated (dated : store.Dated settings.lifespans) :
    (instruments.perform ((standard settings instruments.signer).acceptRequest http session >>=
      (standard settings instruments.signer).respond).run ⟨store, chances, []⟩).2.store.Dated
        settings.lifespans := by
  rcases answers_of_changed instruments settings http session store chances with
    unchanged | ⟨request, response, _, answers⟩
  · rw [unchanged]
    exact dated
  · cases answers with
    | refresh applies exchanged =>
      have asked : request.grantTypes = [RefreshGrant.name] := WordList.isExactly_iff.mp applies
      have erased : (store.removeSession .refresh (RefreshGrant.presented request)).Dated
          settings.lifespans := dated.of_erase rfl
      rw [exchanged.store]
      exact (erased.of_same rfl).of_insert (.inl asked) rfl
    | clientCredentials stored =>
      rw [stored.store]
      exact dated.of_same rfl

theorem dated_refreshRequest {signer : Signer} {id : Uuid} {requestedAt now : Instant} {form : Table String}
    {client : Client} {owner : String}
    (ordered : requestedAt.plusSeconds settings.lifespans.refreshSeconds ≤
      now.plusSeconds settings.lifespans.refreshSeconds) :
    (Migration.refreshRequest (authority settings signer)
      (migratedRequest { id, requestedAt } client owner form) now).Dated settings.lifespans := by
  refine .inr fun expiry recorded => ?_
  rw [Migration.refreshRequest] at recorded
  split at recorded
  · next positive =>
    rw [Migration.refreshRequest, if_pos positive]
    cases recorded
    exact ⟨positive, ordered⟩
  · cases recorded

theorem migration_dated (dated : store.Dated settings.lifespans)
    (timely : Stage.Timely ⟨store, chances, []⟩)
    (whole : ∀ number, (chances number).instant.inLeapSecond = false) :
    (instruments.perform ((standard settings instruments.signer).migrate http).run
      ⟨store, chances, []⟩).2.store.Dated settings.lifespans := by
  have unused : (Stage.calls ⟨store, chances, []⟩).Idle := Transcript.idle_nil
  have migrates := (migrate_meets settings instruments.signer http unused).ended instruments
  have initial : Answered instruments (Stage.Offers ⟨store, chances, []⟩) store
      (Stage.calls ⟨store, chances, []⟩) store := .start
  have answered := instruments.perform_answered ((standard settings instruments.signer).migrate http).run
    (fun _ offered => offered) initial
  have ordered := (instruments.perform_timely ((standard settings instruments.signer).migrate http).run
    timely).ordered
  have effects := answered.effects
  generalize (instruments.perform ((standard settings instruments.signer).migrate http).run
    ⟨store, chances, []⟩).2.calls = calls at *
  generalize (instruments.perform ((standard settings instruments.signer).migrate http).run
    ⟨store, chances, []⟩).2.store = after at *
  generalize (instruments.perform ((standard settings instruments.signer).migrate http).run
    ⟨store, chances, []⟩).1 = result at *
  cases migrates with
  | refused idle =>
    rw [effects, idle.effect]
    exact dated
  | @permitted before _ form owner client id requestedAt ending idle permitted last ends =>
    have asked := List.mem_of_head? last
    rcases ends.refresh_effect idle store with same | ⟨signature, now, told, readings, inserted⟩
    · rw [← effects] at same
      exact dated.of_same same
    · rw [← effects] at inserted
      -- The request was timed before the expiry was, so its age runs out first.
      have before : requestedAt ≤ now := by
        rw [readings, List.pairwise_cons] at ordered
        exact ordered.1 requestedAt (Transcript.mem_readings asked)
      have sound : ∀ instant, ⟨.now, instant⟩ ∈ calls → instant.inLeapSecond = false := by
        intro instant read
        obtain ⟨_, ⟨number, rfl⟩, rfl⟩ := answered.told read
        exact whole number
      refine dated.of_insert (dated_refreshRequest ?_) inserted
      exact Instant.plusSeconds_mono before ⟨sound _ (ends.grown asked), sound _ told⟩ _

variable (instruments settings) in
/-- The stores that migrations and token requests lead to, one after the other, with the instants at which they
are reached. Clients are registered from the start, sessions are not. -/
inductive Reached : Instant → Store → Prop
  | start (clients : Table Client) (now : Instant) : Reached now { clients }
  | token {before now : Instant} {store : Store} (reached : Reached before store) (http : HttpRequest)
      (session : Session) {chances : Nat → Chance} (passes : Passes before now chances) :
      Reached now (instruments.perform ((standard settings instruments.signer).acceptRequest http session >>=
        (standard settings instruments.signer).respond).run ⟨store, chances, []⟩).2.store
  | migration {before now : Instant} {store : Store} (reached : Reached before store) (http : HttpRequest)
      {chances : Nat → Chance} (passes : Passes before now chances) :
      Reached now (instruments.perform ((standard settings instruments.signer).migrate http).run
        ⟨store, chances, []⟩).2.store

theorem Reached.dated {now : Instant} (reached : Reached instruments settings now store) :
    store.Dated settings.lifespans := by
  induction reached with
  | start => exact fun _ _ stored => nomatch stored
  | token _ http session _ ih => exact token_dated ih
  | migration _ http passes ih =>
    exact migration_dated ih ⟨passes.onwards, nofun, .nil⟩ passes.whole

/-- At any time a refresh token is accepted only as long as its session is not too old, and the expiry that is
recorded for it lies no earlier, unless the session comes from an exchange. -/
theorem unexpired_of_accepted {reachedAt now : Instant} (reached : Reached instruments settings reachedAt store)
    (still : ∀ number, (chances number).instant = now) {request : TokenRequest}
    (accepted : (instruments.perform
      ((standard settings instruments.signer).acceptRequest http session).run ⟨store, chances, []⟩).1 =
        .ok request)
    (asked : request.grantTypes = [RefreshGrant.name]) :
    ∃ found, store.refresh.get? (RefreshGrant.presented request) = some found ∧
      (found.grantTypes ≠ [RefreshGrant.name] →
        ∀ expiry, found.session.expiresAt.get? .refreshToken = some expiry → now ≤ expiry) ∧
      (0 < settings.lifespans.refreshSeconds → ∃ expiry,
        found.requestedAt.plusSeconds? settings.lifespans.refreshSeconds = some expiry ∧ now ≤ expiry) := by
  have unused : Stage.calls ⟨store, chances, []⟩ = [] := rfl
  obtain ⟨good, asking, answered⟩ := Work.Meets.asked instruments (fun _ _ allowed => allowed) unused
    (acceptRequest_meets settings instruments.signer http session [])
  cases good request accepted with
  | @clientCredentials received _ _ applies judged =>
    obtain ⟨_, sameTypes, _⟩ := judged.accepted
    rw [← sameTypes, asked] at applies
    cases applies
  | @refresh received _ _ applies judged =>
    cases judged with
    | @admitted found checked later last looked _ judged _ =>
      have stored : store.refresh.get? (RefreshGrant.presented received) = some found :=
        answered.stored asking looked.found
      obtain ⟨_, ⟨number, rfl⟩, told⟩ := answered.told looked.asked
      have age := @RefreshGrant.unexpired_of_isTooOld _ (· = now) _ _ (told.symm.trans (still number))
        (RefreshGrant.judge_eq_ok.mp judged).1
      have young : 0 < settings.lifespans.refreshSeconds → ∃ expiry,
          found.requestedAt.plusSeconds? settings.lifespans.refreshSeconds = some expiry ∧ now ≤ expiry := by
        intro positive
        rcases age with forever | ⟨expiry, _, rfl, dated, within⟩
        · exact absurd positive (Int.not_lt.mpr forever)
        · exact ⟨expiry, dated, within⟩
      -- The age has been checked and the recorded expiry has not: that it lies later is an invariant of the store.
      refine ⟨found, stored, fun unexchanged expiry recorded => ?_, young⟩
      rcases reached.dated _ _ stored with exchanged | dated
      · exact absurd exchanged unexchanged
      · obtain ⟨positive, ahead⟩ := dated expiry recorded
        obtain ⟨due, same, within⟩ := young positive
        rw [Instant.eq_of_plusSeconds? same] at ahead
        exact Instant.le_trans within ahead

end Provider

namespace Specimen

def brief : Settings := { lifespans := { refresh := 10 } }

def chancesAt (instant : Instant) (number : Nat) : Chance := { chances number with instant }

/-- A refresh token with the signature `AQID` has been taken over at the start. -/
def migrated : Store :=
  (instruments.perform ((Provider.standard brief instruments.signer).migrate migrationPost).run
    ⟨migratorStore, chancesAt ⟨0, 0⟩, []⟩).2.store

/-- It has been exchanged six seconds later, for one with the signature `CAkK`. -/
def exchanged : Store :=
  (instruments.perform ((Provider.standard brief instruments.signer).acceptRequest
      (refreshPost "AQID.AQID") {} >>= (Provider.standard brief instruments.signer).respond).run
    ⟨migrated, chancesAt ⟨6, 0⟩, []⟩).2.store

def accepting (store : Store) (token : String) (instant : Instant) : Except OAuthError TokenRequest :=
  (instruments.perform ((Provider.standard brief instruments.signer).acceptRequest (refreshPost token) {}).run
    ⟨store, chancesAt instant, []⟩).1

theorem passes {before after : Instant} (ordered : before ≤ after) (whole : after.inLeapSecond = false) :
    Passes before after (chancesAt after) :=
  ⟨fun _ => ordered, fun _ => Instant.le_iff.mpr (.inr ⟨rfl, Nat.le_refl _⟩),
    fun _ => Instant.le_iff.mpr (.inr ⟨rfl, Nat.le_refl _⟩), fun _ => whole⟩

theorem migrated_reached : Provider.Reached instruments brief ⟨0, 0⟩ migrated :=
  .migration (.start migratorStore.clients ⟨0, 0⟩) migrationPost (passes (by decide) (by decide))

theorem exchanged_reached : Provider.Reached instruments brief ⟨6, 0⟩ exchanged :=
  .token migrated_reached (refreshPost "AQID.AQID") {} (passes (by decide) (by decide))

end Specimen

namespace Provider

/-- Twelve seconds after a token was taken over, the next is accepted, two seconds past its recorded expiry. -/
theorem expired_accepted :
    Reached Specimen.instruments Specimen.brief ⟨6, 0⟩ Specimen.exchanged ∧
      ∃ request found, Specimen.accepting Specimen.exchanged "CAkK.CAkK" ⟨12, 0⟩ = .ok request ∧
        request.grantTypes = [RefreshGrant.name] ∧
        Specimen.exchanged.refresh.get? (RefreshGrant.presented request) = some found ∧
        found.session.expiresAt.get? .refreshToken = some ⟨10, 0⟩ ∧ (⟨10, 0⟩ : Instant) < ⟨12, 0⟩ := by
  refine ⟨Specimen.exchanged_reached, ?_⟩
  have accepted : ((Specimen.accepting Specimen.exchanged "CAkK.CAkK" ⟨12, 0⟩).map fun request =>
      (request.grantTypes, RefreshGrant.presented request)) = .ok ([RefreshGrant.name], "CAkK") := by
    decide +kernel
  have recorded : (Specimen.exchanged.refresh.get? "CAkK").map
      (·.session.expiresAt.get? .refreshToken) = some (some ⟨10, 0⟩) := by decide +kernel
  obtain ⟨found, stored, expiry⟩ := Option.map_eq_some_iff.mp recorded
  cases result : Specimen.accepting Specimen.exchanged "CAkK.CAkK" ⟨12, 0⟩ with
  | error error =>
    rw [result] at accepted
    cases accepted
  | ok request =>
    rw [result] at accepted
    obtain ⟨asked, presented⟩ := Prod.mk.inj (Except.ok.inj accepted)
    exact ⟨request, found, rfl, asked, presented ▸ stored, expiry, by decide⟩

/-- The token that was taken over is accepted six seconds later, before its recorded expiry. -/
theorem unexpired_of_migrated :
    ∃ request found, Specimen.accepting Specimen.migrated "AQID.AQID" ⟨6, 0⟩ = .ok request ∧
      Specimen.migrated.refresh.get? "AQID" = some found ∧ found.grantTypes ≠ [RefreshGrant.name] ∧
      found.session.expiresAt.get? .refreshToken = some ⟨10, 0⟩ ∧ (⟨6, 0⟩ : Instant) ≤ ⟨10, 0⟩ := by
  have accepted : ((Specimen.accepting Specimen.migrated "AQID.AQID" ⟨6, 0⟩).map fun request =>
      (request.grantTypes, RefreshGrant.presented request)) = .ok ([RefreshGrant.name], "AQID") := by
    decide +kernel
  have recorded : (Specimen.migrated.refresh.get? "AQID").map
      (fun session => (session.grantTypes, session.session.expiresAt.get? .refreshToken)) =
        some ([], some ⟨10, 0⟩) := by decide +kernel
  have still : ∀ number, (Specimen.chancesAt ⟨6, 0⟩ number).instant = ⟨6, 0⟩ := fun _ => rfl
  cases result : Specimen.accepting Specimen.migrated "AQID.AQID" ⟨6, 0⟩ with
  | error error =>
    rw [result] at accepted
    cases accepted
  | ok request =>
    rw [result] at accepted
    obtain ⟨asked, presented⟩ := Prod.mk.inj (Except.ok.inj accepted)
    obtain ⟨found, stored, unexpired, _⟩ := unexpired_of_accepted Specimen.migrated_reached still result asked
    rw [presented] at stored
    rw [stored] at recorded
    obtain ⟨unexchanged, expiry⟩ := Prod.mk.inj (Option.some.inj recorded)
    have fresh : found.grantTypes ≠ [RefreshGrant.name] := by
      rw [unexchanged]
      exact List.cons_ne_nil _ _ ∘ Eq.symm
    exact ⟨request, found, rfl, stored, fresh, expiry, unexpired fresh _ expiry⟩

end Provider

end TokenServer
