import Mathlib.Control.Monad.Basic
import TokenServer.Migration
import TokenServer.Proofs.Contract

/-! What taking over tokens asks for, and what it leaves of the store when it fails. The access session is
stored first; when the refresh session cannot be stored the access signature is cleared, so that a session
that was stored under it before is lost. -/

namespace TokenServer.Migration

variable (authority : TokenAuthority) (request : TokenRequest) (response : TokenResponse)

variable {response} in
theorem signatures_error {error : OAuthError} (unread : signatures response = .error error) :
    error = .accessTokenMalformed ∨ error = .refreshTokenMalformed := by
  unfold signatures at unread
  split at unread
  case h_3 =>
    cases unread
    exact .inr rfl
  all_goals
    change (if _ = "" then _ else if _ = "" then _ else if _ = "" then _ else _) = _ at unread
    split at unread
    · cases unread
      exact .inl rfl
    · split at unread
      · cases unread
      · split at unread <;> cases unread
        exact .inr rfl

def accessRequest (now : Instant) : TokenRequest :=
  request.setExpiry .accessToken (now.plusSeconds authority.lifespans.accessSeconds)

def refreshRequest (now : Instant) : TokenRequest :=
  if 0 < authority.lifespans.refreshSeconds then
    (accessRequest authority request now).setExpiry .refreshToken
      (now.plusSeconds authority.lifespans.refreshSeconds)
  else accessRequest authority request now

inductive Asks : Transcript → Call → Prop
  | now {past : Transcript} : Asks past .now
  | create {past : Transcript} {kind : SessionKind} {signature : String} {stored : TokenRequest} :
      Asks past (.createSession kind signature stored)
  | remove {past : Transcript} {signature : String} : Asks past (.deleteSession .access signature)

inductive Makes : Call → Prop
  | now : Makes .now
  | access {access : String} {refresh : Option String} {now : Instant}
      (read : signatures response = .ok (access, refresh)) :
      Makes (.createSession .access access (accessRequest authority request now))
  | refresh {access refresh : String} {now : Instant}
      (read : signatures response = .ok (access, some refresh)) :
      Makes (.createSession .refresh refresh (refreshRequest authority request now))
  | undo {access refresh : String} (read : signatures response = .ok (access, some refresh)) :
      Makes (.deleteSession .access access)

variable {authority request response} in
theorem Makes.asks {call : Call} (makes : Makes authority request response call) {past : Transcript} :
    Asks past call := by
  cases makes with
  | now => exact .now
  | access | refresh => exact .create
  | undo => exact .remove

/-- How taking over ends, and by which calls. -/
inductive Ends (before : Transcript) : Transcript → Except OAuthError Outcome × TokenRequest → Prop
  | malformed {error : OAuthError} (unread : signatures response = .error error) :
      Ends before before (.error error, request)
  | refused {access : String} {refresh : Option String} {now : Instant} {cause : StoreError}
      (read : signatures response = .ok (access, refresh)) :
      Ends before
        (⟨.createSession .access access (accessRequest authority request now), .error cause⟩ ::
          ⟨.now, now⟩ :: before)
        (.error (.storage cause), accessRequest authority request now)
  | alone {access : String} {now : Instant} (read : signatures response = .ok (access, none)) :
      Ends before
        (⟨.createSession .access access (accessRequest authority request now), .ok ()⟩ ::
          ⟨.now, now⟩ :: before)
        (.ok .handled, accessRequest authority request now)
  | both {access refresh : String} {now : Instant}
      (read : signatures response = .ok (access, some refresh)) :
      Ends before
        (⟨.createSession .refresh refresh (refreshRequest authority request now), .ok ()⟩ ::
          ⟨.createSession .access access (accessRequest authority request now), .ok ()⟩ ::
          ⟨.now, now⟩ :: before)
        (.ok .handled, refreshRequest authority request now)
  | undone {access refresh : String} {now : Instant} {cause : StoreError}
      (read : signatures response = .ok (access, some refresh)) :
      Ends before
        (⟨.deleteSession .access access, .ok ()⟩ ::
          ⟨.createSession .refresh refresh (refreshRequest authority request now), .error cause⟩ ::
          ⟨.createSession .access access (accessRequest authority request now), .ok ()⟩ ::
          ⟨.now, now⟩ :: before)
        (.error (.storage cause), refreshRequest authority request now)
  | stuck {access refresh : String} {now : Instant} {cause cleanup : StoreError}
      (read : signatures response = .ok (access, some refresh)) :
      Ends before
        (⟨.deleteSession .access access, .error cleanup⟩ ::
          ⟨.createSession .refresh refresh (refreshRequest authority request now), .error cause⟩ ::
          ⟨.createSession .access access (accessRequest authority request now), .ok ()⟩ ::
          ⟨.now, now⟩ :: before)
        (.error (.rollbackFailed cause cleanup), refreshRequest authority request now)

theorem apply_storeRefresh (access refresh : String) (now : Instant) :
    (storeRefresh authority access refresh now).apply (accessRequest authority request now) =
      Edit.apply (do
        match ← WorkEdit.call (.createSession .refresh refresh (← get)) with
        | .ok () => return
        | .error cause => throw (← rollBack access cause)) (refreshRequest authority request now) := by
  by_cases positive : 0 < authority.lifespans.refreshSeconds
  · simp only [storeRefresh, refreshRequest, if_pos positive]
    refine (Edit.apply_bind _ _ _).trans ?_
    rw [Edit.apply_modify]
    exact pure_bind _ _
  · have same : refreshRequest authority request now = accessRequest authority request now := if_neg positive
    rw [same]
    exact congrArg (Edit.apply · _) (if_neg positive)

variable {authority request response} in
theorem storeRefresh_meets {before : Transcript} {access refresh : String} {now : Instant}
    (read : signatures response = .ok (access, some refresh)) :
    Work.Meets ⟨fun _ => Makes authority request response, fun past result =>
      Ends authority request response before past (result.1.map fun _ => .handled, result.2)⟩
      ((storeRefresh authority access refresh now).apply (accessRequest authority request now))
      (⟨.createSession .access access (accessRequest authority request now), .ok ()⟩ ::
        ⟨.now, now⟩ :: before) := by
  rw [apply_storeRefresh]
  refine ⟨.refresh read, fun created => ?_⟩
  cases created with
  | ok => exact .both read
  | error cause =>
    refine ⟨.undo read, fun removed => ?_⟩
    cases removed with
    | ok => exact .undone read
    | error cleanup => exact .stuck read

/-- Taking over stores nothing but sessions of its request and ends in one of six ways. -/
theorem migrate_makes (before : Transcript) :
    Work.Meets ⟨fun _ => Makes authority request response, Ends authority request response before⟩
      ((migrate authority response).apply request) before := by
  change Work.Meets _ (Edit.apply (WorkEdit.ofExcept id (signatures response) >>= _) request) before
  cases read : signatures response with
  | error error => exact .malformed read
  | ok pair =>
    rcases pair with ⟨access, refresh⟩
    refine ⟨.now, fun now => ⟨.access read, fun created => ?_⟩⟩
    cases created with
    | error cause => exact .refused read
    | ok =>
      cases refresh with
      | none => exact .alone read
      | some refresh =>
        change Work.Meets _ (Edit.apply (storeRefresh authority access refresh now >>= _)
          (accessRequest authority request now)) _
        rw [Edit.apply_bind]
        refine .bind _ (storeRefresh_meets read) ?_
        rintro past ⟨error | _, after⟩ ends
        · exact ends
        · exact ends

/-- Taking over asks for what it may and ends in one of six ways. -/
theorem migrate_meets (before : Transcript) :
    Work.Meets ⟨Asks, Ends authority request response before⟩
      ((migrate authority response).apply request) before := by
  exact (migrate_makes authority request response before).mono (fun _ _ makes => makes.asks)
    fun _ _ ends => ends

variable {authority request response} in
theorem Ends.grown {before past : Transcript} {result : Except OAuthError Outcome × TokenRequest}
    (ends : Ends authority request response before past result) : before ⊆ past := by
  cases ends with
  | malformed => exact List.Subset.refl before
  | refused | alone => exact fun _ old => .tail _ (.tail _ old)
  | both => exact fun _ old => .tail _ (.tail _ (.tail _ old))
  | undone | stuck => exact fun _ old => .tail _ (.tail _ (.tail _ (.tail _ old)))

/-- The refresh session of the tokens was refused after the access session had been stored. -/
def RefreshRefused (calls : Transcript) (access : String) (cause : StoreError) : Prop :=
  ∃ refresh stored, signatures response = .ok (access, some refresh) ∧
    ⟨.createSession .refresh refresh stored, .error cause⟩ ∈ calls

variable {authority request response} in
theorem Ends.stuck_of_rollbackFailed {calls : Transcript} {result : Except OAuthError Outcome × TokenRequest}
    {cause cleanup : StoreError} (ends : Ends authority request response [] calls result)
    (failed : result.1 = .error (.rollbackFailed cause cleanup)) :
    ∃ access, RefreshRefused response calls access cause ∧
      ⟨.deleteSession .access access, .error cleanup⟩ ∈ calls := by
  cases ends with
  | malformed unread =>
    cases failed
    rcases signatures_error unread with same | same <;> cases same
  | @stuck access refresh now _ _ read =>
    cases failed
    refine ⟨access, ⟨refresh, refreshRequest authority request now, read, ?_⟩, List.mem_cons_self⟩
    exact List.mem_cons_of_mem _ List.mem_cons_self
  | _ => cases failed

variable {authority request response} in
theorem Ends.kept {calls : Transcript} {result : Except OAuthError Outcome × TokenRequest}
    {error : OAuthError} (ends : Ends authority request response [] calls result)
    (failed : result.1 = .error error) (store : Store)
    (undone : ∀ cause cleanup, error ≠ .rollbackFailed cause cleanup) :
    calls.foldr (fun made store => Made.effect store made) store = store ∨
      ∃ access cause, error = .storage cause ∧ RefreshRefused response calls access cause ∧
        store.access.contains access = true ∧
        calls.foldr (fun made store => Made.effect store made) store =
          store.removeSession .access access := by
  cases ends with
  | malformed unread => exact .inl rfl
  | refused read => exact .inl rfl
  | alone read => cases failed
  | both read => cases failed
  | @undone access refresh now cause read =>
    cases failed
    have removed := store.removeSession_createSession .access access (accessRequest authority request now)
    cases known : store.access.contains access with
    | false => exact .inl (removed.trans (store.removeSession_of_absent known))
    | true =>
      refine .inr ⟨access, cause, rfl, ⟨refresh, refreshRequest authority request now, read, ?_⟩, known, removed⟩
      exact List.mem_cons_of_mem _ List.mem_cons_self
  | @stuck access refresh now cause cleanup read =>
    cases failed
    exact absurd rfl (undone cause cleanup)

variable {authority request response} in
/-- Once the refresh session has been refused, undoing has cleared the access signature. -/
theorem Ends.cleared {calls : Transcript} {result : Except OAuthError Outcome × TokenRequest}
    {error : OAuthError} (ends : Ends authority request response [] calls result)
    (failed : result.1 = .error error) (store : Store)
    (undone : ∀ cause cleanup, error ≠ .rollbackFailed cause cleanup) {access : String}
    {cause : StoreError} (refused : RefreshRefused response calls access cause) :
    calls.foldr (fun made store => Made.effect store made) store =
      store.removeSession .access access := by
  obtain ⟨refresh, stored, presented, made⟩ := refused
  cases ends with
  | malformed unread => cases made
  | refused read => simp at made
  | alone read => cases failed
  | both read => cases failed
  | @undone _ _ now _ read =>
    cases read.symm.trans presented
    exact store.removeSession_createSession .access access (accessRequest authority request now)
  | @stuck _ _ _ cause cleanup read =>
    cases failed
    exact absurd rfl (undone cause cleanup)

/-- Taking over that fails leaves the store as it was, unless the refresh session was refused and there was a
session under the access signature before, which is then gone; it gets stuck only when undoing fails as well. -/
theorem store_of_failed (instruments : Instruments) (store : Store) (chances : Nat → Chance)
    {error : OAuthError}
    (failed : (instruments.perform ((migrate authority response).apply request)
      ⟨store, chances, []⟩).1.1 = .error error) :
    let after := (instruments.perform ((migrate authority response).apply request) ⟨store, chances, []⟩).2
    (∀ cause cleanup, error = .rollbackFailed cause cleanup → ∃ access,
      RefreshRefused response after.calls access cause ∧
        ⟨.deleteSession .access access, .error cleanup⟩ ∈ after.calls) ∧
    ((∀ cause cleanup, error ≠ .rollbackFailed cause cleanup) →
      (after.store = store ∨ ∃ access cause, error = .storage cause ∧
        RefreshRefused response after.calls access cause ∧ store.access.contains access = true ∧
        after.store = store.removeSession .access access) ∧
      ∀ access cause, RefreshRefused response after.calls access cause →
        after.store = store.removeSession .access access) := by
  intro after
  have onStage : ((migrate authority response).apply request).Meets
      ⟨Asks, Ends authority request response []⟩ (Stage.calls ⟨store, chances, []⟩) :=
    migrate_meets authority request response []
  have ends := onStage.ended instruments
  have initial : Answered instruments (Stage.Offers ⟨store, chances, []⟩) store
      (Stage.calls ⟨store, chances, []⟩) store := .start
  have effects := (instruments.perform_answered ((migrate authority response).apply request)
    (fun _ offered => offered) initial).effects
  constructor
  · rintro cause cleanup rfl
    exact ends.stuck_of_rollbackFailed failed
  · intro undone
    constructor
    · have kept := ends.kept failed store undone
      rw [← effects] at kept
      exact kept
    · intro access cause refused
      exact effects.trans (ends.cleared failed store undone refused)

def sampleResponse : TokenResponse :=
  ({ accessToken := "AQID.AQID" } : TokenResponse).setExtra TokenResponse.refreshTokenKey
    (.string "BAUG.BAUG")

def sampleStore : Store :=
  { access := (∅ : Table TokenRequest).insert "AQID" (Specimen.request ["a"] ⟨0, 0⟩) }

/-- Taking over that fails with the refresh session loses a session that was there before. -/
theorem stored_session_lost :
    let result := Specimen.instruments.perform
      ((migrate Specimen.authority sampleResponse).apply (Specimen.request [] ⟨0, 0⟩))
      ⟨sampleStore, Specimen.failingAt 2, []⟩
    result.1.1 = .error (.storage (.connection "down")) ∧ sampleStore.access.contains "AQID" = true ∧
      result.2.store.access.contains "AQID" = false := by
  decide +kernel

theorem store_of_failed_sample :
    let after := (Specimen.instruments.perform
      ((migrate Specimen.authority sampleResponse).apply (Specimen.request [] ⟨0, 0⟩))
      ⟨sampleStore, Specimen.failingAt 2, []⟩).2
    (after.store = sampleStore ∨ ∃ access cause,
      OAuthError.storage (.connection "down") = .storage cause ∧
        RefreshRefused sampleResponse after.calls access cause ∧
        sampleStore.access.contains access = true ∧
        after.store = sampleStore.removeSession .access access) ∧
    ∀ access cause, RefreshRefused sampleResponse after.calls access cause →
      after.store = sampleStore.removeSession .access access := by
  intro after
  have failed : (Specimen.instruments.perform
      ((migrate Specimen.authority sampleResponse).apply (Specimen.request [] ⟨0, 0⟩))
      ⟨sampleStore, Specimen.failingAt 2, []⟩).1.1 = .error (.storage (.connection "down")) := by
    decide +kernel
  exact (store_of_failed Specimen.authority _ sampleResponse Specimen.instruments sampleStore
    (Specimen.failingAt 2) failed).2 nofun

end TokenServer.Migration
