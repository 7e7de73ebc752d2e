import TokenServer.Proofs.MigrationRequest
import TokenServer.Proofs.Service

/-! The ledger of refresh tokens. Under any signature, exchanges and deletions use up what was stored at the
start and what has been written since, however the tasks that do so are interleaved. A refresh token that is
made by the server and not written by others is therefore exchanged once at most. -/

namespace TokenServer

namespace Made

@[simp] def exchanged? : Made → Option String
  | ⟨.exchangeSession presented _ _ _, .ok ()⟩ => some presented
  | _ => none

/-- The signature under which an exchange has stored the next refresh session. -/
@[simp] def rotated? : Made → Option String
  | ⟨.exchangeSession _ _ refresh _, .ok ()⟩ => some refresh
  | _ => none

/-- The signature under which a refresh session was created, directly or by a migration. -/
@[simp] def created? : Made → Option String
  | ⟨.createSession .refresh signature _, .ok ()⟩ => some signature
  | _ => none

@[simp] def removed? : Made → Option String
  | ⟨.deleteSession .refresh signature, .ok ()⟩ => some signature
  | _ => none

@[simp] def minted? : Made → Option String
  | ⟨.mint .refresh, .ok token⟩ => some token.signature
  | _ => none

end Made

/-- How often a signature occurs in one of these roles. -/
def tally (role? : Made → Option String) (signature : String) (calls : Transcript) : Nat :=
  calls.countP fun made => role? made == some signature

def held (signature : String) (store : Store) : Nat :=
  if store.refresh.contains signature then 1 else 0

variable {role? : Made → Option String} {signature : String}

@[simp] theorem tally_nil : tally role? signature [] = 0 := rfl

@[simp] theorem tally_cons (made : Made) (calls : Transcript) :
    tally role? signature (made :: calls) =
      tally role? signature calls + if role? made = some signature then 1 else 0 := by
  simp only [tally, List.countP_cons, beq_iff_eq]

theorem tally_append (first second : Transcript) :
    tally role? signature (first ++ second) =
      tally role? signature first + tally role? signature second := List.countP_append

theorem tally_eq_count (role? : Made → Option String) (signature : String) (calls : Transcript) :
    tally role? signature calls = (calls.filterMap role?).count signature := List.count_filterMap.symm

theorem tally_pos {calls : Transcript} {made : Made} (member : made ∈ calls) (plays : role? made = some signature) :
    0 < tally role? signature calls :=
  List.countP_pos_iff.mpr ⟨made, member, beq_iff_eq.mpr plays⟩

/-- What is done once at most is done by one call. -/
theorem eq_of_tally_le_one {calls : Transcript} (once : tally role? signature calls ≤ 1) {first second : Made}
    (member : first ∈ calls) (plays : role? first = some signature) (memberToo : second ∈ calls)
    (playsToo : role? second = some signature) : first = second := by
  induction calls with
  | nil => cases member
  | cons latest earlier ih =>
    rw [tally_cons] at once
    rcases List.mem_cons.mp member with rfl | old
    · rcases List.mem_cons.mp memberToo with rfl | oldToo
      · rfl
      · have before := tally_pos oldToo playsToo
        rw [if_pos plays] at once
        omega
    · rcases List.mem_cons.mp memberToo with rfl | oldToo
      · have before := tally_pos old plays
        rw [if_pos playsToo] at once
        omega
      · exact ih (by omega) old oldToo

theorem held_eq (signature : String) (store : Store) :
    held signature store = if ((store.sessions .refresh).get? signature).isSome then 1 else 0 := rfl

theorem held_createSession (signature : String) (store : Store) (written : String)
    (request : TokenRequest) :
    held signature (store.createSession .refresh written request) =
      if written = signature then 1 else held signature store := by
  rw [held_eq, held_eq, Store.get?_createSession]
  by_cases same : written = signature <;> simp [same]

theorem held_removeSession (signature : String) (store : Store) (removed : String) :
    held signature (store.removeSession .refresh removed) =
      if removed = signature then 0 else held signature store := by
  rw [held_eq, held_eq, Store.get?_removeSession]
  by_cases same : removed = signature <;> simp [same]

theorem held_rotateSession (signature : String) (store : Store) (presented access refresh : String)
    (request : TokenRequest) :
    held signature (store.rotateSession presented access refresh request) =
      if refresh = signature then 1 else if presented = signature then 0 else held signature store := by
  rw [Store.rotateSession, held_createSession]
  split
  · rfl
  · exact held_removeSession signature store presented

theorem held_le_one (signature : String) (store : Store) : held signature store ≤ 1 := by
  rw [held]
  split <;> decide

theorem held_le_createSession (signature : String) (store : Store) (written : String) (request : TokenRequest) :
    held signature store ≤ held signature (store.createSession .refresh written request) := by
  rw [held_createSession]
  split
  · exact held_le_one signature store
  · exact Nat.le_refl _

theorem held_of_contains {store : Store} (stored : store.refresh.contains signature = true) :
    held signature store = 1 := if_pos stored

theorem contains_of_held {store : Store} (present : held signature store = 1) :
    store.refresh.contains signature = true := by
  by_contra absent
  rw [held, if_neg absent] at present
  cases present

theorem held_withSessions_access (signature : String) (store : Store) (sessions : Table TokenRequest) :
    held signature (store.withSessions .access sessions) = held signature store := rfl

/-- Exchanges and deletions use up no more than is written and was held before. -/
def Balanced (signature : String) (calls : Transcript) (before after : Store) : Prop :=
  tally Made.exchanged? signature calls + tally Made.removed? signature calls + held signature after ≤
    tally Made.created? signature calls + tally Made.rotated? signature calls + held signature before

theorem Balanced.trans {later earlier : Transcript} {before middle after : Store}
    (second : Balanced signature later middle after) (first : Balanced signature earlier before middle) :
    Balanced signature (later ++ earlier) before after := by
  unfold Balanced at *
  simp only [tally_append]
  omega

theorem balanced_of_unwritten {made : Made} (store : Store)
    (unwritten : made.exchanged? = none ∧ made.removed? = none) :
    Balanced signature [made] store store := by
  unfold Balanced
  simp only [tally_cons, tally_nil, unwritten, reduceCtorEq, if_false]
  omega

theorem balanced_of_serve (signature : String) (instruments : Instruments) (chance : Chance)
    (call : Call) (store : Store) :
    Balanced signature [⟨call, (instruments.serve chance call store).1⟩] store
      (instruments.serve chance call store).2 := by
  cases call with
  | createSession kind written request =>
    cases kind with
    | access => simp [Balanced, Instruments.serve, Store.createSession, held_withSessions_access]
    | refresh =>
      simp only [Balanced, tally_cons, tally_nil, Instruments.serve, Made.exchanged?, Made.removed?,
        Made.created?, Made.rotated?, held_createSession, reduceCtorEq, if_false, Option.some.injEq]
      split <;> omega
  | deleteSession kind removed =>
    simp only [Instruments.serve, Store.deleteSession]
    split
    · next stored =>
      cases kind with
      | access => simp [Balanced, held_withSessions_access]
      | refresh =>
        have after := held_removeSession signature store removed
        rw [Store.removeSession] at after
        simp only [Balanced, tally_cons, tally_nil, Made.exchanged?, Made.removed?, Made.created?,
          Made.rotated?, after, reduceCtorEq, if_false, Option.some.injEq]
        by_cases same : removed = signature
        · have before : held signature store = 1 := held_of_contains (same ▸ stored)
          simp [same, before]
        · simp [same]
    · exact balanced_of_unwritten store (by cases kind <;> exact ⟨rfl, rfl⟩)
  | exchangeSession presented access refresh request =>
    simp only [Instruments.serve, Store.exchangeSession]
    split
    · next stored =>
      have after := held_rotateSession signature store presented access refresh request
      change Balanced signature [⟨.exchangeSession presented access refresh request, .ok ()⟩] store
        (store.rotateSession presented access refresh request)
      simp only [Balanced, tally_cons, tally_nil, Made.exchanged?, Made.removed?, Made.created?,
        Made.rotated?, after, reduceCtorEq, if_false, Option.some.injEq]
      by_cases same : presented = signature
      · have before : held signature store = 1 := held_of_contains (same ▸ stored)
        simp only [same, before, if_true]
        split <;> decide
      · simp only [same, if_false]
        split <;> omega
    · exact balanced_of_unwritten store ⟨rfl, rfl⟩
  | _ => exact balanced_of_unwritten store ⟨rfl, rfl⟩

theorem balanced_of_answer (signature : String) (instruments : Instruments) (chance : Chance)
    (call : Call) (store : Store) :
    Balanced signature [⟨call, (instruments.answer chance call store).1⟩] store
      (instruments.answer chance call store).2 := by
  rcases instruments.answer_cases chance call store with ⟨error, reply, _, failed, same⟩ | same
  · rw [same]
    refine balanced_of_unwritten store ?_
    cases call <;> cases failed <;> simp
  · rw [same]
    exact balanced_of_serve signature instruments chance call store

/-- No calls use up more than there is, whoever makes them. -/
theorem Answered.balanced {instruments : Instruments} {possible : Chance → Prop} {store after : Store}
    {calls : Transcript} (answered : Answered instruments possible store calls after)
    (signature : String) : Balanced signature calls store after := by
  induction answered with
  | start => exact Nat.le_refl _
  | @next calls before chance earlier met call ih =>
    exact (balanced_of_answer signature instruments chance call before).trans ih

namespace Job

variable (authority : TokenAuthority)

def keeping (α : Type) : Contract α := ⟨fun _ call => Provider.Keeps call, fun _ _ => True⟩

/-- A job that has exchanged the token of its request once it succeeds. -/
def exchanging (request : TokenRequest) : Contract (Except OAuthError TokenResponse) where
  allows := RefreshGrant.Asks authority request []
  ends past result := ∀ response, result = .ok response →
    0 < tally Made.exchanged? (RefreshGrant.presented request) past

def contract : (job : Job) → Contract job.Result
  | .respond request =>
    if request.grantTypes.isExactly RefreshGrant.name then exchanging authority request else keeping _
  | .accept _ _ => keeping _
  | .migrate _ => keeping _
  | .create _ _ => keeping _
  | .delete _ => keeping _

theorem keeps_of_asking {call : Call} (asks : call.isWrite = false) : Provider.Keeps call := by
  cases call <;> trivial

theorem work_meets (settings : Settings) (signer : Signer) (job : Job) :
    (job.work (.standard settings signer)).Meets (contract (Provider.authority settings signer) job) [] := by
  cases job with
  | accept http session =>
    exact (Provider.acceptRequest_meets settings signer http session []).mono
      (fun _ _ asks => keeps_of_asking asks) fun _ _ _ => trivial
  | respond request =>
    rw [contract]
    cases applies : request.grantTypes.isExactly RefreshGrant.name with
    | true =>
      refine (Provider.respond_refresh_meets settings signer applies []).mono (fun _ _ asks => asks) ?_
      intro past result good response same
      cases good response same with
      | intro next => simp
    | false =>
      refine (Provider.respond_other_meets settings signer applies []).mono ?_ fun _ _ _ => trivial
      intro past call asks
      cases asks <;> trivial
  | migrate http =>
    refine (Provider.migrate_meets settings signer http Transcript.idle_nil).mono ?_ fun _ _ _ => trivial
    rintro past call (asks | asks)
    · exact keeps_of_asking asks
    · cases asks <;> trivial
  | create signature request => exact ⟨trivial, fun _ => trivial⟩
  | delete signature => exact ⟨trivial, fun _ => trivial⟩

/-- Every refresh token that has been handed on was made before, by the same job. -/
def Rotates (past : Transcript) : Prop :=
  ∀ signature, tally Made.rotated? signature past ≤ tally Made.minted? signature past

theorem rotates_of_keeps {past : Transcript} {call : Call} {reply : call.Reply} (rotates : Rotates past)
    (keeps : Provider.Keeps call) : Rotates (⟨call, reply⟩ :: past) := by
  have unchanged : Made.rotated? ⟨call, reply⟩ = none := by
    cases call <;> first | rfl | cases keeps
  intro signature
  have before := rotates signature
  simp only [tally_cons, unchanged, reduceCtorEq, if_false]
  omega

variable {authority}

theorem rotates_of_asks {request : TokenRequest} (temporary : authority.lifespans.refreshIsPermanent = false)
    {past : Transcript} {call : Call} {reply : call.Reply} (rotates : Rotates past)
    (asks : RefreshGrant.Asks authority request [] past call) : Rotates (⟨call, reply⟩ :: past) := by
  cases asks with
  | access => exact rotates_of_keeps rotates trivial
  | refresh => exact rotates_of_keeps rotates trivial
  | now => exact rotates_of_keeps rotates trivial
  | @exchange access refresh _ next =>
    cases next with
    | kept permanent => cases temporary.symm.trans permanent
    | minted =>
      intro signature
      cases reply with
      | error error => simp
      | ok => simp

theorem rotates_onwards (temporary : authority.lifespans.refreshIsPermanent = false) (job : Job)
    (past : Transcript) (call : Call) (reply : call.Reply) (rotates : Rotates past)
    (allowed : (contract authority job).allows past call) : Rotates (⟨call, reply⟩ :: past) := by
  cases job with
  | respond request =>
    simp only [contract] at allowed
    split at allowed
    · exact rotates_of_asks temporary rotates allowed
    · exact rotates_of_keeps rotates allowed
  | accept | migrate | create | delete => exact rotates_of_keeps rotates allowed

/-- What jobs do to refresh tokens while such tokens are replaced with each exchange. -/
def policy (settings : Settings) (signer : Signer)
    (temporary : settings.lifespans.refreshIsPermanent = false) :
    Service.Policy (.standard settings signer) where
  contract := contract (Provider.authority settings signer)
  keeps := Rotates
  meets := work_meets settings signer
  initially := fun _ => Nat.le_refl _
  onwards := rotates_onwards temporary

end Job

def Task.hasExchanged (signature : String) : Task → Bool
  | ⟨.respond request, .done (.ok _), _⟩ =>
    request.grantTypes.isExactly RefreshGrant.name && RefreshGrant.presented request == signature
  | _ => false

theorem Task.exchanged_of_meets {authority : TokenAuthority} {task : Task}
    (meets : task.work.Meets (Job.contract authority task.job) task.past)
    (done : task.hasExchanged signature = true) :
    0 < tally Made.exchanged? signature task.past := by
  rcases task with ⟨job, work, past⟩
  cases job with
  | respond request =>
    cases work with
    | ask => cases done
    | done result =>
      cases result with
      | error => cases done
      | ok response =>
        obtain ⟨applies, same⟩ := Bool.and_eq_true_iff.mp done
        simp only [Job.contract, applies, if_true] at meets
        exact eq_of_beq same ▸ meets response rfl
  | accept | migrate | create | delete => cases done

def Service.exchanges (signature : String) (service : Service) : Nat :=
  service.tasks.countP (Task.hasExchanged signature)

/-- Refresh tokens that are made have signatures that no other has had. -/
structure FreshlyMinted (store : Store) (calls : Transcript) : Prop where
  distinct : (calls.filterMap Made.minted?).Nodup
  unstored : ∀ signature ∈ calls.filterMap Made.minted?, held signature store = 0

theorem FreshlyMinted.at_most_one {store : Store} {calls : Transcript} (fresh : FreshlyMinted store calls)
    (signature : String) : tally Made.minted? signature calls + held signature store ≤ 1 := by
  have counted := tally_eq_count Made.minted? signature calls
  by_cases minted : signature ∈ calls.filterMap Made.minted?
  · have once := List.nodup_iff_count.mp fresh.distinct signature
    have unstored := fresh.unstored signature minted
    omega
  · have none := List.count_eq_zero.mpr minted
    have one := held_le_one signature store
    omega

section

variable {tasks : List Task}

theorem tally_le_of_tasks {other? : Made → Option String}
    (each : ∀ task ∈ tasks, tally role? signature task.past ≤ tally other? signature task.past) :
    tally role? signature (tasks.flatMap Task.past) ≤ tally other? signature (tasks.flatMap Task.past) := by
  induction tasks with
  | nil => exact Nat.le_refl _
  | cons task rest ih =>
    rw [List.forall_mem_cons] at each
    have later := ih each.2
    rw [List.flatMap_cons, tally_append, tally_append]
    omega

theorem countP_le_of_tasks {counts : Task → Bool}
    (each : ∀ task ∈ tasks, counts task = true → 0 < tally role? signature task.past) :
    tasks.countP counts ≤ tally role? signature (tasks.flatMap Task.past) := by
  induction tasks with
  | nil => exact Nat.le_refl _
  | cons task rest ih =>
    rw [List.forall_mem_cons] at each
    have later := ih each.2
    rw [List.countP_cons, List.flatMap_cons, tally_append]
    split
    · next counted =>
      have once := each.1 counted
      omega
    · omega

end

namespace Service

variable {settings : Settings} {instruments : Instruments}
  {temporary : settings.lifespans.refreshIsPermanent = false} {store : Store} {service : Service}

theorem Sound.tally_eq {provider : Provider} {policy : Policy provider}
    (sound : Sound instruments policy store service) (role? : Made → Option String) (signature : String) :
    tally role? signature service.calls = tally role? signature (service.tasks.flatMap Task.past) :=
  sound.shared.countP_eq _

theorem Sound.exchanges_le (sound : Sound instruments (Job.policy settings instruments.signer temporary)
    store service) (signature : String) :
    service.exchanges signature ≤ tally Made.exchanged? signature service.calls := by
  rw [sound.tally_eq, exchanges]
  refine countP_le_of_tasks fun task member counted => ?_
  exact Task.exchanged_of_meets (sound.loyal task member).1 counted

/-- An exchange stores the next refresh session under a signature that was made for it. -/
theorem Sound.rotated_le (sound : Sound instruments (Job.policy settings instruments.signer temporary)
    store service) (signature : String) :
    tally Made.rotated? signature service.calls ≤ tally Made.minted? signature service.calls := by
  rw [sound.tally_eq, sound.tally_eq]
  exact tally_le_of_tasks fun task member => (sound.loyal task member).2 signature

/-- Whatever the server is asked to do and however its tasks are interleaved: the requests that are answered
in exchange for a refresh token and the deletions of its session are no more than the sessions that were
stored under its signature. If tokens are made freshly, one that is not written otherwise is exchanged once
at most. -/
theorem exchange_ledger (settings : Settings) (instruments : Instruments) (store : Store)
    (actions : List Action) (signature : String) (rotates : 0 ≤ settings.lifespans.refresh) :
    let after := run (.standard settings instruments.signer) instruments store actions
    after.exchanges signature + tally Made.removed? signature after.calls + held signature after.store ≤
      tally Made.created? signature after.calls + tally Made.rotated? signature after.calls +
        held signature store ∧
    (FreshlyMinted store after.calls → tally Made.created? signature after.calls = 0 →
      after.exchanges signature ≤ 1) := by
  intro after
  have temporary : settings.lifespans.refreshIsPermanent = false := by
    simpa [Lifespans.refreshIsPermanent] using rotates
  have sound : Sound instruments (Job.policy settings instruments.signer temporary) store after :=
    run_sound _ store actions
  have exchanged := sound.exchanges_le signature
  have balance := sound.answered.balanced signature
  rw [Balanced] at balance
  constructor
  · omega
  · intro fresh uncreated
    have rotated := sound.rotated_le signature
    have once := fresh.at_most_one signature
    omega

def rivals : List Action :=
  .start (.respond (Specimen.presenting "AQID.AQID")) ::
    .start (.respond (Specimen.presenting "AQID.AQID")) ::
      (List.range 8).map fun number => .proceed (number % 2) (Specimen.chances number)

theorem one_rival_exchanges :
    let store := Specimen.store ["offline"] ⟨0, 0⟩
    let after := run (.standard {} Specimen.instruments.signer) Specimen.instruments store rivals
    FreshlyMinted store after.calls ∧ 0 < after.exchanges "AQID" ∧ after.exchanges "AQID" ≤ 1 ∧
      after.exchanges "AQID" + tally Made.removed? "AQID" after.calls + held "AQID" after.store ≤
        tally Made.created? "AQID" after.calls + tally Made.rotated? "AQID" after.calls +
          held "AQID" store := by
  intro store after
  have fresh : FreshlyMinted store after.calls := ⟨by decide +kernel, by decide +kernel⟩
  obtain ⟨balance, once⟩ := exchange_ledger {} Specimen.instruments store rivals "AQID" (by decide)
  exact ⟨fresh, by decide +kernel, once fresh (by decide +kernel), balance⟩

end Service

end TokenServer
