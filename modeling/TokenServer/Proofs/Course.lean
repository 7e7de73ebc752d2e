import TokenServer.Proofs.MigrationRequest
import TokenServer.Proofs.Service

/-! Courses of events at a server that answers only what it has accepted. The phases of many requests share one
store and make their calls in any order, and any of them may fail or stop for ever. Every call is licensed by
those before it: a session is written only for a request that has been accepted, or by a migration. -/

namespace TokenServer

/-- What happens next: a token request or a migration comes in, the request that a task has accepted is to be
answered, or a task makes its next call. -/
inductive Event where
  | accept (http : HttpRequest) (session : Session)
  | answer (number : Nat)
  | migrate (http : HttpRequest)
  | proceed (number : Nat) (chance : Chance)

def Task.accepted? : Task → Option TokenRequest
  | ⟨.accept _ _, .done (.ok request), _⟩ => some request
  | _ => none

namespace Service

def action? (service : Service) : Event → Option Action
  | .accept http session => some (.start (.accept http session))
  | .answer number =>
    (service.tasks[number]?.bind Task.accepted?).map fun request => .start (.respond request)
  | .migrate http => some (.start (.migrate http))
  | .proceed number chance => some (.proceed number chance)

variable (provider : Provider) (instruments : Instruments)

def follow (service : Service) (event : Event) : Service :=
  match service.action? event with
  | some action => service.step provider instruments action
  | none => service

def course (store : Store) (events : List Event) : Service :=
  events.foldl (follow provider instruments) { store }

theorem course_eq_run (store : Store) (events : List Event) :
    ∃ actions, course provider instruments store events = run provider instruments store actions := by
  rw [course]
  suffices later : ∀ service : Service, ∃ actions : List Action,
      events.foldl (follow provider instruments) service =
        actions.foldl (step provider instruments) service from later _
  induction events with
  | nil => exact fun service => ⟨[], rfl⟩
  | cons event rest ih =>
    intro service
    obtain ⟨actions, same⟩ := ih (service.follow provider instruments event)
    rw [List.foldl_cons, same, follow]
    split
    · next action _ => exact ⟨action :: actions, rfl⟩
    · exact ⟨actions, rfl⟩

variable {provider instruments}

theorem course_sound (policy : Policy provider) (store : Store) (events : List Event) :
    Sound instruments policy store (course provider instruments store events) := by
  obtain ⟨actions, same⟩ := course_eq_run provider instruments store events
  rw [same]
  exact run_sound policy store actions

theorem follow_told {reads : Instant → Prop} {service : Service} {event : Event}
    (told : ∀ instant, ⟨.now, instant⟩ ∈ service.calls → reads instant)
    (given : ∀ number chance, event = .proceed number chance → reads chance.instant) :
    ∀ instant, ⟨.now, instant⟩ ∈ (service.follow provider instruments event).calls → reads instant := by
  cases event with
  | accept | migrate => exact told
  | answer number =>
    rw [follow, action?]
    cases service.tasks[number]?.bind Task.accepted? <;> exact told
  | proceed number chance =>
    change ∀ instant, ⟨.now, instant⟩ ∈ (service.step provider instruments (.proceed number chance)).calls → _
    rw [step]
    split
    · intro instant member
      rcases List.mem_cons.mp member with same | earlier
      · cases same
        rw [Instruments.answer_now]
        exact given number chance rfl
      · exact told instant earlier
    · exact told

/-- What the clock says in a course is what the events let it say. -/
theorem course_told {reads : Instant → Prop} {store : Store} {events : List Event}
    (given : ∀ number chance, .proceed number chance ∈ events → reads chance.instant) :
    ∀ instant, ⟨.now, instant⟩ ∈ (course provider instruments store events).calls → reads instant := by
  suffices later : ∀ service : Service, (∀ instant, ⟨.now, instant⟩ ∈ service.calls → reads instant) →
      ∀ instant, ⟨.now, instant⟩ ∈ (events.foldl (follow provider instruments) service).calls → reads instant from
    later _ nofun
  induction events with
  | nil => exact fun _ told => told
  | cons event rest ih =>
    intro service told
    refine ih (fun number chance member => given number chance (List.mem_cons_of_mem _ member)) _ ?_
    exact follow_told told fun number chance same => given number chance (same ▸ List.mem_cons_self)

end Service

namespace Provider

variable (settings : Settings) (signer : Signer)

theorem Accepts.mono {http : HttpRequest} {session : Session} {past after : Transcript} {request : TokenRequest}
    (accepts : Accepts settings signer http session past request) (kept : past ⊆ after) :
    Accepts settings signer http session after request := by
  cases accepts with
  | refresh received applies judged =>
    cases judged with
    | admitted looked asked judged askedLast =>
      exact .refresh (received.mono kept) applies
        (.admitted (looked.mono kept) (kept asked) judged (kept askedLast))
  | clientCredentials received applies judged =>
    cases judged with
    | admitted accepts asked =>
      exact .clientCredentials (received.mono kept) applies (.admitted accepts (kept asked))

/-- The calls have led to the request being accepted. -/
def Accepted (calls : Transcript) (request : TokenRequest) : Prop :=
  ∃ http session, Accepts settings signer http session calls request

variable {settings signer} in
theorem Accepted.mono {past after : Transcript} {request : TokenRequest}
    (accepted : Accepted settings signer past request) (kept : past ⊆ after) :
    Accepted settings signer after request := by
  obtain ⟨http, session, accepts⟩ := accepted
  exact ⟨http, session, accepts.mono settings signer kept⟩

variable {settings signer} in
theorem Accepted.applies {past : Transcript} {request : TokenRequest}
    (accepted : Accepted settings signer past request) :
    request.grantTypes.isExactly RefreshGrant.name = true ∨
      request.grantTypes.isExactly ClientCredentialsGrant.name = true := by
  obtain ⟨_, _, accepts⟩ := accepted
  cases accepts with
  | refresh received applies judged =>
    cases judged with
    | admitted => exact .inl applies
  | clientCredentials received applies judged =>
    cases judged with
    | admitted => exact .inr applies

variable {settings signer} in
theorem Imports.mono {http : HttpRequest} {past after : Transcript} {call : Call}
    (imports : Imports http settings signer past call) (kept : past ⊆ after) :
    Imports http settings signer after call := by
  cases imports with
  | intro permitted makes => exact .intro (permitted.mono (Transcript.registry_mono kept)) makes

end Provider

section

variable (settings : Settings) (signer : Signer) (sent : HttpRequest → Prop)

/-- What may be asked for after these calls, while the given requests are all that was sent to the migration
endpoint. -/
inductive Licensed (calls : Transcript) : Call → Prop
  | asking {call : Call} (asks : call.isWrite = false) : Licensed calls call
  | issue {request : TokenRequest} {access : SignedToken} (accepted : Provider.Accepted settings signer calls request)
      (applies : request.grantTypes.isExactly ClientCredentialsGrant.name = true)
      (made : ⟨.mint .access, .ok access⟩ ∈ calls) :
      Licensed calls (.createSession .access access.signature request)
  | rotate {request : TokenRequest} {access next : SignedToken}
      (accepted : Provider.Accepted settings signer calls request)
      (applies : request.grantTypes.isExactly RefreshGrant.name = true)
      (made : ⟨.mint .access, .ok access⟩ ∈ calls)
      (temporary : settings.lifespans.refreshIsPermanent = false)
      (madeToo : ⟨.mint .refresh, .ok next⟩ ∈ calls) :
      Licensed calls
        (.exchangeSession (RefreshGrant.presented request) access.signature next.signature request)
  | keep {request : TokenRequest} {access : SignedToken}
      (accepted : Provider.Accepted settings signer calls request)
      (applies : request.grantTypes.isExactly RefreshGrant.name = true)
      (made : ⟨.mint .access, .ok access⟩ ∈ calls)
      (permanent : settings.lifespans.refreshIsPermanent = true) :
      Licensed calls (.exchangeSession (RefreshGrant.presented request) access.signature
        (RefreshGrant.presented request) request)
  | migration {http : HttpRequest} {call : Call} (asked : sent http)
      (imports : Provider.Imports http settings signer calls call) : Licensed calls call

namespace Job

/-- What each job keeps to. Requests are accepted for good reasons, and answered by the calls of their grant. -/
def terms : (job : Job) → Contract job.Result
  | .accept http session =>
    ⟨fun _ call => call.isWrite = false, fun past result => ∀ request, result = .ok request →
      Provider.Accepts settings signer http session past request⟩
  | .respond request =>
    ⟨fun past call =>
      request.grantTypes.isExactly RefreshGrant.name = true ∧
          RefreshGrant.Asks (Provider.authority settings signer) request [] past call ∨
        request.grantTypes.isExactly RefreshGrant.name = false ∧
          ClientCredentialsGrant.Asks request [] past call,
      fun _ _ => True⟩
  | .migrate http =>
    ⟨fun past call => call.isWrite = false ∨ Provider.Imports http settings signer past call, fun _ _ => True⟩
  | .create _ _ => ⟨fun _ _ => True, fun _ _ => True⟩
  | .delete _ => ⟨fun _ _ => True, fun _ _ => True⟩

theorem work_terms (job : Job) : (job.work (.standard settings signer)).Meets (terms settings signer job) [] := by
  cases job with
  | accept http session => exact Provider.acceptRequest_meets settings signer http session []
  | respond request =>
    cases applies : request.grantTypes.isExactly RefreshGrant.name with
    | true =>
      exact (Provider.respond_refresh_ends settings signer applies []).mono
        (fun _ _ asks => .inl ⟨applies, asks⟩) fun _ _ _ => trivial
    | false =>
      exact (Provider.respond_other_ends settings signer applies []).mono
        (fun _ _ asks => .inr ⟨applies, asks⟩) fun _ _ _ => trivial
  | migrate http =>
    exact (Provider.migrate_imports settings signer http Transcript.idle_nil).mono (fun _ _ allowed => allowed)
      fun _ _ _ => trivial
  | create signature request => exact ⟨trivial, fun _ => trivial⟩
  | delete signature => exact ⟨trivial, fun _ => trivial⟩

def faithful : Service.Policy (.standard settings signer) where
  contract := terms settings signer
  keeps := fun _ => True
  meets := work_terms settings signer
  initially := trivial
  onwards := fun _ _ _ _ _ _ => trivial

/-- Jobs of a course: what is answered has been accepted before, and what is migrated was sent. -/
def Ordered (calls : Transcript) : Job → Prop
  | .accept _ _ => True
  | .respond request => Provider.Accepted settings signer calls request
  | .migrate http => sent http
  | .create _ _ => False
  | .delete _ => False

variable {settings signer sent} {past calls : Transcript} {job : Job}

theorem Ordered.mono (ordered : job.Ordered settings signer sent past) (kept : past ⊆ calls) :
    job.Ordered settings signer sent calls := by
  cases job with
  | respond request => exact Provider.Accepted.mono ordered kept
  | _ => exact ordered

theorem Ordered.licensed (ordered : job.Ordered settings signer sent calls) (within : past ⊆ calls) {call : Call}
    (allowed : (job.terms settings signer).allows past call) : Licensed settings signer sent calls call := by
  cases job with
  | accept => exact .asking allowed
  | create | delete => exact ordered.elim
  | migrate http =>
    rcases allowed with asks | imports
    · exact .asking asks
    · exact .migration ordered (imports.mono within)
  | respond request =>
    rcases allowed with ⟨applies, asks⟩ | ⟨other, asks⟩
    · cases asks with
      | access | refresh | now => exact .asking rfl
      | exchange next =>
        cases next with
        | kept permanent => exact .keep ordered applies (within (by simp)) permanent
        | minted temporary => exact .rotate ordered applies (within (by simp)) temporary (within (by simp))
    · cases asks with
      | access | now => exact .asking rfl
      | create =>
        rcases Provider.Accepted.applies ordered with refreshes | applies
        · cases refreshes.symm.trans other
        · exact .issue ordered applies (within (by simp))

end Job

end

section

variable (settings : Settings) (instruments : Instruments) (sent : HttpRequest → Prop) (store : Store)

/-- The calls have led from one store to the other, and each was licensed by those before it. -/
inductive Lawful : Transcript → Store → Prop
  | start : Lawful [] store
  | next {calls : Transcript} {before : Store} {call : Call} (earlier : Lawful calls before)
      (licensed : Licensed settings instruments.signer sent calls call) (chance : Chance) :
      Lawful (⟨call, (instruments.answer chance call before).1⟩ :: calls)
        (instruments.answer chance call before).2

/-- What holds at any time in a course of events. -/
structure Orderly (service : Service) : Prop where
  sound : Service.Sound instruments (Job.faithful settings instruments.signer) store service
  lawful : Lawful settings instruments sent store service.calls service.store
  ordered : ∀ task ∈ service.tasks, task.job.Ordered settings instruments.signer sent service.calls

variable {settings instruments sent store} {service : Service}

theorem Lawful.answered {calls : Transcript} {after : Store}
    (lawful : Lawful settings instruments sent store calls after) :
    Answered instruments (fun _ => True) store calls after := by
  induction lawful with
  | start => exact .start
  | @next _ _ call _ _ chance ih => exact .next ih trivial call

namespace Orderly

theorem within (orderly : Orderly settings instruments sent store service) {task : Task}
    (member : task ∈ service.tasks) : task.past ⊆ service.calls := by
  intro made old
  exact orderly.sound.shared.mem_iff.mpr (List.mem_flatMap.mpr ⟨task, member, old⟩)

theorem start (orderly : Orderly settings instruments sent store service) {job : Job}
    (ordered : job.Ordered settings instruments.signer sent service.calls) :
    Orderly settings instruments sent store
      (service.step (.standard settings instruments.signer) instruments (.start job)) := by
  refine ⟨orderly.sound.start job, orderly.lawful, fun task member => ?_⟩
  rcases List.mem_append.mp member with old | new
  · exact orderly.ordered task old
  · cases List.mem_singleton.mp new
    exact ordered

theorem proceed (orderly : Orderly settings instruments sent store service) (number : Nat) (chance : Chance) :
    Orderly settings instruments sent store
      (service.step (.standard settings instruments.signer) instruments (.proceed number chance)) := by
  have sound := orderly.sound.proceed number chance
  rw [Service.step] at sound ⊢
  split
  · next job call next past found =>
    rw [found] at sound
    obtain ⟨inside, same⟩ := List.getElem?_eq_some_iff.mp found
    have member : (⟨job, .ask call next, past⟩ : Task) ∈ service.tasks := same ▸ List.getElem_mem inside
    have meets := (orderly.sound.loyal _ member).1
    have ordered := orderly.ordered _ member
    have licensed : Licensed settings instruments.signer sent service.calls call :=
      ordered.licensed (orderly.within member) meets.1
    refine ⟨sound, .next orderly.lawful licensed chance, fun task changed => ?_⟩
    have before : task.job.Ordered settings instruments.signer sent service.calls := by
      rcases List.mem_or_eq_of_mem_set changed with old | rfl
      · exact orderly.ordered task old
      · exact ordered
    exact before.mono (List.subset_cons_self _ _)
  · exact orderly

/-- A request that a task has accepted has been accepted for good reasons. -/
theorem accepted (orderly : Orderly settings instruments sent store service) {task : Task}
    (member : task ∈ service.tasks) {request : TokenRequest} (done : task.accepted? = some request) :
    Provider.Accepted settings instruments.signer service.calls request := by
  have meets := (orderly.sound.loyal task member).1
  have within := orderly.within member
  rcases task with ⟨job, work, past⟩
  cases job with
  | accept http session =>
    cases work with
    | ask => cases done
    | done result =>
      cases result with
      | error => cases done
      | ok accepted =>
        cases done
        exact Provider.Accepted.mono ⟨http, session, meets request rfl⟩ within
  | respond | migrate | create | delete => cases done

theorem follow (orderly : Orderly settings instruments sent store service) {event : Event}
    (asked : ∀ http, event = .migrate http → sent http) :
    Orderly settings instruments sent store
      (service.follow (.standard settings instruments.signer) instruments event) := by
  rw [Service.follow]
  cases event with
  | accept http session => exact orderly.start trivial
  | migrate http => exact orderly.start (asked http rfl)
  | proceed number chance => exact orderly.proceed number chance
  | answer number =>
    rw [Service.action?]
    cases found : service.tasks[number]? with
    | none => exact orderly
    | some task =>
      rw [Option.bind_some]
      cases done : task.accepted? with
      | none => exact orderly
      | some request => exact orderly.start (orderly.accepted (List.mem_of_getElem? found) done)

end Orderly

variable (settings instruments store) in
theorem Service.course_orderly (events : List Event) :
    Orderly settings instruments (fun http => .migrate http ∈ events) store
      (course (.standard settings instruments.signer) instruments store events) := by
  have initial : Orderly settings instruments (fun http => .migrate http ∈ events) store { store } :=
    ⟨⟨.start, .refl _, by simp⟩, .start, by simp⟩
  rw [course]
  suffices later : ∀ (rest : List Event) (service : Service), rest ⊆ events →
      Orderly settings instruments (fun http => .migrate http ∈ events) store service →
      Orderly settings instruments (fun http => .migrate http ∈ events) store
        (rest.foldl (Service.follow (.standard settings instruments.signer) instruments) service) from
    later events _ (List.Subset.refl events) initial
  intro rest
  induction rest with
  | nil => exact fun _ _ orderly => orderly
  | cons event rest ih =>
    intro service within orderly
    obtain ⟨first, others⟩ := List.cons_subset.mp within
    exact ih _ others (orderly.follow fun http same => same ▸ first)

end

namespace Specimen

/-- The task with this number takes two tokens over for the client `app`. -/
def takeOver (number : Nat) : List Event :=
  .migrate migrationPost :: (List.range 9).map fun turn => .proceed number (chances turn)

/-- Tasks with this number and the next accept and answer a request to exchange one of them, for tokens with keys that
begin with the octet. -/
def exchange (number octet : Nat) : List Event :=
  (.accept (refreshPost "AQID.AQID") {} :: (List.range 9).map fun turn => .proceed number (chances turn)) ++
    .answer number :: (List.range 4).map fun turn => .proceed (number + 1) (chances (octet + turn))

def permanent : Settings := { lifespans := { refresh := -1 } }

end Specimen

end TokenServer
