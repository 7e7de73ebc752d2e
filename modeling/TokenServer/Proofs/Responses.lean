import TokenServer.Proofs.Calendar
import TokenServer.Proofs.Origin
import TokenServer.Proofs.ResponseText

/-! Responses that are sent. Each can be read back from its text by those who receive it: whoever writes a scope into
the store has read it from a field that is parted by spaces, nothing but a refresh token is added to the fixed members,
and the seconds that are left lie between two readings of the clock. -/

namespace TokenServer

open Json

namespace Instant

/-- There is a date for the instant, and no leap second is longer than a second. -/
structure InCalendar (instant : Instant) : Prop where
  year : Date.yearIsKnown instant.date.year = true
  nanosecond : instant.nanosecond < 2 * nanosPerSecond

theorem InCalendar.second_bounds {instant : Instant} (known : instant.InCalendar) :
    -10000000000000 < instant.second ∧ instant.second < 10000000000000 := by
  have bounds := Date.dayNumber_bounds known.year (Date.isValid_ofDayNumber _)
  rw [date, Date.dayNumber_ofDayNumber, secondsPerDay] at bounds
  omega

/-- From one instant to another there are no more seconds than a word can hold. -/
theorem secondsSince_bounds {later earlier : Instant}
    (apart : -100000000000000 < later.second - earlier.second ∧ later.second - earlier.second < 100000000000000)
    (nanoseconds : earlier.nanosecond < 2 * nanosPerSecond ∧ later.nanosecond < 2 * nanosPerSecond) :
    IntegerBounds.int64.contains (later.secondsSince earlier) = true := by
  have leap : -1 ≤ later.leapBetween earlier ∧ later.leapBetween earlier ≤ 1 := by
    unfold leapBetween
    repeat' split
    all_goals decide
  have rounded : later.secondsSince earlier = later.nanosSince earlier / 1000000000 ∨
      later.secondsSince earlier = later.nanosSince earlier / 1000000000 + 1 := by
    rw [secondsSince, Int.tdiv_eq_ediv]
    split
    · exact .inl (Int.add_zero _)
    · exact .inr rfl
  rw [IntegerBounds.contains_int64]
  simp only [nanosSince, nanosPerSecond] at nanoseconds rounded
  omega

theorem plusSeconds_bounds {instant : Instant} (nanosecond : instant.nanosecond < 2 * nanosPerSecond) (seconds : Int) :
    instant.second + seconds ≤ (instant.plusSeconds seconds).second ∧
      (instant.plusSeconds seconds).second ≤ instant.second + seconds + 1 ∧
      (instant.plusSeconds seconds).nanosecond < 2 * nanosPerSecond := by
  have whole : instant.inLeapSecond = false → instant.nanosecond < nanosPerSecond := by
    simp [inLeapSecond]
  simp only [nanosPerSecond] at nanosecond whole ⊢
  rw [plusSeconds]
  split
  · split
    · dsimp only [nanosPerSecond]
      omega
    · split
      · dsimp only [nanosPerSecond]
        omega
      · omega
  · dsimp only
    omega

end Instant

theorem Lifespans.clamp_bounds (seconds : Int64) :
    -greatestLifespan ≤ clamp seconds ∧ clamp seconds ≤ greatestLifespan := by
  have positive : (0 : Int) ≤ greatestLifespan := by decide
  unfold clamp
  omega

section

variable {settings : Settings} {signer : Signer} {calls : Transcript} {request : TokenRequest}

/-- What has been asked for in a request was read from a field. -/
theorem Provider.Accepted.requested (accepted : Accepted settings signer calls request)
    (applies : request.grantTypes.isExactly ClientCredentialsGrant.name = true) :
    request.requestedScopes.Spaceless := by
  obtain ⟨http, caller, accepts⟩ := accepted
  cases accepts with
  | refresh received other judged =>
    cases judged with
    | admitted => cases (other_of_refresh other).symm.trans applies
  | clientCredentials received _ judged =>
    cases judged with
    | admitted =>
      cases received with
      | intro => exact WordList.spaceless_pieces rfl _

/-- The scopes of a request are its own, or those of a session. -/
theorem Provider.Accepted.spaceless (accepted : Accepted settings signer calls request)
    (before : ∀ {kind signature session}, ⟨.findSession kind signature, .ok session⟩ ∈ calls →
      session.grantedScopes.Spaceless) : request.grantedScopes.Spaceless := by
  rcases accepted.applies with applies | applies
  · obtain ⟨session, adopts⟩ := accepted.adopts applies
    rw [adopts.granted]
    exact WordList.spaceless_eraseDups (before adopts.found)
  · rw [accepted.grants applies]
    exact WordList.spaceless_eraseDups (accepted.requested applies)

/-- The expiry of an accepted request counts from a reading of the clock. -/
theorem Provider.Accepted.timed (accepted : Accepted settings signer calls request) :
    ∃ start, ⟨.now, start⟩ ∈ calls ∧
      request.session.expiresAt.get? .accessToken = some (start.plusSeconds settings.lifespans.accessSeconds) := by
  obtain ⟨http, caller, accepts⟩ := accepted
  cases accepts with
  | refresh received _ judged =>
    cases judged with
    | admitted _ _ _ asked => exact ⟨_, asked, rfl⟩
  | clientCredentials received _ judged =>
    cases judged with
    | admitted _ asked => exact ⟨_, asked, rfl⟩

end

namespace Lawful

variable {settings : Settings} {instruments : Instruments} {sent : HttpRequest → Prop} {clients : Table Client}
  {store : Store} {calls : Transcript} {kind : SessionKind} {signature : String} {session : TokenRequest}

theorem spaceless (lawful : Lawful settings instruments sent { clients } calls store)
    (stored : EverStored { clients } calls kind signature session) : session.grantedScopes.Spaceless := by
  refine lawful.session_induction (fun _ _ session => session.grantedScopes.Spaceless) ?_ ?_ stored
  · intro kind signature session initial
    cases kind <;> cases initial
  · intro past kind signature session _ _ before origin
    cases origin with
    | issued accepted | exchanged accepted | rotated accepted | kept accepted => exact accepted.spaceless before
    | taken taken =>
      cases taken with
      | intro _ _ _ imported =>
        rw [imported.granted]
        exact WordList.spaceless_pieces rfl _

end Lawful

/-- What a response says of the request that it answers, at an instant. -/
structure Conveys (lifespans : Lifespans) (request : TokenRequest) (past : Transcript) (response : TokenResponse) :
    Prop where
  scopes : response.scopes = request.grantedScopes
  left : ∃ now, ⟨.now, now⟩ ∈ past ∧
    response.expiresIn = some (request.secondsLeft .accessToken lifespans.accessSeconds now)
  others : response.extra = ∅ ∨
    ∃ token, response.extra = (∅ : Table Json).insert TokenResponse.refreshTokenKey (.string token)

theorem Provider.respond_conveys (settings : Settings) (signer : Signer) (request : TokenRequest) :
    Attempt.Meets ⟨fun _ _ => True, Conveys settings.lifespans request⟩ ((standard settings signer).respond request)
      [] := by
  cases applies : request.grantTypes.isExactly RefreshGrant.name with
  | true =>
    refine (respond_refresh_meets settings signer applies []).mono (fun _ _ _ => trivial) ?_
    intro past result fills response same
    cases fills response same with
    | intro next => exact ⟨rfl, ⟨_, List.mem_cons_self, rfl⟩, .inr ⟨_, rfl⟩⟩
  | false =>
    refine (respond_other_meets settings signer applies []).mono (fun _ _ _ => trivial) ?_
    intro past result fills response same
    cases (fills response same).2 with
    | intro => exact ⟨rfl, ⟨_, List.mem_cons_self, rfl⟩, .inl rfl⟩

namespace Job

variable (settings : Settings)

def conveying : (job : Job) → Contract job.Result
  | .respond request =>
    ⟨fun _ _ => True, fun past result => ∀ response, result = .ok response →
      Conveys settings.lifespans request past response⟩
  | .accept _ _ | .migrate _ => ⟨fun _ _ => True, fun _ _ => True⟩
  | .create _ _ | .delete _ => ⟨fun _ _ => True, fun _ _ => True⟩

variable (signer : Signer)

theorem work_conveying (job : Job) : (job.work (.standard settings signer)).Meets (conveying settings job) [] := by
  have terms := job.work_terms settings signer
  cases job with
  | respond request => exact Provider.respond_conveys settings signer request
  | accept | migrate | create | delete => exact terms.mono (fun _ _ _ => trivial) fun _ _ _ => trivial

/-- Responses say what there is to say of their requests. -/
def truthful : Service.Policy (.standard settings signer) where
  contract := conveying settings
  keeps := fun _ => True
  meets := work_conveying settings signer
  initially := trivial
  onwards := fun _ _ _ _ _ _ => trivial

end Job

def Task.answer? : Task → Option TokenResponse
  | ⟨.respond _, .done (.ok response), _⟩ => some response
  | _ => none

section

variable {settings : Settings} {signer : Signer} {request : TokenRequest} {calls past : Transcript}
  {response : TokenResponse}

/-- The expiry is not far from a reading of the clock, and so are all other readings. -/
theorem Provider.Accepted.secondsLeft (accepted : Accepted settings signer calls request)
    (told : ∀ instant, ⟨.now, instant⟩ ∈ calls → instant.InCalendar) {now : Instant} (asked : ⟨.now, now⟩ ∈ calls) :
    IntegerBounds.int64.contains (request.secondsLeft .accessToken settings.lifespans.accessSeconds now) = true := by
  obtain ⟨start, started, recorded⟩ := accepted.timed
  have first := (told start started).second_bounds
  have last := (told now asked).second_bounds
  have moved := Instant.plusSeconds_bounds (told start started).nanosecond settings.lifespans.accessSeconds
  have lifespan : -greatestLifespan ≤ settings.lifespans.accessSeconds ∧
      settings.lifespans.accessSeconds ≤ greatestLifespan := Lifespans.clamp_bounds _
  rw [greatestLifespan] at lifespan
  rw [TokenRequest.secondsLeft, recorded]
  exact Instant.secondsSince_bounds (by omega) ⟨(told now asked).nanosecond, moved.2.2⟩

theorem Conveys.portable (conveys : Conveys settings.lifespans request past response)
    (accepted : Provider.Accepted settings signer calls request) (within : past ⊆ calls)
    (spaceless : request.grantedScopes.Spaceless)
    (told : ∀ instant, ⟨.now, instant⟩ ∈ calls → instant.InCalendar) : response.Portable := by
  obtain ⟨scopes, ⟨now, asked, left⟩, others⟩ := conveys
  have named : TokenResponse.refreshTokenKey ∉ TokenResponse.fixedNames := by decide
  obtain ⟨others, ordered, faithful, flat⟩ : (∀ member ∈ response.extra.entries,
      member.1 ∉ TokenResponse.fixedNames) ∧ MembersOrdered response.extra.entries ∧
      MembersFaithful response.extra.entries ∧ membersDepth response.extra.entries = 0 := by
    rcases others with none | ⟨token, one⟩
    · rw [none]
      exact ⟨nofun, trivial, trivial, rfl⟩
    · rw [one]
      exact ⟨List.forall_mem_singleton.mpr named, ⟨trivial, trivial⟩, ⟨trivial, trivial⟩, rfl⟩
  have expiry := accepted.secondsLeft told (within asked)
  exact {
    scopes := scopes ▸ spaceless
    expiry := fun seconds given => Option.some.inj (left.symm.trans given) ▸ expiry
    others, ordered, faithful
    shallow := by
      rw [response.depth_toJson, flat]
      decide }

end

namespace Service

/-- Whatever requests come in, those who receive a response can read it. -/
theorem course_portable (settings : Settings) (instruments : Instruments) (clients : Table Client)
    (events : List Event) (told : ∀ number chance, .proceed number chance ∈ events → chance.instant.InCalendar) :
    let after := course (.standard settings instruments.signer) instruments { clients } events
    ∀ task ∈ after.tasks, ∀ response, task.answer? = some response → response.Portable := by
  intro after task member response done
  have orderly := course_orderly settings instruments { clients } events
  have sound : Sound instruments (Job.truthful settings instruments.signer) { clients } after :=
    course_sound _ _ events
  have meets := (sound.loyal task member).1
  have ordered := orderly.ordered task member
  have within := orderly.within member
  rcases task with ⟨job, work, past⟩
  cases job with
  | respond request =>
    cases work with
    | ask => cases done
    | done result =>
      cases result with
      | error => cases done
      | ok answer =>
        cases done
        have spaceless := ordered.spaceless fun found =>
          orderly.lawful.spaceless (orderly.lawful.answered.everStored_of_found found)
        exact (meets response rfl).portable ordered within spaceless (course_told told)
  | accept | migrate | create | delete => cases done

/-- A response is read from its text as it was, if it is such as may be sent; and each that is sent is so. -/
theorem responses_read_back :
    (∀ response : TokenResponse, response.Portable →
      Reader.parse? TokenResponse.reader response.toJson.render = some response) ∧
    ∀ (settings : Settings) (instruments : Instruments) (clients : Table Client) (events : List Event),
      (∀ number chance, .proceed number chance ∈ events → chance.instant.InCalendar) →
      let after := course (.standard settings instruments.signer) instruments { clients } events
      ∀ task ∈ after.tasks, ∀ response, task.answer? = some response → response.Portable :=
  ⟨fun _ portable => TokenResponse.parse?_render portable, course_portable⟩

theorem exchanged_read_back :
    let clients := Specimen.migratorStore.clients
    let events := Specimen.takeOver 0 ++ Specimen.exchange 1 7
    let after := course (.standard {} Specimen.instruments.signer) Specimen.instruments { clients } events
    (∀ number chance, .proceed number chance ∈ events → chance.instant.InCalendar) ∧
      (∃ task ∈ after.tasks, task.answer? = some Specimen.response) ∧ Specimen.response.Portable ∧
      Reader.parse? TokenResponse.reader Specimen.response.toJson.render = some Specimen.response := by
  intro clients events after
  have start : Instant.InCalendar ⟨0, 0⟩ := ⟨by decide +kernel, by decide⟩
  have told : ∀ number chance, .proceed number chance ∈ events → chance.instant.InCalendar := by
    intro number chance member
    obtain ⟨turn, rfl⟩ : ∃ turn, chance = Specimen.chances turn := by
      simp only [events, Specimen.takeOver, Specimen.exchange, List.mem_append, List.mem_cons, List.mem_map,
        Event.proceed.injEq, reduceCtorEq, false_or] at member
      obtain ⟨_, _, _, rfl⟩ | ⟨_, _, _, rfl⟩ | ⟨_, _, _, rfl⟩ := member <;> exact ⟨_, rfl⟩
    exact start
  have found : after.tasks.findSome? Task.answer? = some Specimen.response := by decide +kernel
  obtain ⟨task, member, answered⟩ := List.exists_of_findSome?_eq_some found
  have portable := responses_read_back.2 {} Specimen.instruments clients events told task member _ answered
  exact ⟨told, ⟨task, member, answered⟩, portable, responses_read_back.1 _ portable⟩

end Service

end TokenServer
