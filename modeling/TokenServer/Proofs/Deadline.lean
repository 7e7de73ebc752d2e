import TokenServer.Http.Endpoint
import TokenServer.Proofs.MigratedRefresh

/-! Work under a deadline. The deadline decides what the caller is told, and nothing else: work that is late goes on as
it would have gone on without a deadline, call by call and millisecond by millisecond. -/

namespace TokenServer

section

variable {σ α : Type} (surroundings : Surroundings σ)

/-- How work ends that has its surroundings to itself, when that is, and the state that it leaves. -/
def Work.course : Work α → Nat → σ → Ending α × Nat × σ
  | .done value, clock, state => (.finished value, clock, state)
  | .ask call next, clock, state =>
    match surroundings.disturb call state with
    | (.after millis, state) =>
      match surroundings.reply call state with
      | (value, state) => (next value).course (clock + millis) state
    | (.queued, state) =>
      match surroundings.reply call state with
      | (value, state) => (next value).course clock state
    | (.instead value, state) => (next value).course clock state
    | (.abort reason, state) => (.aborted reason, clock, state)

/-- When the work that a sleeper has left ends, and the state that it leaves. -/
def Sleeper.course (sleeper : Sleeper) (state : σ) : Nat × σ :=
  match sleeper.remainder with
  | .all work => (work.course surroundings sleeper.wake state).2
  | .behind call next =>
    match surroundings.reply call state with
    | (value, state) => ((next value).course surroundings sleeper.wake state).2

/-- The end of work that has been gone on with up to a time: it has ended by then, or waits again. -/
def Sleeper.endOf (clock : Nat) : Option Sleeper × σ → Nat × σ
  | (none, state) => (clock, state)
  | (some sleeper, state) => sleeper.course surroundings state

theorem Work.le_course (work : Work α) (clock : Nat) (state : σ) :
    clock ≤ (work.course surroundings clock state).2.1 := by
  induction work generalizing clock state with
  | done => exact Nat.le_refl clock
  | ask call next ih =>
    rw [course]
    split
    · exact Nat.le_trans (Nat.le_add_right _ _) (ih _ _ _)
    · exact ih _ _ _
    · exact ih _ _ _
    · exact Nat.le_refl clock

theorem Work.course_discard (work : Work α) (clock : Nat) (state : σ) :
    (work.discard.course surroundings clock state).2 = (work.course surroundings clock state).2 := by
  induction work generalizing clock state with
  | done => rfl
  | ask call next ih =>
    change (Work.course surroundings (.ask call fun value => (next value).discard) clock state).2 = _
    rw [course, course]
    split
    · exact ih _ _ _
    · exact ih _ _ _
    · exact ih _ _ _
    · rfl

/-- Going on with work does not change how it ends. -/
theorem Work.endOf_advance (work : Work Unit) (clock patience : Nat) (state : σ) :
    Sleeper.endOf surroundings clock (work.advance surroundings clock patience state) =
      (work.course surroundings clock state).2 := by
  induction work generalizing state with
  | done => rfl
  | ask call next ih =>
    rw [advance, course]
    rcases surroundings.disturb call state with ⟨disturbance, after⟩
    cases disturbance with
    | after millis =>
      cases millis with
      | zero => exact ih _ _
      | succ millis => rfl
    | queued =>
      dsimp only
      split
      · exact ih _ _
      · rfl
    | instead value => exact ih _ _
    | abort reason => rfl

theorem Sleeper.endOf_resume (sleeper : Sleeper) (state : σ) :
    endOf surroundings sleeper.wake (sleeper.resume surroundings state) = sleeper.course surroundings state := by
  rw [resume, course]
  cases sleeper.remainder with
  | all work => exact work.endOf_advance surroundings _ _ _
  | behind call next => exact Work.endOf_advance surroundings _ _ _ _

theorem Sleeper.wake_le_course (sleeper : Sleeper) (state : σ) :
    sleeper.wake ≤ (sleeper.course surroundings state).1 := by
  rw [course]
  cases sleeper.remainder with
  | all work => exact work.le_course surroundings _ _
  | behind call next => exact Work.le_course surroundings _ _ _

namespace Timeline

theorem wakeBefore_nil (horizon : Nat) (state : σ) : wakeBefore surroundings horizon [] state = ([], state) := by
  rw [wakeBefore]
  rfl

theorem wakeBefore_single (horizon : Nat) (sleeper : Sleeper) (state : σ) :
    wakeBefore surroundings horizon [sleeper] state =
      if sleeper.wake < horizon then
        wakeBefore surroundings horizon (sleeper.resume surroundings state).1.toList
          (sleeper.resume surroundings state).2
      else ([sleeper], state) := by
  rw [wakeBefore]
  rfl

/-- A sleeper whose work ends before the horizon is gone by then. -/
theorem wakeBefore_of_ended {horizon : Nat} {sleeper : Sleeper} {state : σ}
    (ends : (sleeper.course surroundings state).1 < horizon) :
    wakeBefore surroundings horizon [sleeper] state = ([], (sleeper.course surroundings state).2) := by
  have wakes : sleeper.wake < horizon := Nat.lt_of_le_of_lt (sleeper.wake_le_course surroundings state) ends
  have same := sleeper.endOf_resume surroundings state
  rw [wakeBefore_single, if_pos wakes]
  cases resumed : sleeper.resume surroundings state with
  | mk again after =>
    rw [resumed] at same
    cases again with
    | none => rw [← same, Option.toList_none, wakeBefore_nil, Sleeper.endOf]
    | some again =>
      have waits := Sleeper.waits_of_resume surroundings resumed
      rw [← same] at ends ⊢
      exact wakeBefore_of_ended ends
termination_by (horizon - sleeper.wake, sleeper.patience)
decreasing_by
  rw [Prod.lex_def]
  omega

theorem passTo_nil (clock time : Nat) (state : σ) :
    (Timeline.mk clock [] state).passTo surroundings time = ⟨time, [], state⟩ := by
  rw [passTo, wakeBefore_nil]

theorem passToTurn_nil (clock time : Nat) (state : σ) :
    (Timeline.mk clock [] state).passToTurn surroundings time = ⟨time, [], state⟩ := by
  rw [passToTurn, passTo_nil]
  rfl

theorem giveWay_nil (clock : Nat) (state : σ) :
    (Timeline.mk clock [] state).giveWay surroundings = ⟨clock, [], state⟩ := rfl

/-- Without a deadline, work is waited for until it ends. -/
theorem await_none (work : Work α) (clock : Nat) (state : σ) :
    (Timeline.mk clock [] state).await surroundings none work =
      ((work.course surroundings clock state).1,
        ⟨(work.course surroundings clock state).2.1, [], (work.course surroundings clock state).2.2⟩) := by
  induction work generalizing clock state with
  | done => rfl
  | ask call next ih =>
    rw [await, Work.course]
    rcases surroundings.disturb call state with ⟨disturbance, after⟩
    cases disturbance with
    | after millis =>
      cases millis with
      | zero => exact ih _ _ _
      | succ millis =>
        simp only [Option.any_none, Option.isSome_none, Bool.false_eq_true, if_false, passTo_nil]
        exact ih _ _ _
    | queued => exact ih _ _ _
    | instead value => exact ih _ _ _
    | abort reason => rfl

/-- What the caller of work hears at a deadline, and what is still to come: the work has ended in time as its course is,
or a sleeper stays on its course. -/
inductive Awaited (deadline : Nat) (course : Ending α × Nat × σ) : Ending α × Timeline σ → Prop
  | inTime (early : course.2.1 < deadline) : Awaited deadline course (course.1, ⟨course.2.1, [], course.2.2⟩)
  | late {sleeper : Sleeper} {state : σ} (overdue : deadline ≤ course.2.1)
      (onCourse : sleeper.course surroundings state = course.2) :
      Awaited deadline course (.late, ⟨deadline, [sleeper], state⟩)

theorem awaited_await (work : Work α) {clock deadline : Nat} (ahead : clock < deadline) (state : σ) :
    Awaited surroundings deadline (work.course surroundings clock state)
      ((Timeline.mk clock [] state).await surroundings (some deadline) work) := by
  induction work generalizing clock state with
  | done => exact .inTime ahead
  | ask call next ih =>
    rw [await, Work.course]
    rcases surroundings.disturb call state with ⟨disturbance, after⟩
    cases disturbance with
    | after millis =>
      cases millis with
      | zero => exact ih _ ahead _
      | succ millis =>
        simp only [Option.any_some, Option.isSome_some, if_true, Option.getD_some, leave, List.nil_append,
          passToTurn_nil, decide_eq_true_eq]
        by_cases due : deadline ≤ clock + (millis + 1)
        · rw [if_pos due, passTo, wakeBefore_single, if_neg (Nat.not_lt.mpr due)]
          refine .late (Nat.le_trans due ((next _).le_course surroundings _ _)) ?_
          exact (next _).course_discard surroundings _ _
        · rw [if_neg due]
          exact ih _ (Nat.lt_of_not_le due) _
    | queued => exact ih _ ahead _
    | instead value => exact ih _ ahead _
    | abort reason => exact .inTime ahead

/-- A task has its milliseconds from the start, be it that they are none. -/
theorem awaited_runTask (work : Work α) (clock millis : Nat) (state : σ) :
    Awaited surroundings (clock + millis) (work.course surroundings clock state)
      ((Timeline.mk clock [] state).runTask surroundings millis work) := by
  rw [runTask]
  by_cases none : millis = 0
  · subst none
    rw [if_pos rfl]
    exact .late (work.le_course surroundings clock state) (work.course_discard surroundings clock state)
  · have ahead : clock < clock + millis := Nat.lt_add_of_pos_right (Nat.pos_of_ne_zero none)
    have awaited := awaited_await surroundings work ahead state
    rw [if_neg none, giveWay_nil]
    dsimp only
    generalize (Timeline.mk clock [] state).await surroundings (some (clock + millis)) work = result at awaited ⊢
    generalize work.course surroundings clock state = course at awaited ⊢
    cases awaited with
    | inTime early =>
      rcases course with ⟨_ | _ | _, _⟩ <;> exact .inTime early
    | late overdue onCourse => exact .late overdue onCourse

namespace Awaited

variable {surroundings} {deadline : Nat} {course : Ending α × Nat × σ} {result : Ending α × Timeline σ}

theorem eq_of_early (awaited : Awaited surroundings deadline course result) (early : course.2.1 < deadline) :
    result.1 = course.1 := by
  cases awaited with
  | inTime => rfl
  | late overdue => exact absurd early (Nat.not_lt.mpr overdue)

theorem eq_late (awaited : Awaited surroundings deadline course result) (overdue : deadline ≤ course.2.1) :
    result.1 = .late := by
  cases awaited with
  | inTime early => exact absurd early (Nat.not_lt.mpr overdue)
  | late => rfl

/-- Once its time has passed, everything has been done, whenever the caller was answered. -/
theorem passTo_eq (awaited : Awaited surroundings deadline course result) {time : Nat} (past : course.2.1 < time) :
    result.2.passTo surroundings time = ⟨time, [], course.2.2⟩ := by
  cases awaited with
  | inTime => exact passTo_nil surroundings _ _ _
  | late _ onCourse =>
    rw [← onCourse] at past ⊢
    rw [passTo, wakeBefore_of_ended surroundings past]

end Awaited

end Timeline

end

namespace Instruments

variable (instruments : Instruments) (wait : Call → Stage → Option Nat)

/-- A stage on which calls take their time: so many milliseconds, or as long as it takes to let other work go first. -/
def slowed : Surroundings Stage where
  disturb call stage := ((wait call stage).elim .queued .after, stage)
  reply := instruments.reply

/-- However long calls take, work ends as if they took no time. -/
theorem course_slowed {α : Type} (work : Work α) (clock : Nat) (stage : Stage) :
    ∃ ended, work.course (instruments.slowed wait) clock stage =
      (.finished (instruments.perform work stage).1, ended, (instruments.perform work stage).2) := by
  induction work generalizing clock stage with
  | done => exact ⟨clock, rfl⟩
  | ask call next ih =>
    cases waits : wait call stage with
    | none =>
      obtain ⟨ended, same⟩ := ih (instruments.reply call stage).1 clock (instruments.reply call stage).2
      refine ⟨ended, ?_⟩
      simp only [Work.course, slowed, waits]
      exact same
    | some millis =>
      obtain ⟨ended, same⟩ :=
        ih (instruments.reply call stage).1 (clock + millis) (instruments.reply call stage).2
      refine ⟨ended, ?_⟩
      simp only [Work.course, slowed, waits]
      exact same

end Instruments

namespace Provider

/-- What becomes of the store by a request to migrate tokens: nothing, or all tokens are taken over, or the access
session is cleared again after the refresh session has been refused, or that fails, and the access session stays. -/
inductive Settles (settings : Settings) (http : HttpRequest) (store : Store) : Except OAuthError Unit → Store → Prop
  | refused (error : OAuthError) : Settles settings http store (.error error) store
  | takenOver {form : Table String} {owner : Credentials} {client : Client} {now : Instant} {after : Store}
      (read : http.form = .ok form) (stored : TakenOver settings.lifespans form owner client now store after) :
      Settles settings http store (.ok ()) after
  | rolledBack {form : Table String} (read : http.form = .ok form) (cause : StoreError) :
      Settles settings http store (.error (.storage cause))
        (store.removeSession .access (SignedToken.signatureOf (dotted (field form "token"))))
  | stuck {form : Table String} {owner : Credentials} {client : Client} {now : Instant} {request : TokenRequest}
      (read : http.form = .ok form)
      (stored : Imported form owner client { accessToken := some (now.plusSeconds settings.lifespans.accessSeconds) }
        request) (cause cleanup : StoreError) :
      Settles settings http store (.error (.rollbackFailed cause cleanup))
        (store.createSession .access (SignedToken.signatureOf (dotted (field form "token"))) request)

variable {settings : Settings} {signer : Signer} {http : HttpRequest}

theorem Migrates.settles {calls : Transcript} {result : Except OAuthError Unit}
    (migrates : Migrates http settings signer calls result) (store : Store) :
    Settles settings http store result (calls.foldr (fun made store => made.effect store) store) := by
  cases migrates with
  | refused idle =>
    rw [idle.effect]
    exact .refused _
  | permitted idle permitted _ ends =>
    have read := permitted.read
    cases ends with
    | malformed =>
      rw [idle.effect]
      exact .refused _
    | refused =>
      rw [List.foldr_cons, List.foldr_cons, idle.effect]
      exact .refused _
    | alone signed =>
      obtain ⟨_, _, stored⟩ := takenOver_of_ends idle (.alone signed) rfl store
      exact .takenOver read stored
    | both signed =>
      obtain ⟨_, _, stored⟩ := takenOver_of_ends idle (.both signed) rfl store
      exact .takenOver read stored
    | undone signed =>
      obtain ⟨rfl, _⟩ := signatures_migratedResponse signed
      rw [List.foldr_cons, List.foldr_cons, List.foldr_cons, List.foldr_cons, idle.effect]
      change Settles settings http store _ ((store.createSession .access _ _).removeSession .access _)
      rw [Store.removeSession_createSession]
      exact .rolledBack read _
    | stuck signed =>
      obtain ⟨rfl, _⟩ := signatures_migratedResponse signed
      rw [List.foldr_cons, List.foldr_cons, List.foldr_cons, List.foldr_cons, idle.effect]
      exact .stuck read ⟨rfl, rfl, rfl, rfl, rfl⟩ _ _

theorem settles_of_performed (instruments : Instruments) (store : Store) (chances : Nat → Chance) :
    let migrating := instruments.perform ((standard settings instruments.signer).migrate http).run ⟨store, chances, []⟩
    Settles settings http store migrating.1 migrating.2.store := by
  intro migrating
  obtain ⟨migrates, answered⟩ := migrates_of_performed instruments settings http store chances
  rw [answered.effects]
  exact migrates.settles store

end Provider

def HttpAnswer.ofMigration : Except OAuthError Unit → HttpAnswer := .ofResult fun _ => ⟨200, [], ""⟩

theorem Provider.perform_answerMigration (provider : Provider) (instruments : Instruments) (http : HttpRequest)
    (stage : Stage) :
    instruments.perform (provider.answerMigration http) stage =
      (.ofMigration (instruments.perform (provider.migrate http).run stage).1,
        (instruments.perform (provider.migrate http).run stage).2) :=
  instruments.perform_bind _ _ stage

/-- Work that is done under a deadline is done as it is without one. Its caller is told how it has ended, if it has
ended in time, and of the deadline if it takes longer. -/
structure Undivided {σ : Type} (surroundings : Surroundings σ) (work : Work HttpAnswer) (start : Timeline σ)
    (millis : Nat) : Prop where
  ends : (start.await surroundings none work).2.sleepers = []
  done : ∀ time, (start.await surroundings none work).2.clock < time →
    (start.answerWithin surroundings millis work).2.passTo surroundings time =
      ⟨time, [], (start.await surroundings none work).2.state⟩
  inTime : (start.await surroundings none work).2.clock < start.clock + millis →
    (start.answerWithin surroundings millis work).1 = (start.await surroundings none work).1.answer
  late : start.clock + millis < (start.await surroundings none work).2.clock →
    (start.answerWithin surroundings millis work).1 = .ofDeadline

theorem undivided_alone {σ : Type} (surroundings : Surroundings σ) (work : Work HttpAnswer) (clock millis : Nat)
    (state : σ) : Undivided surroundings work ⟨clock, [], state⟩ millis := by
  have awaited := Timeline.awaited_runTask surroundings work clock millis state
  have free := Timeline.await_none surroundings work clock state
  constructor
  case ends => rw [free]
  case done =>
    intro time past
    rw [free] at past ⊢
    exact awaited.passTo_eq past
  case inTime =>
    intro early
    rw [free] at early ⊢
    exact congrArg Ending.answer (awaited.eq_of_early early)
  case late =>
    intro overdue
    rw [free] at overdue
    exact congrArg Ending.answer (awaited.eq_late (Nat.le_of_lt overdue))

/-- Calls that take their time or fail are the calls that the work makes when they take no time, with the same effects,
with or without a deadline. -/
theorem Instruments.done_slowed (instruments : Instruments) (wait : Call → Stage → Option Nat)
    (work : Work HttpAnswer) (clock millis : Nat) (stage : Stage) :
    let start : Timeline Stage := ⟨clock, [], stage⟩
    let free := start.await (instruments.slowed wait) none work
    let held := start.answerWithin (instruments.slowed wait) millis work
    let performed := instruments.perform work stage
    free.1 = .finished performed.1 ∧ free.2.state = performed.2 ∧
      ∀ time, free.2.clock < time → (held.2.passTo (instruments.slowed wait) time).state = performed.2 := by
  intro start free held performed
  obtain ⟨ended, course⟩ := instruments.course_slowed wait work clock stage
  have same : free = (.finished performed.1, ⟨ended, [], performed.2⟩) := by
    have alone := Timeline.await_none (instruments.slowed wait) work clock stage
    rwa [course] at alone
  have undivided := undivided_alone (instruments.slowed wait) work clock millis stage
  refine ⟨congrArg Prod.fst same, congrArg (·.2.state) same, fun time past => ?_⟩
  exact (congrArg Timeline.state (undivided.done time past)).trans (congrArg (·.2.state) same)

/-- A deadline splits no work. Whatever work meets with, it is done past its deadline as it would be without one, and
only its caller is told of the deadline. If its calls do no more than take their time or fail, they are the calls that
it makes when they take no time. A migration that is late ends with its tokens stored all the same, or with none of them
after a rollback, or with a rollback that failed. -/
theorem deadline_splits_nothing :
    (∀ {σ : Type} (surroundings : Surroundings σ) (work : Work HttpAnswer) (clock millis : Nat) (state : σ),
      Undivided surroundings work ⟨clock, [], state⟩ millis) ∧
    ∀ (instruments : Instruments) (wait : Call → Stage → Option Nat) (clock millis : Nat) (store : Store)
      (chances : Nat → Chance),
      let start : Timeline Stage := ⟨clock, [], ⟨store, chances, []⟩⟩
      (∀ work : Work HttpAnswer,
        let free := start.await (instruments.slowed wait) none work
        let held := start.answerWithin (instruments.slowed wait) millis work
        let performed := instruments.perform work start.state
        free.1 = .finished performed.1 ∧ free.2.state = performed.2 ∧
          ∀ time, free.2.clock < time → (held.2.passTo (instruments.slowed wait) time).state = performed.2) ∧
      ∀ (settings : Settings) (http : HttpRequest),
        let work := (Provider.standard settings instruments.signer).answerMigration http
        let free := start.await (instruments.slowed wait) none work
        let held := start.answerWithin (instruments.slowed wait) millis work
        ∃ result, free.1 = .finished (.ofMigration result) ∧ ∀ time, free.2.clock < time →
          Provider.Settles settings http store result (held.2.passTo (instruments.slowed wait) time).state.store := by
  refine ⟨undivided_alone, fun instruments wait clock millis store chances => ⟨fun work => ?_, ?_⟩⟩
  · exact instruments.done_slowed wait work clock millis ⟨store, chances, []⟩
  · intro settings http work free held
    obtain ⟨answered, _, done⟩ := instruments.done_slowed wait work clock millis ⟨store, chances, []⟩
    have migrated := Provider.perform_answerMigration (.standard settings instruments.signer) instruments http
      ⟨store, chances, []⟩
    refine ⟨_, answered.trans (congrArg (Ending.finished ·.1) migrated), fun time past => ?_⟩
    rw [done time past, migrated]
    exact Provider.settles_of_performed instruments store chances

def Specimen.slowRefresh : Call → Stage → Option Nat
  | .createSession .refresh _ _, _ => some 200
  | .compareSecret _ _, _ => none
  | _, _ => some 0

/-- The caller of a migration that has 20 milliseconds is told that it is late, and the sessions of both tokens are
stored by the time that the clock has counted 400. One that has 300 is told of the success. -/
theorem late_migration_stored :
    let surroundings := Specimen.instruments.slowed Specimen.slowRefresh
    let start : Timeline Stage := ⟨0, [], ⟨Specimen.moverStore, Specimen.chances, []⟩⟩
    let work := (Provider.standard {} Specimen.instruments.signer).answerMigration Specimen.moving
    let held := start.answerWithin surroundings 20 work
    let later := held.2.passTo surroundings 400
    (start.await surroundings none work).2.clock = 200 ∧ held.1 = .ofDeadline ∧ later.sleepers = [] ∧
      later.state.store.access.contains "opaque" = true ∧ later.state.store.refresh.contains "AQID" = true ∧
      (start.answerWithin surroundings 300 work).1 = ⟨200, [], ""⟩ := by
  intro surroundings start work held later
  obtain ⟨undivided, slowed⟩ := deadline_splits_nothing
  obtain ⟨_, done, _, late⟩ := undivided surroundings work 0 20 start.state
  obtain ⟨_, _, inTime, _⟩ := undivided surroundings work 0 300 start.state
  obtain ⟨alike, _⟩ := slowed Specimen.instruments Specimen.slowRefresh 0 20 Specimen.moverStore Specimen.chances
  have slow : (start.await surroundings none work).2.clock = 200 := by
    rw [Timeline.await_none]
    decide +kernel
  have stored : later = ⟨400, [], (Specimen.instruments.perform work start.state).2⟩ := by
    refine (done 400 (by rw [slow]; decide)).trans ?_
    rw [(alike work).2.1]
  have told : (start.answerWithin surroundings 300 work).1 = ⟨200, [], ""⟩ := by
    refine (inTime (by rw [slow]; decide)).trans ?_
    rw [(alike work).1]
    decide +kernel
  refine ⟨slow, late (by rw [slow]; decide), ?_⟩
  rw [stored]
  exact ⟨rfl, by decide +kernel, by decide +kernel, told⟩

end TokenServer
