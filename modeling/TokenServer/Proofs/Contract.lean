import TokenServer.Grant.Refresh
import TokenServer.Proofs.Edit
import TokenServer.Proofs.Transcript

/-! Contracts of work: what it may ask for after the calls made so far, and how it may end. A contract
holds whatever the replies are, so it holds of work that other work runs between as well. -/

namespace TokenServer

/-- The last call has told the instant at which the lifespan of access tokens for the request starts. -/
def TokenRequest.Timed (lifespans : Lifespans) (calls : Transcript) (request : TokenRequest) : Prop :=
  ∃ now earlier, calls = ⟨.now, now⟩ :: earlier ∧
    request.session.expiresAt.get? .accessToken = some (now.plusSeconds lifespans.accessSeconds)

structure Contract (α : Type) where
  allows : Transcript → Call → Prop
  ends : Transcript → α → Prop

namespace Work

variable {α β : Type}

/-- The work keeps to the contract after the calls of the transcript, whatever the replies. -/
def Meets (contract : Contract α) : Work α → Transcript → Prop
  | .done value, past => contract.ends past value
  | .ask call next, past =>
    contract.allows past call ∧ ∀ reply, (next reply).Meets contract (⟨call, reply⟩ :: past)

namespace Meets

theorem bind {contract : Contract β} {work : Work α} {next : α → Work β} {past : Transcript}
    (middle : Transcript → α → Prop) (first : work.Meets ⟨contract.allows, middle⟩ past)
    (second : ∀ past value, middle past value → (next value).Meets contract past) :
    (work >>= next).Meets contract past := by
  change (work.bind next).Meets contract past
  induction work generalizing past with
  | done value => exact second past value first
  | ask call rest ih => exact ⟨first.1, fun reply => ih reply (first.2 reply)⟩

theorem mono {weak strong : Contract α} {work : Work α} {past : Transcript}
    (meets : work.Meets strong past)
    (allows : ∀ past call, strong.allows past call → weak.allows past call)
    (ends : ∀ past value, strong.ends past value → weak.ends past value) :
    work.Meets weak past := by
  induction work generalizing past with
  | done value => exact ends past value meets
  | ask call next ih => exact ⟨allows past call meets.1, fun reply => ih reply (meets.2 reply)⟩

/-- What one allowed call keeps of the transcript, the work keeps throughout. -/
theorem throughout {contract : Contract α} (keeps : Transcript → Prop)
    (kept : ∀ past call reply, keeps past → contract.allows past call → keeps (⟨call, reply⟩ :: past))
    {work : Work α} {past : Transcript} (meets : work.Meets contract past) (initial : keeps past) :
    work.Meets ⟨fun past call => keeps past ∧ contract.allows past call,
      fun after value => keeps after ∧ contract.ends after value⟩ past := by
  induction work generalizing past with
  | done value => exact ⟨initial, meets⟩
  | ask call next ih =>
    exact ⟨⟨initial, meets.1⟩, fun reply => ih reply (meets.2 reply) (kept _ _ _ initial meets.1)⟩

theorem keeping {contract : Contract α} (keeps : Transcript → Prop)
    (kept : ∀ past call reply, keeps past → contract.allows past call → keeps (⟨call, reply⟩ :: past))
    {work : Work α} {past : Transcript} (meets : work.Meets contract past) (initial : keeps past) :
    work.Meets ⟨contract.allows, fun after value => keeps after ∧ contract.ends after value⟩ past :=
  (meets.throughout keeps kept initial).mono (fun _ _ allowed => allowed.2) fun _ _ ends => ends

theorem grows {contract : Contract α} {work : Work α} {start past : Transcript} (from_ : start ⊆ past)
    (meets : work.Meets contract past) :
    work.Meets ⟨contract.allows, fun after value => start ⊆ after ∧ contract.ends after value⟩ past :=
  meets.keeping (start ⊆ ·) (fun _ _ _ within _ => List.subset_cons_of_subset _ within) from_

theorem ended (instruments : Instruments) {contract : Contract α} {work : Work α} {stage : Stage}
    (meets : work.Meets contract stage.calls) :
    contract.ends (instruments.perform work stage).2.calls (instruments.perform work stage).1 := by
  induction work generalizing stage with
  | done value => exact meets
  | ask call next ih => exact ih _ (meets.2 _)

/-- What work that only asks comes to, on a stage where nothing has been asked. -/
theorem asked (instruments : Instruments) {contract : Contract α}
    (asking : ∀ past call, contract.allows past call → call.isWrite = false) {work : Work α}
    {stage : Stage} (unused : stage.calls = []) (meets : work.Meets contract []) :
    contract.ends (instruments.perform work stage).2.calls (instruments.perform work stage).1 ∧
      (instruments.perform work stage).2.calls.Idle ∧
      Answered instruments stage.Offers stage.store (instruments.perform work stage).2.calls
        (instruments.perform work stage).2.store := by
  have initial : Answered instruments stage.Offers stage.store stage.calls stage.store := by
    rw [unused]
    exact .start
  have onStage : work.Meets contract stage.calls := unused ▸ meets
  obtain ⟨only, ends⟩ := (onStage.keeping Transcript.Idle (fun past call reply kept allowed =>
    List.forall_mem_cons.mpr ⟨asking past call allowed, kept⟩) (by simp [unused, Transcript.Idle])).ended
      instruments
  exact ⟨ends, only, instruments.perform_answered work (fun _ offered => offered) initial⟩

end Meets

end Work

namespace Attempt

variable {α β : Type}

/-- The second attempt is made on the stage that the first has left, unless that has failed. -/
theorem perform_bind (instruments : Instruments) (attempt : Attempt α) (next : α → Attempt β) (stage : Stage) :
    instruments.perform (attempt >>= next).run stage =
      match instruments.perform attempt.run stage with
      | (.ok value, middle) => instruments.perform (next value).run middle
      | (.error error, middle) => (.error error, middle) := by
  rw [ExceptT.run_bind, instruments.perform_bind]
  rcases instruments.perform attempt.run stage with ⟨error | value, middle⟩ <;> rfl

/-- A sequence of attempts that succeeds is a success of each, the second on the stage left by the first. -/
theorem performed_of_bind {instruments : Instruments} {attempt : Attempt α} {next : α → Attempt β}
    {stage : Stage} {result : β}
    (done : (instruments.perform (attempt >>= next).run stage).1 = .ok result) :
    ∃ value middle, instruments.perform attempt.run stage = (.ok value, middle) ∧
      (instruments.perform (next value).run middle).1 = .ok result := by
  rw [perform_bind] at done
  split at done
  · next value middle first => exact ⟨value, middle, first, done⟩
  · cases done

/-- The attempt keeps to the contract, whose end speaks of success alone. -/
def Meets (contract : Contract α) (attempt : Attempt α) (past : Transcript) : Prop :=
  Work.Meets ⟨contract.allows, fun past result => ∀ value, result = .ok value → contract.ends past value⟩
    attempt.run past

namespace Meets

variable {contract : Contract β} {past : Transcript}

/-- The second attempt finds the calls of the first in its transcript. -/
theorem bind_grows {attempt : Attempt α} {next : α → Attempt β} (middle : Transcript → α → Prop)
    (first : attempt.Meets ⟨contract.allows, middle⟩ past)
    (second : ∀ after value, past ⊆ after → middle after value → (next value).Meets contract after) :
    Attempt.Meets contract (attempt >>= next) past := by
  refine Work.Meets.bind _ (Work.Meets.grows (List.Subset.refl past) first) ?_
  rintro after (error | value) ⟨grown, good⟩
  · exact fun value same => nomatch same
  · exact second after value grown (good value rfl)

theorem bind {attempt : Attempt α} {next : α → Attempt β} (middle : Transcript → α → Prop)
    (first : attempt.Meets ⟨contract.allows, middle⟩ past)
    (second : ∀ past value, middle past value → (next value).Meets contract past) :
    Attempt.Meets contract (attempt >>= next) past :=
  bind_grows middle first fun after value _ good => second after value good

theorem pure {value : β} (good : contract.ends past value) :
    Attempt.Meets contract (Pure.pure value) past := by
  intro other same
  cases same
  exact good

theorem throw (error : OAuthError) :
    Attempt.Meets contract (MonadExcept.throw error) past := fun _ same => nomatch same

theorem call {call : Call} {contract : Contract call.Reply} (allowed : contract.allows past call)
    (good : ∀ reply, contract.ends (⟨call, reply⟩ :: past) reply) :
    Attempt.Meets contract (Attempt.call call) past := by
  refine ⟨allowed, fun reply value same => ?_⟩
  cases same
  exact good reply

theorem ofExcept {ε : Type} {toError : ε → OAuthError} {result : Except ε β}
    (good : ∀ value, result = .ok value → contract.ends past value) :
    Attempt.Meets contract (Attempt.ofExcept toError result) past := by
  intro value same
  cases result with
  | error error => cases same
  | ok other =>
    cases same
    exact good value rfl

end Meets

/-- An attempt that only asks before the rest is made: where it fails, nothing has been written. -/
theorem asking_bind {contract : Contract (Except OAuthError β)} {attempt : Attempt α}
    {next : α → Attempt β} {past : Transcript} (middle : Transcript → α → Prop)
    (asks : attempt.Meets ⟨fun _ call => call.isWrite = false, middle⟩ past) (idle : past.Idle)
    (allowed : ∀ past call, call.isWrite = false → contract.allows past call)
    (failed : ∀ past error, past.Idle → contract.ends past (.error error))
    (rest : ∀ after value, past ⊆ after → after.Idle → middle after value →
      (next value).run.Meets contract after) :
    (attempt >>= next).run.Meets contract past := by
  have kept := (Work.Meets.grows (List.Subset.refl past) asks).keeping Transcript.Idle
    (fun past call reply idle asks => List.forall_mem_cons.mpr ⟨asks, idle⟩) idle
  rw [ExceptT.run_bind]
  refine .bind _ (kept.mono allowed fun _ _ good => good) ?_
  rintro after (error | value) ⟨idle, grown, good⟩
  · exact failed after error idle
  · exact rest after value grown idle (good value rfl)

end Attempt

namespace WorkEdit

variable {σ α β : Type}

theorem apply_lift_bind (work : Work α) (next : α → WorkEdit σ β) (value : σ) :
    Edit.apply (WorkEdit.lift work >>= next) value = work >>= fun result => (next result).apply value := by
  have applied : Edit.apply (WorkEdit.lift work) value =
      work >>= fun result => pure (Except.ok result, value) := by
    simp [Edit.apply, WorkEdit.lift]
  rw [Edit.apply_bind, applied]
  simp only [bind_assoc, pure_bind]

/-- The edit of the value keeps to the contract, whose end speaks of success alone. -/
def Meets (contract : Contract (α × σ)) (edit : WorkEdit σ α) (value : σ) (past : Transcript) : Prop :=
  Work.Meets ⟨contract.allows, fun past result =>
    ∀ outcome, result.1 = .ok outcome → contract.ends past (outcome, result.2)⟩ (edit.apply value) past

namespace Meets

variable {contract : Contract (β × σ)} {value : σ} {past : Transcript}

theorem bind {edit : WorkEdit σ α} {next : α → WorkEdit σ β} (middle : Transcript → α × σ → Prop)
    (first : WorkEdit.Meets ⟨contract.allows, middle⟩ edit value past)
    (second : ∀ past outcome value, middle past (outcome, value) →
      WorkEdit.Meets contract (next outcome) value past) :
    WorkEdit.Meets contract (edit >>= next) value past := by
  rw [WorkEdit.Meets, Edit.apply_bind]
  refine Work.Meets.bind _ first fun past result good => ?_
  rcases result with ⟨error | outcome, value⟩
  · intro _ same
    cases same
  · exact second past outcome value (good outcome rfl)

end Meets

end WorkEdit

end TokenServer
