import TokenServer.Proofs.Provider

/-! The server at work on many requests at once. Tasks share one store, and between any two calls of a task
the others may make theirs. A task may stop for ever, and any call may fail. -/

namespace TokenServer

/-- What the server is asked to do. Responses are asked for with any request, accepted before or not; refresh
sessions are also created and deleted directly. -/
inductive Job where
  | accept (http : HttpRequest) (session : Session)
  | respond (request : TokenRequest)
  | migrate (http : HttpRequest)
  | create (signature : String) (request : TokenRequest)
  | delete (signature : String)

abbrev Job.Result : Job → Type
  | .accept _ _ => Except OAuthError TokenRequest
  | .respond _ => Except OAuthError TokenResponse
  | .migrate _ => Except OAuthError Unit
  | .create _ _ => Except StoreError Unit
  | .delete _ => Except StoreError Unit

def Job.work (provider : Provider) : (job : Job) → Work job.Result
  | .accept http session => (provider.acceptRequest http session).run
  | .respond request => (provider.respond request).run
  | .migrate http => (provider.migrate http).run
  | .create signature request => Work.call (.createSession .refresh signature request)
  | .delete signature => Work.call (.deleteSession .refresh signature)

/-- A job, the work that is left of it, and the calls that it has made. -/
structure Task where
  job : Job
  work : Work job.Result
  past : Transcript := []

/-- A store, the tasks that share it, and all calls that they have made. -/
structure Service where
  store : Store
  tasks : List Task := []
  calls : Transcript := []

/-- What happens next: a job is taken on, or a task makes its next call. -/
inductive Action where
  | start (job : Job)
  | proceed (number : Nat) (chance : Chance)

namespace Service

variable (provider : Provider) (instruments : Instruments)

def step (service : Service) : Action → Service
  | .start job => { service with tasks := service.tasks ++ [{ job, work := job.work provider }] }
  | .proceed number chance =>
    match service.tasks[number]? with
    | some ⟨job, .ask call next, past⟩ =>
      let (reply, store) := instruments.answer chance call service.store
      { store
        tasks := service.tasks.set number ⟨job, next reply, ⟨call, reply⟩ :: past⟩
        calls := ⟨call, reply⟩ :: service.calls }
    | _ => service

def run (store : Store) (actions : List Action) : Service :=
  actions.foldl (step provider instruments) { store }

/-- What every job keeps to: its contract, and what the contract lets it keep of its transcript. -/
structure Policy where
  contract : (job : Job) → Contract job.Result
  keeps : Transcript → Prop
  meets : ∀ job : Job, (job.work provider).Meets (contract job) []
  initially : keeps []
  onwards : ∀ (job : Job) past call reply, keeps past → (contract job).allows past call →
    keeps (⟨call, reply⟩ :: past)

variable {provider}

/-- What holds at any time: the store is what the calls have made of it, each call was made by one of the
tasks, and every task is true to the policy. -/
structure Sound (policy : Policy provider) (store : Store) (service : Service) : Prop where
  answered : Answered instruments (fun _ => True) store service.calls service.store
  shared : service.calls.Perm (service.tasks.flatMap Task.past)
  loyal : ∀ task ∈ service.tasks,
    task.work.Meets (policy.contract task.job) task.past ∧ policy.keeps task.past

variable {instruments} {policy : Policy provider} {store : Store} {service : Service}

theorem Sound.start (sound : Sound instruments policy store service) (job : Job) :
    Sound instruments policy store (service.step provider instruments (.start job)) := by
  constructor
  · exact sound.answered
  · simpa [step] using sound.shared
  · intro task member
    rcases List.mem_append.mp member with old | new
    · exact sound.loyal task old
    · cases List.mem_singleton.mp new
      exact ⟨policy.meets job, policy.initially⟩

/-- A member of a list that yields one more makes the whole list yield one more. -/
theorem flatMap_set_perm {α β : Type} (yield : α → List β) {more : β} {items : List α} {number : Nat}
    {item : α} (within : number < items.length) (yields : yield item = more :: yield items[number]) :
    ((items.set number item).flatMap yield).Perm (more :: items.flatMap yield) := by
  induction items generalizing number with
  | nil => cases within
  | cons head rest ih =>
    cases number with
    | zero => simp only [List.set_cons_zero, List.flatMap_cons, yields, List.getElem_cons_zero,
        List.cons_append, List.Perm.refl]
    | succ number =>
      have later := ih (Nat.lt_of_succ_lt_succ within) yields
      simp only [List.set_cons_succ, List.flatMap_cons]
      exact (later.append_left _).trans List.perm_middle

theorem Sound.proceed (sound : Sound instruments policy store service) (number : Nat)
    (chance : Chance) :
    Sound instruments policy store (service.step provider instruments (.proceed number chance)) := by
  rw [step]
  split
  · next job call next past found =>
    obtain ⟨within, same⟩ := List.getElem?_eq_some_iff.mp found
    obtain ⟨meets, keeps⟩ := sound.loyal _ (same ▸ List.getElem_mem within)
    constructor
    · exact .next sound.answered trivial call
    · refine (sound.shared.cons _).trans (flatMap_set_perm Task.past within ?_).symm
      rw [same]
    · intro task member
      rcases List.mem_or_eq_of_mem_set member with old | rfl
      · exact sound.loyal task old
      · exact ⟨meets.2 _, policy.onwards job past call _ keeps meets.1⟩
  · exact sound

theorem run_sound (policy : Policy provider) (store : Store) (actions : List Action) :
    Sound instruments policy store (run provider instruments store actions) := by
  have initial : Sound instruments policy store { store } := ⟨.start, .refl _, by simp⟩
  suffices later : ∀ service, Sound instruments policy store service →
      Sound instruments policy store (actions.foldl (step provider instruments) service) from
    later _ initial
  induction actions with
  | nil => exact fun _ sound => sound
  | cons action rest ih =>
    intro service sound
    cases action with
    | start job => exact ih _ (sound.start job)
    | proceed number chance => exact ih _ (sound.proceed number chance)

end Service

end TokenServer
