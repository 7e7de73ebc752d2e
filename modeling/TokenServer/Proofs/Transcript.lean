import TokenServer.Proofs.Answer
import TokenServer.Proofs.Store
import TokenServer.TokenAuthority

/-! Transcripts: the calls that were made of a store, each with its reply. A transcript alone tells what
has become of the store, whoever made the calls. -/

namespace TokenServer

structure Made where
  call : Call
  reply : call.Reply

/-- What a call that has been made has done to the store. Only writes that succeed do anything. -/
def Made.effect (store : Store) : Made → Store
  | ⟨.createSession kind signature request, .ok ()⟩ => store.createSession kind signature request
  | ⟨.deleteSession kind signature, .ok ()⟩ => store.removeSession kind signature
  | ⟨.exchangeSession presented access refresh request, .ok ()⟩ =>
    store.rotateSession presented access refresh request
  | _ => store

theorem Made.effect_of_asking {made : Made} (asks : made.call.isWrite = false) (store : Store) :
    made.effect store = store := by
  rcases made with ⟨call, reply⟩
  cases call <;> first | rfl | cases asks

namespace Instruments

variable (instruments : Instruments) (chance : Chance) (store : Store)

theorem serve_effect (call : Call) :
    (instruments.serve chance call store).2 =
      Made.effect store ⟨call, (instruments.serve chance call store).1⟩ := by
  cases call with
  | deleteSession kind signature =>
    simp only [serve, Store.deleteSession]
    split <;> rfl
  | exchangeSession presented access refresh request =>
    simp only [serve, Store.exchangeSession]
    split <;> rfl
  | _ => rfl

theorem answer_effect (call : Call) :
    (instruments.answer chance call store).2 =
      Made.effect store ⟨call, (instruments.answer chance call store).1⟩ := by
  rcases instruments.answer_cases chance call store with ⟨_, _, _, failed, same⟩ | same
  · rw [same]
    cases call <;> cases failed <;> rfl
  · rw [same]
    exact instruments.serve_effect chance store call

end Instruments

/-- Calls that have been made, the latest first. -/
abbrev Transcript := List Made

def Made.reading? : Made → Option Instant
  | ⟨.now, instant⟩ => some instant
  | _ => none

def Transcript.readings (calls : Transcript) : List Instant := calls.filterMap Made.reading?

theorem Transcript.mem_readings {calls : Transcript} {instant : Instant}
    (asked : ⟨.now, instant⟩ ∈ calls) : instant ∈ calls.readings :=
  List.mem_filterMap.mpr ⟨_, asked, rfl⟩

def Transcript.Idle (calls : Transcript) : Prop := ∀ made ∈ calls, made.call.isWrite = false

theorem Transcript.idle_nil : Idle [] := fun _ member => nomatch member

theorem Transcript.Idle.effect {calls : Transcript} (idle : calls.Idle) (store : Store) :
    calls.foldr (fun made store => made.effect store) store = store := by
  induction calls with
  | nil => rfl
  | cons made calls ih =>
    obtain ⟨asks, earlier⟩ := List.forall_mem_cons.mp idle
    rw [List.foldr_cons, ih earlier, made.effect_of_asking asks]

/-- The calls of the transcript have led from one store to the other, each with a chance that was possible. -/
inductive Answered (instruments : Instruments) (possible : Chance → Prop) (store : Store) :
    Transcript → Store → Prop
  | start : Answered instruments possible store [] store
  | next {calls : Transcript} {before : Store} {chance : Chance}
      (earlier : Answered instruments possible store calls before) (met : possible chance) (call : Call) :
      Answered instruments possible store
        (⟨call, (instruments.answer chance call before).1⟩ :: calls)
        (instruments.answer chance call before).2

namespace Answered

variable {instruments : Instruments} {possible : Chance → Prop} {store after : Store}
  {calls : Transcript}

theorem weaken {wider : Chance → Prop} (answered : Answered instruments possible store calls after)
    (wide : ∀ chance, possible chance → wider chance) : Answered instruments wider store calls after := by
  induction answered with
  | start => exact .start
  | next _ met call ih => exact .next ih (wide _ met) call

theorem clients (answered : Answered instruments possible store calls after) :
    after.clients = store.clients := by
  induction answered with
  | start => rfl
  | next _ _ call ih => rw [instruments.answer_clients, ih]

/-- What has become of the store is what the calls have done in turn. -/
theorem effects (answered : Answered instruments possible store calls after) :
    after = calls.foldr (fun made store => Made.effect store made) store := by
  induction answered with
  | start => rfl
  | next _ _ call ih => rw [instruments.answer_effect, List.foldr_cons, ← ih]

theorem store_eq (answered : Answered instruments possible store calls after) (asking : calls.Idle) :
    after = store :=
  answered.effects.trans (asking.effect store)

/-- The latest call was answered by the store that all earlier calls had led to. -/
theorem head {made : Made} (answered : Answered instruments possible store (made :: calls) after) :
    ∃ before chance, Answered instruments possible store calls before ∧ possible chance ∧
      made.reply = (instruments.answer chance made.call before).1 := by
  cases answered with
  | @next _ before chance earlier met call => exact ⟨before, chance, earlier, met, rfl⟩

/-- Every call of the transcript was answered by a store that earlier calls had led to. -/
theorem of_mem (answered : Answered instruments possible store calls after) {made : Made}
    (member : made ∈ calls) :
    ∃ earlier before chance, earlier ⊆ calls ∧ Answered instruments possible store earlier before ∧
      possible chance ∧ made.reply = (instruments.answer chance made.call before).1 := by
  induction answered with
  | start => cases member
  | @next calls before chance earlier met call ih =>
    rcases List.mem_cons.mp member with rfl | old
    · exact ⟨calls, before, chance, List.subset_cons_self _ _, earlier, met, rfl⟩
    · obtain ⟨suffix, middle, chance, inside, answered, met, replied⟩ := ih old
      exact ⟨suffix, middle, chance, List.subset_cons_of_subset _ inside, answered, met, replied⟩

theorem registered (answered : Answered instruments possible store calls after) {id : String}
    {client : Client} (found : ⟨.findClient id, .ok client⟩ ∈ calls) :
    store.clients.get? id = some client := by
  obtain ⟨_, before, chance, _, earlier, _, replied⟩ := answered.of_mem found
  rw [← earlier.clients]
  exact Instruments.registered_of_answer replied.symm

theorem compared (answered : Answered instruments possible store calls after)
    {hashed candidate : String} {result : Except ComparisonFailure Unit}
    (compared : ⟨.compareSecret hashed candidate, result⟩ ∈ calls) :
    instruments.hasher.compare hashed (Utf8.encode candidate) = result := by
  obtain ⟨_, _, _, _, _, _, replied⟩ := answered.of_mem compared
  exact (Instruments.answer_compareSecret hashed candidate).symm.trans replied.symm

theorem told (answered : Answered instruments possible store calls after) {instant : Instant}
    (asked : ⟨.now, instant⟩ ∈ calls) : ∃ chance, possible chance ∧ chance.instant = instant := by
  obtain ⟨_, _, chance, _, _, met, replied⟩ := answered.of_mem asked
  exact ⟨chance, met, (Instruments.answer_now chance).symm.trans replied.symm⟩

theorem made (answered : Answered instruments possible store calls after) {kind : SessionKind}
    {result : Except CryptoError SignedToken} (minted : ⟨.mint kind, result⟩ ∈ calls) :
    ∃ chance, possible chance ∧ result = .ok (instruments.signer.sign chance.key) := by
  obtain ⟨_, _, chance, _, _, met, replied⟩ := answered.of_mem minted
  exact ⟨chance, met, replied.trans (Instruments.answer_mint chance kind)⟩

/-- While calls only ask, what they find is what was stored from the start. -/
theorem stored (answered : Answered instruments possible store calls after)
    (asking : calls.Idle) {kind : SessionKind} {signature : String}
    {session : TokenRequest} (found : ⟨.findSession kind signature, .ok session⟩ ∈ calls) :
    (store.sessions kind).get? signature = some session := by
  obtain ⟨_, before, chance, inside, earlier, _, replied⟩ := answered.of_mem found
  have unchanged : before = store := earlier.store_eq fun made member => asking made (inside member)
  subst unchanged
  exact Instruments.stored_of_answer replied.symm

/-- While no call fails, a client is found as from the start. -/
theorem foundClient (answered : Answered instruments possible store calls after)
    (sound : ∀ chance, possible chance → chance.failure = none) {id : String}
    {result : Except StoreError Client} (found : ⟨.findClient id, result⟩ ∈ calls) :
    result = store.findClient id := by
  obtain ⟨_, before, chance, _, earlier, met, replied⟩ := answered.of_mem found
  rw [instruments.answer_eq_serve (sound chance met)] at replied
  have same : before.findClient id = store.findClient id := by
    rw [Store.findClient, earlier.clients, Store.findClient]
  exact replied.trans same

/-- While calls only ask and none fails, a session is looked up as from the start. -/
theorem lookedUp (answered : Answered instruments possible store calls after)
    (asking : calls.Idle)
    (sound : ∀ chance, possible chance → chance.failure = none) {kind : SessionKind}
    {signature : String} {result : Except StoreError TokenRequest}
    (found : ⟨.findSession kind signature, result⟩ ∈ calls) :
    result = store.findSession kind signature := by
  obtain ⟨_, before, chance, inside, earlier, met, replied⟩ := answered.of_mem found
  have unchanged : before = store := earlier.store_eq fun made member => asking made (inside member)
  subst unchanged
  rw [instruments.answer_eq_serve (sound chance met)] at replied
  exact replied

end Answered

/-- A store, what the calls to come will meet with, and the calls that have been made. -/
structure Stage where
  store : Store
  chances : Nat → Chance
  calls : Transcript := []

def Stage.Offers (stage : Stage) (chance : Chance) : Prop := ∃ number, stage.chances number = chance

namespace Instruments

variable (instruments : Instruments)

def reply (call : Call) (stage : Stage) : call.Reply × Stage :=
  let (value, store) := instruments.answer (stage.chances 0) call stage.store
  (value, ⟨store, fun number => stage.chances (number + 1), ⟨call, value⟩ :: stage.calls⟩)

def perform {α : Type} (work : Work α) (stage : Stage) : α × Stage := work.run instruments.reply stage

theorem perform_bind {α β : Type} (work : Work α) (next : α → Work β) (stage : Stage) :
    instruments.perform (work >>= next) stage =
      instruments.perform (next (instruments.perform work stage).1) (instruments.perform work stage).2 :=
  Work.run_bind instruments.reply work next stage

theorem perform_answered {α : Type} {possible : Chance → Prop} (work : Work α) {store : Store}
    {stage : Stage} (offered : ∀ chance, stage.Offers chance → possible chance)
    (answered : Answered instruments possible store stage.calls stage.store) :
    Answered instruments possible store (instruments.perform work stage).2.calls
      (instruments.perform work stage).2.store := by
  induction work generalizing stage with
  | done => exact answered
  | ask call next ih =>
    refine ih _ ?_ (.next answered (offered _ ⟨0, rfl⟩) call)
    rintro chance ⟨number, same⟩
    exact offered chance ⟨number + 1, same⟩

theorem offers_of_performed {α : Type} (work : Work α) {stage : Stage} {chance : Chance}
    (offered : (instruments.perform work stage).2.Offers chance) : stage.Offers chance := by
  induction work generalizing stage with
  | done => exact offered
  | ask call next ih =>
    obtain ⟨number, same⟩ := ih _ offered
    exact ⟨number + 1, same⟩

end Instruments

/-! A stage to try statements out on: secrets are in clear, a key signs itself, the clock stands still, and
every chance brings another key. -/

namespace Specimen

def instruments : Instruments := ⟨.clear fun _ => false, ⟨fun key => key⟩⟩

def id : Uuid := ⟨0, by decide⟩

def chances (number : Nat) : Chance :=
  ⟨⟨0, 0⟩, id, [.ofNat number, .ofNat (number + 1), .ofNat (number + 2)], none⟩

def failingAt (failing number : Nat) : Chance :=
  if number = failing then { chances number with failure := some (.connection "down") }
  else chances number

def authority : TokenAuthority := ⟨instruments.signer, {}⟩

def client : Client := ⟨"app", "plain:key", false, ["refresh_token"], []⟩

def request (scopes : WordList) (requestedAt : Instant) : TokenRequest :=
  { id, requestedAt, client, grantedScopes := scopes }

def store (scopes : WordList) (requestedAt : Instant) : Store :=
  { clients := (∅ : Table Client).insert "app" client
    refresh := (∅ : Table TokenRequest).insert "AQID" (request scopes requestedAt) }

end Specimen

end TokenServer
