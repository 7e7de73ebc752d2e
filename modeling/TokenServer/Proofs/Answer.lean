import TokenServer.World

/-! Calls answered by a store in memory. The time, whatever is drawn at random and the failures of the
store are left open: they come to every call as its chance, so that a statement for all chances covers
every clock, every random source and every pattern of failures. The world that the server is tried out
in is one of them (`World.reply_eq_serve`). -/

namespace TokenServer

/-- What a call meets with that its caller has no say in. -/
structure Chance where
  instant : Instant
  identifier : Uuid
  key : Bytes
  failure : Option StoreError := none

structure Instruments where
  hasher : SecretHasher
  signer : Signer

/-- What a call to the store comes back with when it fails; other calls do not fail. -/
def Call.failed? (call : Call) (error : StoreError) : Option call.Reply :=
  ((Fault.fail error).disturb call).reply?

def Call.isWrite : Call → Bool
  | .createSession _ _ _ | .deleteSession _ _ | .exchangeSession _ _ _ _ => true
  | _ => false

namespace Instruments

variable (instruments : Instruments)

/-- The reply to a call and the store that it leaves, as long as nothing fails. -/
def serve (chance : Chance) : (call : Call) → Store → call.Reply × Store
  | .now, store => (chance.instant, store)
  | .freshId, store => (chance.identifier, store)
  | .findClient id, store => (store.findClient id, store)
  | .createSession kind signature request, store =>
    (.ok (), store.createSession kind signature request)
  | .findSession kind signature, store => (store.findSession kind signature, store)
  | .deleteSession kind signature, store => store.deleteSession kind signature
  | .exchangeSession presented access refresh request, store =>
    store.exchangeSession presented access refresh request
  | .mint _, store => (.ok (instruments.signer.sign chance.key), store)
  | .compareSecret hashed candidate, store =>
    (instruments.hasher.compare hashed (Utf8.encode candidate), store)

/-- The reply to a call and the store that it leaves. A call that fails leaves the store as it was. -/
def answer (chance : Chance) (call : Call) (store : Store) : call.Reply × Store :=
  match chance.failure.bind call.failed? with
  | some reply => (reply, store)
  | none => instruments.serve chance call store

theorem answer_eq_serve {chance : Chance} (sound : chance.failure = none) (call : Call)
    (store : Store) : instruments.answer chance call store = instruments.serve chance call store := by
  simp only [answer, sound, Option.bind_none]

/-- Either a call fails without effect, or it is served. -/
theorem answer_cases (chance : Chance) (call : Call) (store : Store) :
    (∃ error reply, chance.failure = some error ∧ call.failed? error = some reply ∧
        instruments.answer chance call store = (reply, store)) ∨
      instruments.answer chance call store = instruments.serve chance call store := by
  cases failure : chance.failure with
  | none => exact .inr (instruments.answer_eq_serve failure call store)
  | some error =>
    cases failed : call.failed? error with
    | none => exact .inr (by simp only [answer, failure, Option.bind_some, failed])
    | some reply =>
      exact .inl ⟨error, reply, rfl, failed, by simp only [answer, failure, Option.bind_some, failed]⟩

theorem answer_clients (chance : Chance) (call : Call) (store : Store) :
    (instruments.answer chance call store).2.clients = store.clients := by
  rcases instruments.answer_cases chance call store with ⟨_, _, _, _, same⟩ | same <;> rw [same]
  cases call with
  | createSession kind => cases kind <;> rfl
  | deleteSession kind =>
    simp only [serve, Store.deleteSession]
    split
    · cases kind <;> rfl
    · rfl
  | exchangeSession =>
    simp only [serve, Store.exchangeSession]
    split <;> rfl
  | _ => rfl

variable {instruments} {chance : Chance} {store : Store}

theorem registered_of_answer {id : String} {client : Client}
    (found : (instruments.answer chance (.findClient id) store).1 = .ok client) :
    store.clients.get? id = some client := by
  rcases instruments.answer_cases chance (.findClient id) store with
    ⟨_, _, _, failed, same⟩ | same <;> rw [same] at found
  · cases found
    cases failed
  · simp only [serve, Store.findClient] at found
    split at found <;> cases found
    assumption

theorem stored_of_answer {kind : SessionKind} {signature : String} {session : TokenRequest}
    (found : (instruments.answer chance (.findSession kind signature) store).1 = .ok session) :
    (store.sessions kind).get? signature = some session := by
  rcases instruments.answer_cases chance (.findSession kind signature) store with
    ⟨_, _, _, failed, same⟩ | same <;> rw [same] at found
  · cases found
    cases failed
  · simp only [serve, Store.findSession] at found
    split at found <;> cases found
    assumption

theorem answer_compareSecret (hashed candidate : String) :
    (instruments.answer chance (.compareSecret hashed candidate) store).1 =
      instruments.hasher.compare hashed (Utf8.encode candidate) := by
  rcases instruments.answer_cases chance (.compareSecret hashed candidate) store with
    ⟨_, _, _, failed, _⟩ | same
  · cases failed
  · rw [same, serve]

variable (chance) in
theorem answer_now : (instruments.answer chance .now store).1 = chance.instant := by
  rcases instruments.answer_cases chance .now store with ⟨_, _, _, failed, _⟩ | same
  · cases failed
  · rw [same, serve]

variable (chance) in
theorem answer_mint (kind : SessionKind) :
    (instruments.answer chance (.mint kind) store).1 = .ok (instruments.signer.sign chance.key) := by
  rcases instruments.answer_cases chance (.mint kind) store with ⟨_, _, _, failed, _⟩ | same
  · cases failed
  · rw [same, serve]

end Instruments

namespace World

def instruments (world : World) : Instruments := ⟨world.hasher, world.signer⟩

def chance (world : World) : Chance where
  instant := world.wallClock
  identifier := .ofTime (world.wallClock.second * 1000).toNat world.idCount
  key := key world.tokenCount

theorem reply_eq_serve (call : Call) (world : World) :
    ((reply call world).1, (reply call world).2.store) =
      world.instruments.serve world.chance call world.store := by
  cases call with
  | exchangeSession presented access refresh request =>
    simp only [reply, Instruments.serve, Store.exchangeSession]
    split
    · next exchanged =>
      split at exchanged <;> cases exchanged
      next stored => simp [stored, note]
    · next failed =>
      split at failed <;> cases failed
      next absent => simp [absent]
  | _ => rfl

end World

end TokenServer
