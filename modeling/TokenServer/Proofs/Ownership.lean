import TokenServer.Proofs.Ledger
import TokenServer.Proofs.Origin

/-! The clients for which sessions are stored. A request to refresh a token is accepted for the client of the token's
session, and later takes away what is stored under the token's signature by then. That is a session of the same
client, unless a migration has handed the signature from one client to another. -/

namespace TokenServer

/-- The request for which the task is about to exchange a token, and the signature of that token. -/
def Task.exchanging? : Task → Option (TokenRequest × String)
  | ⟨.respond request, .ask (.exchangeSession presented _ _ _) _, _⟩ => some (request, presented)
  | _ => none

theorem Orderly.accepted_of_exchanging {settings : Settings} {instruments : Instruments} {sent : HttpRequest → Prop}
    {store : Store} {service : Service} (orderly : Orderly settings instruments sent store service) {task : Task}
    (member : task ∈ service.tasks) {request : TokenRequest} {presented : String}
    (exchanging : task.exchanging? = some (request, presented)) :
    Provider.Accepted settings instruments.signer service.calls request ∧
      request.grantTypes.isExactly RefreshGrant.name = true ∧ presented = RefreshGrant.presented request := by
  have meets := (orderly.sound.loyal task member).1
  have ordered := orderly.ordered task member
  rcases task with ⟨job, work, past⟩
  cases job with
  | respond answered =>
    cases work with
    | done => cases exchanging
    | ask call next =>
      cases call with
      | exchangeSession presented access refresh stored =>
        cases exchanging
        rcases meets.1 with ⟨applies, asks⟩ | ⟨_, asks⟩
        · cases asks with
          | exchange => exact ⟨ordered, applies, rfl⟩
        · cases asks
      | _ => cases exchanging
  | accept | migrate | create | delete => cases exchanging

namespace Provider

section

variable (settings : Settings) (instruments : Instruments) (sent : HttpRequest → Prop) (store : Store)

/-- A migration has stored a session under the signature for one of the clients, and the other has had one, too. -/
inductive Reassigned (calls : Transcript) (signature first second : String) : Prop
  | intro {source other : TokenRequest}
      (migrated : Migrated settings instruments sent store calls .refresh signature source)
      (stored : EverStored store calls .refresh signature other)
      (clients : source.client.id = first ∧ other.client.id = second ∨
        source.client.id = second ∧ other.client.id = first) :
      Reassigned calls signature first second

end

variable {settings : Settings} {instruments : Instruments} {sent : HttpRequest → Prop} {store after : Store}
  {calls : Transcript} {signature : String} {session other : TokenRequest}

theorem rotated_of_stores (lawful : Lawful settings instruments sent store calls after) {made : Made}
    (member : made ∈ calls) (stores : made.stores? .refresh = some (signature, session))
    (applies : session.grantTypes.isExactly RefreshGrant.name = true) : made.rotated? = some signature := by
  obtain ⟨_, access, refresh, rfl⟩ := lawful.exchange_of_stores member stores applies
  cases stores
  rfl

/-- A root that has not been migrated is the only one under its signature. -/
theorem Root.eq_or_migrated (lawful : Lawful settings instruments sent store calls after)
    (fresh : FreshlyMinted store calls)
    (follows : settings.lifespans.refreshIsPermanent = false → ∀ signature,
      tally Made.rotated? signature calls ≤ tally Made.minted? signature calls)
    (first : Root settings instruments sent store calls .refresh signature session)
    (second : Root settings instruments sent store calls .refresh signature other) :
    session = other ∨ Migrated settings instruments sent store calls .refresh signature session ∨
      Migrated settings instruments sent store calls .refresh signature other := by
  -- A session at the start and a made token cannot both have the signature, nor can two made tokens.
  have once := fresh.at_most_one signature
  have held_of_present : ∀ {found}, (store.sessions .refresh).get? signature = some found →
      held signature store = 1 := fun present => held_of_contains (Option.isSome_of_eq_some present)
  have minted_pos : ∀ {token : SignedToken}, ⟨.mint .refresh, .ok token⟩ ∈ calls → token.signature = signature →
      0 < tally Made.minted? signature calls := fun made signed => tally_pos made (congrArg some signed)
  cases first with
  | migrated migrated => exact .inr (.inl migrated)
  | initial present =>
    cases second with
    | migrated migrated => exact .inr (.inr migrated)
    | initial presentToo => exact .inl (Option.some.inj (present.symm.trans presentToo))
    | minted made signed =>
      have stored := held_of_present present
      have made := minted_pos made signed
      omega
  | minted made signed stored rotated =>
    cases second with
    | migrated migrated => exact .inr (.inr migrated)
    | initial present =>
      have stored := held_of_present present
      have made := minted_pos made signed
      omega
    | minted _ _ storedToo rotatedToo =>
      obtain ⟨temporary, applies⟩ := rotated rfl
      obtain ⟨_, appliesToo⟩ := rotatedToo rfl
      obtain ⟨first, member, stores⟩ := stored
      obtain ⟨second, memberToo, storesToo⟩ := storedToo
      have followed := follows temporary signature
      have same : first = second := eq_of_tally_le_one (by omega) member
        (rotated_of_stores lawful member stores applies) memberToo
        (rotated_of_stores lawful memberToo storesToo appliesToo)
      rw [same, storesToo] at stores
      cases stores
      exact .inl rfl

end Provider

namespace Service

open Provider

/-- The session that an exchange takes away was stored for the client that asks, unless a migration has stored one
under the same signature for one of the two clients, when the other had one as well. -/
theorem own_session_exchanged (settings : Settings) (instruments : Instruments) (store : Store) (events : List Event)
    {number : Nat} {request removed : TokenRequest} {presented : String} :
    let before := course (.standard settings instruments.signer) instruments store events
    FreshlyMinted store before.calls →
      (before.tasks[number]?).bind Task.exchanging? = some (request, presented) →
        (before.store.sessions .refresh).get? presented = some removed →
          removed.client.id = request.client.id ∨
            Reassigned settings instruments (fun http => .migrate http ∈ events) store before.calls presented
              request.client.id removed.client.id := by
  intro before fresh exchanging present
  have orderly := course_orderly settings instruments store events
  have lawful := orderly.lawful
  obtain ⟨task, listed, exchanges⟩ := Option.bind_eq_some_iff.mp exchanging
  obtain ⟨accepted, applies, rfl⟩ := orderly.accepted_of_exchanging (List.mem_of_getElem? listed) exchanges
  obtain ⟨found, adopts⟩ := accepted.adopts applies
  have stored : EverStored store before.calls .refresh (RefreshGrant.presented request) removed :=
    lawful.answered.everStored present
  obtain ⟨first, rooted, owner⟩ := lawful.rooted (lawful.answered.everStored_of_found adopts.found)
  obtain ⟨second, rootedToo, ownerToo⟩ := lawful.rooted stored
  have follows : settings.lifespans.refreshIsPermanent = false → ∀ signature,
      tally Made.rotated? signature before.calls ≤ tally Made.minted? signature before.calls := by
    intro temporary
    have sound : Sound instruments (Job.policy settings instruments.signer temporary) store before :=
      course_sound _ store events
    exact sound.rotated_le
  have asking : first.client.id = request.client.id := owner.trans adopts.owned
  rcases Root.eq_or_migrated lawful fresh follows rooted rootedToo with same | migrated | migrated
  · left
    rw [← ownerToo, ← asking, same]
  · exact .inr (.intro migrated rootedToo.everStored (.inl ⟨asking, ownerToo⟩))
  · exact .inr (.intro migrated rooted.everStored (.inr ⟨ownerToo, asking⟩))

end Service

namespace Specimen

def rival : Client := ⟨"other", "plain:word", false, ["refresh_token"], []⟩

def reassigning : HttpRequest :=
  (HttpRequest.formPost [("token", "opaque"), ("refresh_token", "AQID.AQID"), ("client", "b3RoZXI6"),
    ("scope", "offline")]).withBasicAuth "import" "pass"

/-- A request of `app` is accepted, and its task has yet to make the exchange when the token is taken over for
`other`. -/
def handover : List Event :=
  takeOver 0 ++ (.accept (refreshPost "AQID.AQID") {} :: (List.range 9).map fun turn => .proceed 1 (chances turn)) ++
    (.migrate reassigning :: (List.range 9).map fun turn => .proceed 2 (chances turn)) ++
    [.answer 1, .proceed 3 (chances 7), .proceed 3 (chances 8)]

end Specimen

namespace Service

/-- The session of `other` is exchanged for new tokens of `app`. -/
theorem foreign_session_exchanged :
    let store : Store := .ofClients [Specimen.client, Specimen.rival, Specimen.migrator]
    let before := course (.standard {} Specimen.instruments.signer) Specimen.instruments store Specimen.handover
    let after := course (.standard {} Specimen.instruments.signer) Specimen.instruments store
      (Specimen.handover ++ [.proceed 3 (Specimen.chances 9), .proceed 3 (Specimen.chances 10)])
    FreshlyMinted store after.calls ∧
      ((before.tasks[3]?).bind Task.exchanging?).map (fun (request, presented) => (request.client.id, presented)) =
        some ("app", "AQID") ∧
      ((before.store.sessions .refresh).get? "AQID").map (·.client.id) = some "other" ∧
      (after.store.sessions .refresh).get? "AQID" = none ∧ (after.tasks[3]?).map (Task.hasExchanged "AQID") = some true := by
  intro store before after
  have fresh : FreshlyMinted store after.calls := ⟨by decide +kernel, by decide +kernel⟩
  exact ⟨fresh, by decide +kernel⟩

theorem own_session_exchanged_once_reassigned :
    let store : Store := .ofClients [Specimen.client, Specimen.rival, Specimen.migrator]
    let before := course (.standard {} Specimen.instruments.signer) Specimen.instruments store Specimen.handover
    ∃ request presented removed, (before.tasks[3]?).bind Task.exchanging? = some (request, presented) ∧
      (before.store.sessions .refresh).get? presented = some removed ∧
      (removed.client.id = request.client.id ∨
        Provider.Reassigned {} Specimen.instruments (fun http => .migrate http ∈ Specimen.handover) store
          before.calls presented request.client.id removed.client.id) := by
  intro store before
  have fresh : FreshlyMinted store before.calls := ⟨by decide +kernel, by decide +kernel⟩
  have busy : (((before.tasks[3]?).bind Task.exchanging?).bind fun exchange =>
    (before.store.sessions .refresh).get? exchange.2).isSome = true := by decide +kernel
  obtain ⟨removed, found⟩ := Option.isSome_iff_exists.mp busy
  obtain ⟨⟨request, presented⟩, exchanging, present⟩ := Option.bind_eq_some_iff.mp found
  exact ⟨request, presented, removed, exchanging, present,
    own_session_exchanged {} Specimen.instruments store Specimen.handover fresh exchanging present⟩

end Service

end TokenServer
