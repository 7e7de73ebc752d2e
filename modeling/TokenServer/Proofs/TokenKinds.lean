import TokenServer.Proofs.Effect
import TokenServer.Proofs.Origin

/-! Access tokens and refresh tokens. Both are made alike, so that nothing in a token tells of which kind it is. They
are kept apart by the tables in which their sessions are: a session of the other kind is stored under the signature
of a token that was made by a migration alone. -/

namespace TokenServer

def Made.token? (kind : SessionKind) : Made → Option SignedToken
  | ⟨.mint other, .ok token⟩ => if other = kind then some token else none
  | _ => none

namespace Transcript

variable (calls : Transcript)

def tokens (kind : SessionKind) : List SignedToken := calls.filterMap (Made.token? kind)

/-- No two of the tokens that have been made have the same signature, of whichever kind they are. -/
def SignsApart : Prop := ((calls.tokens .access ++ calls.tokens .refresh).map SignedToken.signature).Nodup

instance : Decidable calls.SignsApart :=
  inferInstanceAs (Decidable ((calls.tokens .access ++ calls.tokens .refresh).map SignedToken.signature).Nodup)

variable {calls} {kind other : SessionKind} {token second : SignedToken}

theorem mem_tokens : token ∈ calls.tokens kind ↔ ⟨.mint kind, .ok token⟩ ∈ calls := by
  rw [tokens, List.mem_filterMap]
  constructor
  · rintro ⟨⟨call, reply⟩, member, made⟩
    cases call with
    | mint other =>
      cases reply with
      | error => cases made
      | ok =>
        rw [Made.token?] at made
        split at made
        · next same =>
          cases made
          exact same ▸ member
        · cases made
    | _ => cases made
  · exact fun member => ⟨_, member, if_pos rfl⟩

theorem SignsApart.differ (apart : calls.SignsApart) (member : token ∈ calls.tokens kind)
    (memberToo : second ∈ calls.tokens other) (differ : kind ≠ other) : token.signature ≠ second.signature := by
  rw [SignsApart, List.map_append, List.nodup_append] at apart
  obtain ⟨_, _, disjoint⟩ := apart
  cases kind with
  | access =>
    cases other with
    | access => exact absurd rfl differ
    | refresh => exact disjoint _ (List.mem_map_of_mem member) _ (List.mem_map_of_mem memberToo)
  | refresh =>
    cases other with
    | access => exact (disjoint _ (List.mem_map_of_mem memberToo) _ (List.mem_map_of_mem member)).symm
    | refresh => exact absurd rfl differ

end Transcript

namespace Provider

variable {settings : Settings} {instruments : Instruments} {sent : HttpRequest → Prop} {clients : Table Client}
  {calls : Transcript} {after : Store} {kind other : SessionKind} {signature : String} {session : TokenRequest}
  {token : SignedToken}

/-- What is stored under a signature goes back to a token that was made with it, or to a migration. -/
theorem made_or_migrated (lawful : Lawful settings instruments sent { clients } calls after)
    (stored : EverStored { clients } calls kind signature session) :
    (∃ token ∈ calls.tokens kind, token.signature = signature) ∨
      ∃ source, Migrated settings instruments sent { clients } calls kind signature source := by
  obtain ⟨root, rooted, _⟩ := lawful.rooted stored
  cases rooted with
  | initial present => cases kind <;> cases present
  | minted made signed => exact .inl ⟨_, Transcript.mem_tokens.mpr made, signed⟩
  | migrated migrated => exact .inr ⟨root, migrated⟩

theorem migrated_of_other (lawful : Lawful settings instruments sent { clients } calls after)
    (apart : calls.SignsApart) (member : token ∈ calls.tokens kind) (differ : kind ≠ other)
    (stored : EverStored { clients } calls other token.signature session) :
    ∃ source, Migrated settings instruments sent { clients } calls other token.signature source := by
  rcases made_or_migrated lawful stored with ⟨second, memberToo, same⟩ | migrated
  · exact absurd same.symm (apart.differ member memberToo differ)
  · exact migrated

end Provider

namespace Service

open Provider

/-- A token that was made has a session of the other kind only if a migration has stored one. So an access token
is not accepted as a refresh token unless a migration has taken it over as one. -/
theorem kinds_apart (settings : Settings) (instruments : Instruments) (clients : Table Client)
    (events : List Event) :
    let after := course (.standard settings instruments.signer) instruments { clients } events
    let migrated := Migrated settings instruments (fun http => .migrate http ∈ events) { clients } after.calls
    after.calls.SignsApart →
      (∀ kind other, kind ≠ other → ∀ token ∈ after.calls.tokens kind,
        (after.store.sessions other).contains token.signature = true →
          ∃ source, migrated other token.signature source) ∧
      ∀ token ∈ after.calls.tokens .access, (∀ source, ¬ migrated .refresh token.signature source) →
        ∀ task ∈ after.tasks, ∀ request, task.accepted? = some request →
          request.grantTypes.isExactly RefreshGrant.name = true →
            request.field RefreshGrant.name ≠ token.token := by
  intro after migrated apart
  have orderly := course_orderly settings instruments { clients } events
  have answered := orderly.sound.answered
  constructor
  · intro kind other differ token member held
    obtain ⟨session, present⟩ := Option.isSome_iff_exists.mp held
    exact migrated_of_other orderly.lawful apart member differ (answered.everStored present)
  · intro token member unmigrated task inside request done applies same
    obtain ⟨session, adopts⟩ := (orderly.accepted inside done).adopts applies
    have presented : RefreshGrant.presented request = token.signature := by
      rw [RefreshGrant.presented, same]
      exact signature_of_made answered (Transcript.mem_tokens.mp member)
    have stored := answered.everStored_of_found adopts.found
    rw [presented] at stored
    have differ : SessionKind.access ≠ .refresh := by decide
    obtain ⟨source, taken⟩ := migrated_of_other orderly.lawful apart member differ stored
    exact unmigrated source taken

/-- Refresh tokens are permanent, and one that was taken over is exchanged twice. The first access token for it has
the signature that it has itself; the second counts as no refresh token. -/
theorem kinds_apart_once_migrated :
    let clients := Specimen.migratorStore.clients
    let events := Specimen.takeOver 0 ++ Specimen.exchange 1 1 ++ Specimen.exchange 3 7
    let after := course (.standard Specimen.permanent Specimen.instruments.signer) Specimen.instruments { clients }
      events
    after.calls.SignsApart ∧ (after.store.sessions .refresh).contains "AQID" = true ∧
      (∃ source, Migrated Specimen.permanent Specimen.instruments (fun http => .migrate http ∈ events) { clients } after.calls
        .refresh "AQID" source) ∧
      ∃ task ∈ after.tasks, ∃ request, task.accepted? = some request ∧
        request.field RefreshGrant.name ≠ "BwgJ.BwgJ" := by
  intro clients events after
  have apart : after.calls.SignsApart := by decide +kernel
  have held : (after.store.sessions .refresh).contains "AQID" = true := by decide +kernel
  have made : ⟨"AQID.AQID", "AQID"⟩ ∈ after.calls.tokens .access ∧
      ⟨"BwgJ.BwgJ", "BwgJ"⟩ ∈ after.calls.tokens .access := by decide +kernel
  have unstored : ∀ made ∈ after.calls, (made.stores? .refresh).map Prod.fst ≠ some "BwgJ" := by decide +kernel
  have accepted : ∃ task ∈ after.tasks, ∃ request, task.accepted? = some request ∧
    request.grantTypes.isExactly RefreshGrant.name = true := by decide +kernel
  obtain ⟨kept, refused⟩ := kinds_apart Specimen.permanent Specimen.instruments clients events apart
  have taken := kept .access .refresh (by decide) ⟨"AQID.AQID", "AQID"⟩ made.1 held
  obtain ⟨task, member, request, done, applies⟩ := accepted
  refine ⟨apart, held, taken, task, member, request, done, ?_⟩
  refine refused ⟨"BwgJ.BwgJ", "BwgJ"⟩ made.2 (fun source migrated => ?_) task member request done applies
  obtain ⟨made, inside, stores⟩ := migrated.stored
  exact unstored made inside (congrArg (Option.map Prod.fst) stores)

end Service

end TokenServer
