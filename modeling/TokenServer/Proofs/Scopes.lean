import TokenServer.Proofs.Origin

/-! Scopes of stored sessions. A token request is granted what it asks for or what an earlier session was granted,
and grants each scope once. Only migrations grant what they are told to, so that any grant beyond what was
requested goes back to one. -/

namespace TokenServer

/-- All that is granted was requested, and nothing is granted twice. -/
structure TokenRequest.Bounded (request : TokenRequest) : Prop where
  distinct : request.grantedScopes.Nodup
  within : ∀ scope ∈ request.grantedScopes, scope ∈ request.requestedScopes

instance (request : TokenRequest) : Decidable request.Bounded :=
  decidable_of_iff
    (request.grantedScopes.Nodup ∧ ∀ scope ∈ request.grantedScopes, scope ∈ request.requestedScopes)
    ⟨fun ⟨distinct, within⟩ => ⟨distinct, within⟩, fun ⟨distinct, within⟩ => ⟨distinct, within⟩⟩

namespace Provider

variable (settings : Settings) (instruments : Instruments) (sent : HttpRequest → Prop) (store : Store)

/-- The scopes of a session are bounded, or they are those of a session that was taken over with others. -/
inductive Traced (calls : Transcript) (session : TokenRequest) : Prop
  | bounded (bounded : session.Bounded)
  | migrated {kind : SessionKind} {signature : String} {source : TokenRequest}
      (migrated : Migrated settings instruments sent store calls kind signature source)
      (unbounded : ¬ source.Bounded) (requested : session.requestedScopes = source.requestedScopes)
      (granted : session.grantedScopes = source.grantedScopes ∨
        session.grantedScopes = List.eraseDups source.grantedScopes)

variable {settings instruments sent store} {calls past : Transcript} {request session : TokenRequest}

theorem Accepted.bounded (accepted : Accepted settings instruments.signer past request)
    (applies : request.grantTypes.isExactly ClientCredentialsGrant.name = true) : request.Bounded := by
  have granted := accepted.grants applies
  constructor
  · rw [granted]
    exact WordList.nodup_eraseDups _
  · intro scope member
    rw [granted] at member
    exact List.mem_eraseDups.mp member

/-- What takes over a session is granted the same scopes, each of them once. -/
theorem Traced.adopted (traced : Traced settings instruments sent store calls session)
    (adopts : RefreshGrant.Adopts past request session) :
    Traced settings instruments sent store calls request := by
  cases traced with
  | bounded bounded =>
    refine .bounded ⟨?_, fun scope member => ?_⟩
    · rw [adopts.granted]
      exact WordList.nodup_eraseDups _
    · rw [adopts.granted] at member
      rw [adopts.requested]
      exact bounded.within scope (List.mem_eraseDups.mp member)
  | migrated migrated unbounded requested granted =>
    refine .migrated migrated unbounded (adopts.requested.trans requested) (.inr ?_)
    rw [adopts.granted]
    rcases granted with same | once
    · rw [same]
    · rw [once, WordList.eraseDups_eraseDups]

theorem Origin.traced {kind : SessionKind} {signature : String}
    (origin : Origin settings instruments sent store past kind signature session)
    (stored : calls.Stored kind signature session)
    (before : ∀ {kind signature found}, ⟨.findSession kind signature, .ok found⟩ ∈ past →
      Traced settings instruments sent store calls found) :
    Traced settings instruments sent store calls session := by
  have refreshed : Accepted settings instruments.signer past session →
      session.grantTypes.isExactly RefreshGrant.name = true →
      Traced settings instruments sent store calls session := by
    intro accepted applies
    obtain ⟨_, adopts⟩ := accepted.adopts applies
    exact (before adopts.found).adopted adopts
  cases origin with
  | issued accepted applies => exact .bounded (accepted.bounded applies)
  | exchanged accepted applies => exact refreshed accepted applies
  | rotated accepted applies => exact refreshed accepted applies
  | kept accepted applies => exact refreshed accepted applies
  | taken taken =>
    by_cases bounded : session.Bounded
    · exact .bounded bounded
    · exact .migrated ⟨stored, taken⟩ bounded rfl (.inl rfl)

end Provider

namespace Service

open Provider

/-- Whatever requests come in, a session in the store has bounded scopes, or they go back to a migration that was
sent with scopes that its client has not, or with one scope twice. -/
theorem scopes_traced (settings : Settings) (instruments : Instruments) (clients : Table Client)
    (events : List Event) {kind : SessionKind} {signature : String} {session : TokenRequest} :
    let after := course (.standard settings instruments.signer) instruments { clients } events
    (after.store.sessions kind).get? signature = some session →
      Traced settings instruments (fun http => .migrate http ∈ events) { clients } after.calls session := by
  intro after present
  have orderly := course_orderly settings instruments { clients } events
  refine orderly.lawful.session_induction (fun _ _ session => Traced settings instruments
    (fun http => .migrate http ∈ events) { clients } after.calls session) ?_ ?_
    (orderly.sound.answered.everStored present)
  · intro kind signature session initial
    cases kind <;> cases initial
  · intro past kind signature session _ stored before origin
    exact origin.traced stored before

/-- The scopes that a migration was sent with are handed on, although the client never requested them. -/
theorem unbounded_of_exchanged :
    let clients := Specimen.migratorStore.clients
    let after := course (.standard {} Specimen.instruments.signer) Specimen.instruments { clients }
      (Specimen.takeOver 0 ++ Specimen.exchange 1 7)
    ∃ session, (after.store.sessions .access).get? "BwgJ" = some session ∧ ¬ session.Bounded ∧
      session.grantedScopes = ["offline", "a"] ∧ session.requestedScopes = [] := by
  decide +kernel

theorem traced_of_exchanged :
    let clients := Specimen.migratorStore.clients
    let events := Specimen.takeOver 0 ++ Specimen.exchange 1 7
    let after := course (.standard {} Specimen.instruments.signer) Specimen.instruments { clients } events
    ∃ session, (after.store.sessions .refresh).get? "CAkK" = some session ∧
      Provider.Traced {} Specimen.instruments (fun http => .migrate http ∈ events) { clients } after.calls
        session := by
  intro clients events after
  have stored : ((after.store.sessions .refresh).get? "CAkK").isSome = true := by decide +kernel
  obtain ⟨session, present⟩ := Option.isSome_iff_exists.mp stored
  exact ⟨session, present, scopes_traced {} Specimen.instruments clients events present⟩

end Service

end TokenServer
