import TokenServer.Proofs.TokenKinds
import TokenServer.Proofs.Ledger
import TokenServer.Proofs.Malformed

/-! Texts of tokens in stored sessions. A session keeps the form of its request, and with it the token that an
exchange was asked for with, or those that a migration took over. The first is used up by the exchange where refresh
tokens are replaced, and stays good where they are permanent. The others are good as they were posted if they have
signatures. -/

namespace TokenServer

/-- There is a session, of either kind, under the signature of the text. -/
def Store.Lives (store : Store) (text : String) : Prop :=
  ∃ kind, (store.sessions kind).contains (SignedToken.signatureOf text) = true

instance (store : Store) (text : String) : Decidable (store.Lives text) :=
  decidable_of_iff (store.access.contains (SignedToken.signatureOf text) = true ∨
      store.refresh.contains (SignedToken.signatureOf text) = true)
    ⟨fun lives => lives.elim (⟨.access, ·⟩) (⟨.refresh, ·⟩), fun ⟨kind, held⟩ =>
      match kind with
      | .access => .inl held
      | .refresh => .inr held⟩

namespace Transcript

variable {calls : Transcript}

theorem filterMap_minted? (calls : Transcript) :
    calls.filterMap Made.minted? = (calls.tokens .refresh).map SignedToken.signature := by
  rw [tokens, List.map_filterMap]
  congr 1
  funext made
  rcases made with ⟨call, reply⟩
  cases call with
  | mint kind => cases kind <;> cases reply <;> rfl
  | _ => rfl

theorem SignsApart.freshlyMinted (apart : calls.SignsApart) (clients : Table Client) :
    FreshlyMinted { clients } calls := by
  constructor
  · rw [filterMap_minted?]
    rw [SignsApart, List.map_append] at apart
    exact (List.nodup_append.mp apart).2.1
  · exact fun _ _ => rfl

end Transcript

theorem Made.eq_of_created? {made : Made} {signature : String} (created : made.created? = some signature) :
    ∃ session, made = ⟨.createSession .refresh signature session, .ok ()⟩ := by
  rcases made with ⟨call, reply⟩
  cases call with
  | createSession kind written session =>
    cases kind with
    | access => cases created
    | refresh =>
      cases reply with
      | error => cases created
      | ok =>
        cases created
        exact ⟨session, rfl⟩
  | _ => cases created

theorem Made.held_of_stores {made : Made} {signature : String} {session : TokenRequest}
    (stores : made.stores? .refresh = some (signature, session)) (store : Store) :
    held signature (made.effect store) = 1 := by
  obtain rfl | ⟨presented, access, refresh, rfl, rfl⟩ := Made.stores?_eq_some stores
  · rw [Made.effect, held_createSession, if_pos rfl]
  · rw [Made.effect, held_rotateSession]
    exact if_pos rfl

namespace Provider

variable {settings : Settings} {instruments : Instruments} {sent : HttpRequest → Prop} {store before after : Store}
  {clients : Table Client} {calls : Transcript} {kind : SessionKind} {signature : String} {session : TokenRequest}

/-- Refresh sessions are created by migrations alone. -/
theorem migrated_of_created (lawful : Lawful settings instruments sent store calls after)
    (created : 0 < tally Made.created? signature calls) :
    ∃ source, Migrated settings instruments sent store calls .refresh signature source := by
  obtain ⟨made, member, creates⟩ := List.countP_pos_iff.mp created
  obtain ⟨source, rfl⟩ := Made.eq_of_created? (eq_of_beq creates)
  obtain ⟨past, inside, licensed⟩ := lawful.licensed member
  cases licensed with
  | asking asks => cases asks
  | migration asked imports =>
    exact ⟨source, ⟨_, member, rfl⟩, (imports.mono inside).import asked lawful.answered.registry⟩

/-- A session of a request for no grant is that of a migration. -/
theorem migrated_of_ungranted (lawful : Lawful settings instruments sent { clients } calls after)
    (stored : EverStored { clients } calls kind signature session) (ungranted : session.grantTypes = []) :
    Migrated settings instruments sent { clients } calls kind signature session := by
  have none {grant : String} {request : TokenRequest} (ungranted : request.grantTypes = [])
      (applies : request.grantTypes.isExactly grant = true) : False := by
    rw [ungranted] at applies
    cases applies
  refine lawful.session_induction (fun kind signature session => session.grantTypes = [] →
    Migrated settings instruments sent { clients } calls kind signature session) ?_ ?_ stored ungranted
  · intro kind signature session initial
    cases kind <;> cases initial
  · intro past kind signature session inside stored _ origin ungranted
    cases origin with
    | issued _ applies | exchanged _ applies | rotated _ applies | kept _ applies => exact (none ungranted applies).elim
    | taken taken => exact ⟨stored, taken⟩

/-- A token that was taken over with a dot is found under the signature of its session. -/
theorem lives_of_taken (present : (store.sessions kind).get? signature = some session)
    (taken : Import settings instruments sent before kind signature session)
    (dot : '.' ∈ (session.field (tokenField kind)).toList) : store.Lives (session.field (tokenField kind)) := by
  cases taken with
  | @intro _ form _ _ _ _ _ signed imported =>
    have posted : session.field (tokenField kind) = field form (tokenField kind) :=
      congrArg (field · (tokenField kind)) imported.posted
    rw [posted] at dot ⊢
    rw [dotted_of_mem dot] at signed
    exact ⟨kind, signed.1 ▸ Option.isSome_of_eq_some present⟩

/-- The token of a session that an exchange has stored has been used up, and had a session of its own. -/
theorem exchanged_of_stored (lawful : Lawful settings instruments sent store calls after)
    (stored : calls.Stored kind signature session)
    (applies : session.grantTypes.isExactly RefreshGrant.name = true) :
    0 < tally Made.exchanged? (RefreshGrant.presented session) calls ∧
      ∃ found, EverStored store calls .refresh (RefreshGrant.presented session) found := by
  obtain ⟨made, member, stores⟩ := stored
  obtain ⟨accepted, access, refresh, rfl⟩ := lawful.exchange_of_stores member stores applies
  obtain ⟨found, adopts⟩ := accepted.adopts applies
  exact ⟨tally_pos member rfl, found, lawful.answered.everStored_of_found adopts.found⟩

/-- Where refresh tokens are permanent, no call takes the session of one away for good. -/
theorem held_le_effect {past : Transcript} {call : Call}
    (licensed : Licensed settings instruments.signer sent past call)
    (permanent : settings.lifespans.refreshIsPermanent = true) (reply : call.Reply) (store : Store)
    (signature : String) : held signature store ≤ held signature (Made.effect store ⟨call, reply⟩) := by
  cases licensed with
  | asking asks => rw [Made.effect_of_asking asks]
  | issue => cases reply <;> exact Nat.le_refl _
  | rotate _ _ _ temporary => cases temporary.symm.trans permanent
  | keep =>
    cases reply with
    | error => exact Nat.le_refl _
    | ok =>
      rw [Made.effect, held_rotateSession]
      split
      · exact held_le_one signature store
      · exact Nat.le_refl _
  | migration _ imports =>
    cases imports with
    | intro permitted makes =>
      cases makes with
      | now => exact Nat.le_refl _
      | access => cases reply <;> exact Nat.le_refl _
      | undo => cases reply <;> exact Nat.le_refl _
      | refresh =>
        cases reply with
        | error => exact Nat.le_refl _
        | ok => exact held_le_createSession signature store _ _

theorem held_of_everStored (lawful : Lawful settings instruments sent store calls after)
    (permanent : settings.lifespans.refreshIsPermanent = true)
    (stored : EverStored store calls .refresh signature session) : held signature after = 1 := by
  induction lawful with
  | start =>
    rcases stored with present | ⟨_, none, _⟩
    · exact held_of_contains (Option.isSome_of_eq_some present)
    · cases none
  | @next past before call earlier licensed chance ih =>
    rw [instruments.answer_effect]
    generalize (instruments.answer chance call before).1 = reply at stored ⊢
    have kept := held_le_effect licensed permanent reply before signature
    have bound := held_le_one signature (Made.effect before ⟨call, reply⟩)
    rcases stored with initial | ⟨made, member, stores⟩
    · have one := ih (.inl initial)
      omega
    · rcases List.mem_cons.mp member with rfl | old
      · exact Made.held_of_stores stores before
      · have one := ih (.inr ⟨made, old, stores⟩)
        omega

end Provider

namespace Service

open Provider

/-- A token that has been exchanged for the next is not in the store, unless a migration has brought it back. -/
theorem created_of_exchanged {settings : Settings} {instruments : Instruments} {clients : Table Client}
    (events : List Event) (temporary : settings.lifespans.refreshIsPermanent = false) {presented : String} :
    let after := course (.standard settings instruments.signer) instruments { clients } events
    after.calls.SignsApart → 0 < tally Made.exchanged? presented after.calls →
      after.store.refresh.contains presented = true → 0 < tally Made.created? presented after.calls := by
  intro after apart exchanged held
  have sound : Sound instruments (Job.policy settings instruments.signer temporary) { clients } after :=
    course_sound _ _ events
  have balance := sound.answered.balanced presented
  have rotated := sound.rotated_le presented
  have once := (apart.freshlyMinted clients).at_most_one presented
  have absent : TokenServer.held presented { clients } = 0 := rfl
  have present := held_of_contains held
  rw [Balanced] at balance
  -- Both the exchange and the session that is held have to be paid for, and rotation pays for one of them at most.
  omega

/-- Where refresh tokens are permanent, the text in any session that an exchange has stored stays good. Where they
are replaced, it is good only if a migration has stored a session under its signature. The text in a session that a
migration has stored is good if it has a dot, and not good if it has none. -/
theorem raw_token_of_exchange (settings : Settings) (instruments : Instruments) (clients : Table Client)
    (events : List Event) {kind : SessionKind} {signature : String} {session : TokenRequest} :
    let after := course (.standard settings instruments.signer) instruments { clients } events
    (after.store.sessions kind).get? signature = some session →
      (session.grantTypes.isExactly RefreshGrant.name = true →
        (settings.lifespans.refreshIsPermanent = true → after.store.Lives (session.field RefreshGrant.name)) ∧
        (settings.lifespans.refreshIsPermanent = false → after.calls.SignsApart →
          after.store.Lives (session.field RefreshGrant.name) → ∃ other source,
            Migrated settings instruments (fun http => .migrate http ∈ events) { clients } after.calls other
              (RefreshGrant.presented session) source)) ∧
      (session.grantTypes = [] →
        Migrated settings instruments (fun http => .migrate http ∈ events) { clients } after.calls kind signature
          session ∧
        ('.' ∈ (session.field (tokenField kind)).toList → after.store.Lives (session.field (tokenField kind))) ∧
        ∀ secret, Signer.ofSecret secret = .ok instruments.signer →
          '.' ∉ (session.field (tokenField kind)).toList → ¬after.store.Lives (session.field (tokenField kind))) := by
  intro after present
  have lawful := (course_orderly settings instruments { clients } events).lawful
  have stored := lawful.answered.everStored present
  refine ⟨fun applies => ?_, fun ungranted => ?_⟩
  · obtain ⟨exchanged, found, had⟩ := exchanged_of_stored lawful stored.stored applies
    refine ⟨fun permanent => ⟨.refresh, contains_of_held (held_of_everStored lawful permanent had)⟩, ?_⟩
    rintro temporary apart ⟨other, live⟩
    cases other with
    | refresh =>
      exact ⟨.refresh, migrated_of_created lawful (created_of_exchanged events temporary apart exchanged live)⟩
    | access =>
      obtain ⟨issued, current⟩ := Option.isSome_iff_exists.mp live
      rcases made_or_migrated lawful (lawful.answered.everStored current) with ⟨token, member, signed⟩ | migrated
      · have differ : SessionKind.access ≠ .refresh := by decide
        have same : token.signature = RefreshGrant.presented session := signed
        rw [← same] at had ⊢
        exact ⟨.refresh, migrated_of_other lawful apart member differ had⟩
      · exact ⟨.access, migrated⟩
  · have migrated := migrated_of_ungranted lawful stored ungranted
    refine ⟨migrated, lives_of_taken present migrated.taken, ?_⟩
    rintro secret made undotted ⟨other, live⟩
    obtain ⟨current, live⟩ := Option.isSome_iff_exists.mp live
    have blank : SignedToken.signatureOf (session.field (tokenField kind)) = "" := by
      rw [SignedToken.signatureOf, SignedToken.parts?_of_undotted undotted]
    exact (lawful.isSignature made (lawful.answered.everStored live)).1 blank

/-- A permanent refresh token is stored as it is, in the session under its own signature. -/
theorem raw_token_stored :
    let clients := Specimen.migratorStore.clients
    let after := course (.standard Specimen.permanent Specimen.instruments.signer) Specimen.instruments { clients }
      (Specimen.takeOver 0 ++ Specimen.exchange 1 7)
    ∃ session, (after.store.sessions .refresh).get? "AQID" = some session ∧
      session.field RefreshGrant.name = "AQID.AQID" ∧ after.store.Lives (session.field RefreshGrant.name) := by
  decide +kernel

/-- A refresh token is exchanged and then taken over again, so that its text in the first session is good again, as
is that in its own. -/
theorem raw_token_after_exchange :
    let clients := Specimen.migratorStore.clients
    let events := Specimen.takeOver 0 ++ Specimen.exchange 1 7 ++ Specimen.takeOver 3
    let kept := course (.standard Specimen.permanent Specimen.instruments.signer) Specimen.instruments { clients }
      events
    let after := course (.standard {} Specimen.instruments.signer) Specimen.instruments { clients } events
    (∃ session, (kept.store.sessions .access).get? "BwgJ" = some session ∧
      kept.store.Lives (session.field RefreshGrant.name)) ∧
    (∃ session, (after.store.sessions .access).get? "BwgJ" = some session ∧ ∃ other source,
      Migrated {} Specimen.instruments (fun http => .migrate http ∈ events) { clients } after.calls other
        (RefreshGrant.presented session) source) ∧
    ∃ session, (after.store.sessions .refresh).get? "AQID" = some session ∧ session.grantTypes = [] ∧
      after.store.Lives (session.field (tokenField .refresh)) := by
  intro clients events kept after
  have first : ∃ session, (kept.store.sessions .access).get? "BwgJ" = some session ∧
    session.grantTypes.isExactly RefreshGrant.name = true := by decide +kernel
  have second : ∃ session, (after.store.sessions .access).get? "BwgJ" = some session ∧
    session.grantTypes.isExactly RefreshGrant.name = true ∧
      after.store.Lives (session.field RefreshGrant.name) := by decide +kernel
  have third : ∃ session, (after.store.sessions .refresh).get? "AQID" = some session ∧ session.grantTypes = [] ∧
      '.' ∈ (session.field (tokenField .refresh)).toList := by decide +kernel
  have apart : after.calls.SignsApart := by decide +kernel
  refine ⟨?_, ?_, ?_⟩
  · obtain ⟨session, present, applies⟩ := first
    obtain ⟨permanent, _⟩ :=
      (raw_token_of_exchange Specimen.permanent Specimen.instruments clients events present).1 applies
    exact ⟨session, present, permanent (by decide)⟩
  · obtain ⟨session, present, applies, lives⟩ := second
    obtain ⟨_, replaced⟩ := (raw_token_of_exchange {} Specimen.instruments clients events present).1 applies
    exact ⟨session, present, replaced (by decide) apart lives⟩
  · obtain ⟨session, present, ungranted, dot⟩ := third
    obtain ⟨_, dotted, _⟩ := (raw_token_of_exchange {} Specimen.instruments clients events present).2 ungranted
    exact ⟨session, present, ungranted, dotted dot⟩

end Service

end TokenServer
