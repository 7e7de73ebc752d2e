import TokenServer.Proofs.Chain
import TokenServer.Proofs.Origin

/-! Malformed refresh tokens. A text without a signature has the empty text for one, which is a key like any other
to the store. No session is ever stored under it: each way to store one takes its signature from a made token, from
a request that was accepted, or from a token that was seen to have one. -/

namespace TokenServer

/-- Something that has no dot. -/
def SignedToken.IsSignature (text : String) : Prop := text ≠ "" ∧ '.' ∉ text.toList

theorem SignedToken.isSignature_of_ne_empty {token : String} (signed : signatureOf token ≠ "") :
    IsSignature (signatureOf token) :=
  ⟨signed, dot_not_mem_signatureOf token⟩

theorem Signer.isSignature_sign {secret : Bytes} {signer : Signer} (made : ofSecret secret = .ok signer)
    (key : Bytes) : SignedToken.IsSignature (signer.sign key).signature := by
  rw [← SignedToken.signatureOf_sign]
  refine SignedToken.isSignature_of_ne_empty fun blank => ?_
  rw [SignedToken.signatureOf_sign] at blank
  have characters := congrArg String.toList blank
  rw [show (signer.sign key).signature.toList = armoured (signer.code key) from String.toList_ofList] at characters
  exact Base64.encode_ne_nil (code_ne_nil made key) characters

namespace Lawful

variable {settings : Settings} {instruments : Instruments} {sent : HttpRequest → Prop} {clients : Table Client}
  {store : Store} {calls : Transcript} {kind : SessionKind} {signature : String} {session : TokenRequest}
  {secret : Bytes}

/-- Signatures are made, found or seen to be there before a session is stored under them. -/
theorem isSignature (lawful : Lawful settings instruments sent { clients } calls store)
    (made : Signer.ofSecret secret = .ok instruments.signer)
    (stored : EverStored { clients } calls kind signature session) : SignedToken.IsSignature signature := by
  have signed : ∀ {kind : SessionKind} {token : SignedToken}, ⟨.mint kind, .ok token⟩ ∈ calls →
      SignedToken.IsSignature token.signature := by
    intro kind token minted
    obtain ⟨chance, _, same⟩ := lawful.answered.made minted
    cases same
    exact Signer.isSignature_sign made chance.key
  refine lawful.session_induction (fun _ signature _ => SignedToken.IsSignature signature) ?_ ?_ stored
  · intro kind signature session initial
    cases kind <;> cases initial
  · intro past kind signature session inside _ before origin
    cases origin with
    | issued _ _ minted | exchanged _ _ minted => exact signed (inside minted)
    | rotated _ _ _ minted => exact signed (inside minted)
    | kept accepted applies =>
      -- The signature is written back; a session had been found under it.
      obtain ⟨found, adopts⟩ := accepted.adopts applies
      exact before adopts.found
    | taken taken =>
      cases taken with
      | intro _ _ signed =>
        obtain ⟨rfl, given⟩ := signed
        exact SignedToken.isSignature_of_ne_empty given

theorem not_malformed_of_accepted (lawful : Lawful settings instruments sent { clients } calls store)
    (made : Signer.ofSecret secret = .ok instruments.signer) {request : TokenRequest}
    (accepted : Provider.Accepted settings instruments.signer calls request)
    (applies : request.grantTypes.isExactly RefreshGrant.name = true) :
    ¬ SignedToken.Malformed (request.field RefreshGrant.name) := by
  intro malformed
  obtain ⟨found, adopts⟩ := accepted.adopts applies
  obtain ⟨given, _⟩ := lawful.isSignature made (lawful.answered.everStored_of_found adopts.found)
  exact given (SignedToken.signatureOf_eq_empty_iff.mpr malformed)

end Lawful

namespace Service

/-- Whatever requests come in, sessions are stored under signatures alone. A malformed refresh token is therefore
never accepted, and it is answered like one that is unknown. -/
theorem malformed_refused (settings : Settings) (instruments : Instruments) (clients : Table Client)
    (events : List Event) {secret : Bytes} (made : Signer.ofSecret secret = .ok instruments.signer) :
    let after := course (.standard settings instruments.signer) instruments { clients } events
    (∀ kind signature session, (after.store.sessions kind).get? signature = some session →
      SignedToken.IsSignature signature) ∧
    (∀ task ∈ after.tasks, ∀ request, task.accepted? = some request →
      request.grantTypes.isExactly RefreshGrant.name = true →
        ¬ SignedToken.Malformed (request.field RefreshGrant.name)) ∧
    ∀ (round : Round) (form : Table String) (credentials : Credentials) (client : Client) (token : String),
      round.store = after.store → Presentation round.http form credentials token →
      Known instruments.hasher round.store credentials client →
      client.grantTypes.contains RefreshGrant.name = true →
      (∀ number, (round.chances number).failure = none) → SignedToken.Malformed token →
        (round.acceptance instruments settings).1 = .error .refreshTokenInvalid := by
  intro after
  have orderly := course_orderly settings instruments { clients } events
  have lawful := orderly.lawful
  have keyed : ∀ kind signature session, (after.store.sessions kind).get? signature = some session →
      SignedToken.IsSignature signature :=
    fun _ _ _ present => lawful.isSignature made (lawful.answered.everStored present)
  refine ⟨keyed, ?_, ?_⟩
  · intro task member request done applies
    exact lawful.not_malformed_of_accepted made (orderly.accepted member done) applies
  · intro round form credentials client token same presentation known listed sound malformed
    refine Round.refused_of_unstored presentation known listed ?_ sound
    rw [SignedToken.signatureOf_eq_empty_iff.mpr malformed, same]
    cases stored : after.store.refresh.get? "" with
    | none => rfl
    | some session => exact absurd rfl (keyed .refresh "" session stored).1

end Service

namespace Specimen

def secretive : Instruments := ⟨.clear fun _ => false, ⟨Sha512.hmacSha384 (List.replicate Signer.leastSecret 0)⟩⟩

def afterTakeOver (token : String) : Round where
  http := refreshPost token
  store := (Service.course (.standard {} secretive.signer) secretive { clients := migratorStore.clients }
    (takeOver 0)).store
  chances := chances

end Specimen

/-- A refresh token that was taken over is presented without its dot. -/
theorem Service.undotted_refused :
    let round := Specimen.afterTakeOver "AQID"
    round.store.refresh.contains "AQID" = true ∧ SignedToken.IsSignature "AQID" ∧
      SignedToken.Malformed "AQID" ∧
      (round.acceptance Specimen.secretive {}).1 = .error .refreshTokenInvalid := by
  intro round
  have stored : round.store.refresh.contains "AQID" = true := by decide +kernel
  have known : Known Specimen.secretive.hasher round.store ⟨"app", "key"⟩ Specimen.client :=
    ⟨by decide +kernel, .inr (by decide +kernel)⟩
  have presentation : Presentation round.http (Specimen.startForm "AQID") ⟨"app", "key"⟩ "AQID" := by
    constructor <;> decide +kernel
  have malformed : SignedToken.Malformed "AQID" := by decide +kernel
  obtain ⟨session, present⟩ := Option.isSome_iff_exists.mp stored
  have made : Signer.ofSecret (List.replicate Signer.leastSecret 0) = .ok Specimen.secretive.signer := rfl
  obtain ⟨keyed, _, refused⟩ := malformed_refused {} Specimen.secretive Specimen.migratorStore.clients
    (Specimen.takeOver 0) made
  exact ⟨stored, keyed .refresh "AQID" session present, malformed,
    refused round _ _ _ _ rfl presentation known (by decide) (fun _ => rfl) malformed⟩

end TokenServer
