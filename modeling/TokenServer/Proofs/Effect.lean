import TokenServer.Proofs.Provider
import TokenServer.Proofs.SignedToken
import TokenServer.Proofs.Table

/-! What a token request leaves of the store. A request that ends in an error leaves all sessions as they were,
wherever it failed; one that is answered adds its access session, and its refresh session takes the place of
the one whose token was presented. -/

namespace TokenServer

/-- The call makes no token whose signature stands for a session of its kind. -/
def Made.isAnew (store : Store) : Made → Bool
  | ⟨.mint kind, .ok token⟩ => !(store.sessions kind).contains token.signature
  | _ => true

/-- Every token made in these calls has a signature that no session of its kind is stored under. -/
def MintedAnew (store : Store) (calls : Transcript) : Prop := ∀ made ∈ calls, made.isAnew store = true

instance (store : Store) (calls : Transcript) : Decidable (MintedAnew store calls) :=
  inferInstanceAs (Decidable (∀ made ∈ calls, made.isAnew store = true))

theorem MintedAnew.free {store : Store} {calls : Transcript} (anew : MintedAnew store calls)
    {kind : SessionKind} {token : SignedToken} (made : ⟨.mint kind, .ok token⟩ ∈ calls) :
    (store.sessions kind).get? token.signature = none := by
  simpa [Made.isAnew, Table.contains] using anew _ made

/-- One entry has been added, under a key that was free. -/
structure Gained {β : Type} (before after : Table β) (key : String) (value : β) : Prop where
  free : before.get? key = none
  added : after = before.insert key value

namespace Gained

variable {β : Type} {before after : Table β} {key : String} {value : β}

theorem get?_self (gained : Gained before after key value) : after.get? key = some value := by
  rw [gained.added, Table.get?_insert_self]

theorem size (gained : Gained before after key value) : after.size = before.size + 1 := by
  rw [gained.added, Table.size_insert_of_absent gained.free]

end Gained

/-- What an answered request has done to the sessions. Either only its access session is new, or its refresh
session has taken the place of the presented one as well. -/
inductive Issued (permanent : Bool) (before after : Store) (request : TokenRequest)
    (response : TokenResponse) : Prop
  | clientCredentials (asked : request.grantTypes = [ClientCredentialsGrant.name])
      (access : Gained before.access after.access (SignedToken.signatureOf response.accessToken) request)
      (refresh : after.refresh = before.refresh)
  | refresh {next : String} (asked : request.grantTypes = [RefreshGrant.name])
      (handed : response.refreshToken? = some next)
      (access : Gained before.access after.access (SignedToken.signatureOf response.accessToken) request)
      (refresh : Gained
        (before.refresh.erase (SignedToken.signatureOf (request.field RefreshGrant.name))) after.refresh
        (SignedToken.signatureOf next) request)
      (kept : permanent = true → next = request.field RefreshGrant.name)
      (rotated : permanent = false → before.refresh.get? (SignedToken.signatureOf next) = none)

/-- What answering has done in exchange for the presented token, and by which tokens. -/
structure RefreshGrant.Exchanged (authority : TokenAuthority) (request : TokenRequest) (before after : Store)
    (calls : Transcript) (access next : SignedToken) (response : TokenResponse) : Prop where
  store : after = before.rotateSession (presented request) access.signature next.signature request
  made : ⟨.mint .access, .ok access⟩ ∈ calls
  chosen : authority.lifespans.refreshIsPermanent = true ∧
      next = ⟨request.field name, presented request⟩ ∨
    authority.lifespans.refreshIsPermanent = false ∧ ⟨.mint .refresh, .ok next⟩ ∈ calls
  handed : response.accessToken = access.token ∧ response.refreshToken? = some next.token

/-- What answering has done on behalf of the client itself. -/
structure ClientCredentialsGrant.Stored (request : TokenRequest) (before after : Store)
    (calls : Transcript) (access : SignedToken) (response : TokenResponse) : Prop where
  asked : request.grantTypes.isExactly name = true
  store : after = before.createSession .access access.signature request
  made : ⟨.mint .access, .ok access⟩ ∈ calls
  handed : response.accessToken = access.token ∧ response.refreshToken? = none

/-- What answering a request has done, by its grant. -/
inductive Answers (authority : TokenAuthority) (request : TokenRequest) (before after : Store)
    (calls : Transcript) (response : TokenResponse) : Prop
  | refresh {access next : SignedToken} (applies : request.grantTypes.isExactly RefreshGrant.name = true)
      (exchanged : RefreshGrant.Exchanged authority request before after calls access next response)
  | clientCredentials {access : SignedToken}
      (stored : ClientCredentialsGrant.Stored request before after calls access response)

namespace Specimen

def accepted : TokenRequest :=
  { id, requestedAt := ⟨0, 0⟩, client, grantedScopes := ["offline", "a"], grantTypes := ["refresh_token"]
    form := ((∅ : Table String).insert "grant_type" "refresh_token").insert "refresh_token" "AQID.AQID"
    session := { expiresAt := { accessToken := some ⟨3600, 0⟩ } } }

end Specimen

namespace Provider

variable {instruments : Instruments} {settings : Settings} {request : TokenRequest} {origin : Store}
  {stage : Stage}

theorem finish_of_made {past : Transcript} {kind : SessionKind} {token : SignedToken}
    {possible : Chance → Prop} {after : Store} (answered : Answered instruments possible origin past after)
    (made : ⟨.mint kind, .ok token⟩ ∈ past) (response : TokenResponse)
    (accessToken : response.accessToken = token.token) (tokenType : response.tokenType = "bearer") :
    finish (.ok .handled, response) = .ok response := by
  obtain ⟨chance, _, same⟩ := answered.made made
  cases same
  have complete : response.isComplete = true := by
    simp [TokenResponse.isComplete, accessToken, tokenType, SignedToken.sign_ne_empty]
  exact if_pos complete

variable (settings) in
/-- Filling a response for a refresh token either changes nothing or makes the one exchange. -/
theorem respond_refresh_effect (applies : request.grantTypes.isExactly RefreshGrant.name = true)
    (answered : Answered instruments (fun _ => True) origin stage.calls stage.store) :
    let final := instruments.perform ((standard settings instruments.signer).respond request).run stage
    (∃ error, final.1 = .error error ∧ final.2.store = stage.store ∧ RefreshGrant.Unfilled
        (authority settings instruments.signer) request stage.calls final.2.calls error) ∨
      ∃ access next response, final.1 = .ok response ∧
        RefreshGrant.Exchanged (authority settings instruments.signer) request stage.store final.2.store
          final.2.calls access next response := by
  intro final
  have led : Answered instruments (fun _ => True) origin final.2.calls final.2.store :=
    instruments.perform_answered _ (fun _ _ => trivial) answered
  obtain ⟨ending, ends, finished⟩ :=
    (respond_refresh_ends settings instruments.signer applies stage.calls).ended instruments
  change RefreshGrant.Ends _ request stage.calls {} final.2.calls ending at ends
  change final.1 = _ at finished
  have effects := led.effects
  rw [answered.effects]
  generalize final.2.calls = calls at *
  generalize final.2.store = after at *
  rw [effects, finished]
  -- Of the calls, only the exchange of the sessions writes, and no attempt fails behind it.
  cases ends with
  | @unfilled error unfilled =>
    refine .inl ⟨error, rfl, ?_, unfilled⟩
    cases unfilled with
    | accessUnmade | refreshUnmade => rfl
    | refused next => cases next <;> rfl
  | filled fills =>
    cases fills with
    | @intro access refresh past now next =>
      have made : ⟨.mint .access, .ok access⟩ ∈ past := by cases next <;> simp
      have complete := finish_of_made led (List.mem_cons_of_mem _ (List.mem_cons_of_mem _ made))
        (RefreshGrant.filled (authority settings instruments.signer) request access.token refresh.token now {})
        rfl rfl
      refine .inr ⟨access, refresh, _, complete, ?_, ?_, ?_, rfl, ?_⟩
      · cases next <;> rfl
      · exact List.mem_cons_of_mem _ (List.mem_cons_of_mem _ made)
      · cases next with
        | kept permanent => exact .inl ⟨permanent, rfl⟩
        | minted rotates => exact .inr ⟨rotates, by simp⟩
      · simp [RefreshGrant.filled, TokenResponse.refreshToken?, TokenResponse.setExtra, Json.string?]

variable (settings) in
/-- Filling a response otherwise either changes nothing or stores the one access session. -/
theorem respond_other_effect (other : request.grantTypes.isExactly RefreshGrant.name = false)
    (answered : Answered instruments (fun _ => True) origin stage.calls stage.store) :
    let final := instruments.perform ((standard settings instruments.signer).respond request).run stage
    (∃ error, final.1 = .error error ∧ final.2.store = stage.store) ∨
      ∃ access response, final.1 = .ok response ∧
        ClientCredentialsGrant.Stored request stage.store final.2.store final.2.calls access response := by
  intro final
  have led : Answered instruments (fun _ => True) origin final.2.calls final.2.store :=
    instruments.perform_answered _ (fun _ _ => trivial) answered
  have ended := (respond_other_ends settings instruments.signer other stage.calls).ended instruments
  change (_ ∧ final.2.calls = stage.calls ∧ final.1 = _) ∨ _ ∧ ∃ ending,
    ClientCredentialsGrant.Ends _ request stage.calls {} final.2.calls ending ∧ final.1 = _ at ended
  have effects := led.effects
  rw [answered.effects]
  generalize final.2.calls = calls at *
  generalize final.2.store = after at *
  rw [effects]
  rcases ended with ⟨_, rfl, failed⟩ | ⟨asked, ending, ends, finished⟩
  · exact .inl ⟨_, failed, rfl⟩
  · rw [finished]
    cases ends with
    | @unfilled error unfilled =>
      refine .inl ⟨error, rfl, ?_⟩
      cases unfilled <;> rfl
    | filled fills =>
      cases fills with
      | @intro access now =>
        have made : ⟨.mint .access, .ok access⟩ ∈
            (⟨.now, now⟩ :: ⟨.createSession .access access.signature request, .ok ()⟩ ::
              ⟨.mint .access, .ok access⟩ :: stage.calls : Transcript) := by simp
        have complete := finish_of_made led made (ClientCredentialsGrant.filled
          (authority settings instruments.signer) request access.token now {}) rfl rfl
        exact .inr ⟨access, _, complete, asked, rfl, by simp, rfl, rfl⟩

theorem signature_of_made {past : Transcript} {kind : SessionKind} {token : SignedToken}
    {possible : Chance → Prop} {after : Store} (answered : Answered instruments possible origin past after)
    (made : ⟨.mint kind, .ok token⟩ ∈ past) : SignedToken.signatureOf token.token = token.signature := by
  obtain ⟨chance, _, same⟩ := answered.made made
  cases same
  exact SignedToken.signatureOf_sign _ _

theorem issued_of_exchanged {after : Store} {calls : Transcript} {access next : SignedToken}
    {response : TokenResponse} (applies : request.grantTypes.isExactly RefreshGrant.name = true)
    (answered : Answered instruments (fun _ => True) origin calls after)
    (exchanged : RefreshGrant.Exchanged (authority settings instruments.signer) request origin after calls
      access next response)
    (anew : MintedAnew origin calls) :
    Issued settings.lifespans.refreshIsPermanent origin after request response := by
  obtain ⟨stored, made, chosen, accessToken, handed⟩ := exchanged
  have signed : SignedToken.signatureOf response.accessToken = access.signature :=
    accessToken ▸ signature_of_made answered made
  have asked : request.grantTypes = [RefreshGrant.name] := WordList.isExactly_iff.mp applies
  have free : origin.access.get? access.signature = none := anew.free made
  rcases chosen with ⟨permanent, rfl⟩ | ⟨rotates, minted⟩
  · refine .refresh asked handed ⟨signed ▸ free, ?_⟩ ⟨?_, ?_⟩ (fun _ => rfl) ?_
    · rw [stored, signed]
      rfl
    · rw [Table.get?_erase]
      exact if_pos rfl
    · rw [stored]
      rfl
    · intro rotates
      cases permanent.symm.trans rotates
  · have unused : origin.refresh.get? next.signature = none := anew.free minted
    have nextSigned := signature_of_made answered minted
    refine .refresh asked handed ⟨signed ▸ free, ?_⟩ ⟨?_, ?_⟩ ?_ ?_
    · rw [stored, signed]
      rfl
    · rw [Table.get?_erase, nextSigned, unused]
      split <;> rfl
    · rw [stored, nextSigned]
      rfl
    · intro permanent
      cases permanent.symm.trans rotates
    · exact fun _ => nextSigned ▸ unused

theorem issued_of_stored {after : Store} {calls : Transcript} {access : SignedToken}
    {response : TokenResponse} (answered : Answered instruments (fun _ => True) origin calls after)
    (stored : ClientCredentialsGrant.Stored request origin after calls access response)
    (anew : MintedAnew origin calls) :
    Issued settings.lifespans.refreshIsPermanent origin after request response := by
  obtain ⟨applies, stored, made, accessToken, _⟩ := stored
  have signed : SignedToken.signatureOf response.accessToken = access.signature :=
    accessToken ▸ signature_of_made answered made
  have asked : request.grantTypes = [ClientCredentialsGrant.name] := WordList.isExactly_iff.mp applies
  have free : origin.access.get? access.signature = none := anew.free made
  refine .clientCredentials asked ⟨signed ▸ free, ?_⟩ ?_
  · rw [stored, signed]
    rfl
  · rw [stored]
    rfl

variable (settings) in
/-- Answering a request either changes nothing or does what its grant has to do. -/
theorem respond_effect (request : TokenRequest)
    (answered : Answered instruments (fun _ => True) origin stage.calls stage.store) :
    let final := instruments.perform ((standard settings instruments.signer).respond request).run stage
    (∃ error, final.1 = .error error ∧ final.2.store = stage.store) ∨
      ∃ response, final.1 = .ok response ∧ Answers (authority settings instruments.signer) request
        stage.store final.2.store final.2.calls response := by
  cases applies : request.grantTypes.isExactly RefreshGrant.name with
  | true =>
    exact (respond_refresh_effect settings applies answered).imp
      (fun ⟨error, failed, unchanged, _⟩ => ⟨error, failed, unchanged⟩)
      fun ⟨access, next, response, done, exchanged⟩ => ⟨response, done, .refresh applies exchanged⟩
  | false =>
    exact (respond_other_effect settings applies answered).imp_right
      fun ⟨access, response, done, stored⟩ => ⟨response, done, .clientCredentials stored⟩

theorem issued_of_answers {after : Store} {calls : Transcript} {response : TokenResponse}
    (answered : Answered instruments (fun _ => True) origin calls after)
    (answers : Answers (authority settings instruments.signer) request origin after calls response)
    (anew : MintedAnew origin calls) :
    Issued settings.lifespans.refreshIsPermanent origin after request response := by
  cases answers with
  | refresh applies exchanged => exact issued_of_exchanged applies answered exchanged anew
  | clientCredentials stored => exact issued_of_stored answered stored anew

theorem accepting (instruments : Instruments) (settings : Settings) (http : HttpRequest)
    (session : Session) (store : Store) (chances : Nat → Chance) :
    let final := instruments.perform ((standard settings instruments.signer).acceptRequest http session).run
      ⟨store, chances, []⟩
    final.2.store = store ∧ Answered instruments (fun _ => True) store final.2.calls final.2.store := by
  have unused : Stage.calls ⟨store, chances, []⟩ = [] := rfl
  obtain ⟨_, asking, led⟩ := Work.Meets.asked instruments (fun _ _ allowed => allowed) unused
    (acceptRequest_meets settings instruments.signer http session [])
  exact ⟨led.store_eq asking, instruments.perform_answered _ (fun _ _ => trivial) .start⟩

/-- A token request changes nothing unless it is both accepted and answered. -/
theorem answers_of_changed (instruments : Instruments) (settings : Settings) (http : HttpRequest)
    (session : Session) (store : Store) (chances : Nat → Chance) :
    let provider := standard settings instruments.signer
    let final := instruments.perform (provider.acceptRequest http session >>= provider.respond).run
      ⟨store, chances, []⟩
    final.2.store = store ∨ ∃ request response, final.1 = .ok response ∧
      Answers (authority settings instruments.signer) request store final.2.store final.2.calls response := by
  intro provider final
  have composed := Attempt.perform_bind instruments (provider.acceptRequest http session) provider.respond
    ⟨store, chances, []⟩
  change final = _ at composed
  obtain ⟨kept, led⟩ := accepting instruments settings http session store chances
  rw [composed]
  split
  · next request middle accepted =>
    rw [accepted] at kept led
    rw [← kept]
    rcases respond_effect settings request led with
      ⟨_, _, unchanged⟩ | ⟨response, done, answers⟩
    · exact .inl unchanged
    · exact .inr ⟨request, response, done, answers⟩
  · next error middle refused =>
    rw [refused] at kept
    exact .inl kept

/-- Accepting a request changes nothing. Answering it either fails and changes nothing, or stores exactly the
sessions of the tokens that it hands out. -/
theorem token_request_effect (instruments : Instruments) (settings : Settings) (http : HttpRequest)
    (session : Session) (store : Store) (chances : Nat → Chance) :
    let provider := standard settings instruments.signer
    let accepting := instruments.perform (provider.acceptRequest http session).run ⟨store, chances, []⟩
    accepting.2.store = store ∧
      ∀ request, accepting.1 = .ok request →
        let answering := instruments.perform (provider.respond request).run accepting.2
        (∀ error, answering.1 = .error error → answering.2.store = store) ∧
          ∀ response, answering.1 = .ok response → MintedAnew store answering.2.calls →
            Issued settings.lifespans.refreshIsPermanent store answering.2.store request response := by
  intro provider accepting
  obtain ⟨kept, led⟩ := Provider.accepting instruments settings http session store chances
  refine ⟨kept, fun request accepted => ?_⟩
  intro answering
  have after : Answered instruments (fun _ => True) store answering.2.calls answering.2.store :=
    instruments.perform_answered _ (fun _ _ => trivial) led
  have effect := respond_effect settings request led
  change accepting.2.store = store at kept
  rw [kept] at effect
  rcases effect with ⟨error, failed, unchanged⟩ | ⟨response, done, answers⟩
  · exact ⟨fun _ _ => unchanged, fun response done => nomatch failed.symm.trans done⟩
  · refine ⟨fun error failed => (nomatch done.symm.trans failed), fun other same anew => ?_⟩
    cases done.symm.trans same
    exact issued_of_answers after answers anew

theorem issued_specimen :
    let provider := standard {} Specimen.instruments.signer
    let store := Specimen.store ["offline", "a"] ⟨0, 0⟩
    let accepting := Specimen.instruments.perform
      (provider.acceptRequest (Specimen.refreshPost "AQID.AQID") {}).run ⟨store, Specimen.chances, []⟩
    let answering := Specimen.instruments.perform (provider.respond Specimen.accepted).run accepting.2
    accepting.1 = .ok Specimen.accepted ∧ answering.1 = .ok Specimen.response ∧
      MintedAnew store answering.2.calls ∧
      Issued false store answering.2.store Specimen.accepted Specimen.response := by
  intro provider store accepting answering
  have accepted : accepting.1 = .ok Specimen.accepted := by decide +kernel
  have answered : answering.1 = .ok Specimen.response := by decide +kernel
  have anew : MintedAnew store answering.2.calls := by decide +kernel
  obtain ⟨_, effect⟩ := token_request_effect Specimen.instruments {} (Specimen.refreshPost "AQID.AQID") {}
    store Specimen.chances
  exact ⟨accepted, answered, anew, (effect _ accepted).2 _ answered anew⟩

end Provider

end TokenServer
