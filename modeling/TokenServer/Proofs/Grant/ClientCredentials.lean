import TokenServer.Grant.ClientCredentials
import TokenServer.Proofs.Contract

/-! What the client credentials grant asks for. Accepting a request asks for the time alone; filling a
response stores one access session, and no refresh token comes with it. -/

namespace TokenServer.ClientCredentialsGrant

variable (authority : TokenAuthority) (request : TokenRequest)

inductive Judged (past : Transcript) : Except OAuthError Outcome × TokenRequest → Prop
  | refused {error : OAuthError} (reason : refusal? request = some error) :
      Judged past (.error error, request)
  | admitted {now : Instant} (accepts : refusal? request = none) (asked : ⟨.now, now⟩ ∈ past) :
      Judged past (.ok .handled, (request.grantScopes request.requestedScopes).setExpiry .accessToken
        (now.plusSeconds authority.lifespans.accessSeconds))

inductive Asks (before : Transcript) : Transcript → Call → Prop
  | access : Asks before before (.mint .access)
  | create {access : SignedToken} :
      Asks before (⟨.mint .access, .ok access⟩ :: before)
        (.createSession .access access.signature request)
  | now {past : Transcript} : Asks before past .now

def filled (access : String) (now : Instant) (response : TokenResponse) : TokenResponse :=
  { response with
    accessToken := access
    tokenType := "bearer"
    expiresIn := some (request.secondsLeft .accessToken authority.lifespans.accessSeconds now)
    scopes := request.grantedScopes }

/-- How a response has been filled: with the token under whose signature the session is stored. -/
inductive Fills (before : Transcript) (blank : TokenResponse) : Transcript → TokenResponse → Prop
  | intro {access : SignedToken} {now : Instant} :
      Fills before blank
        (⟨.now, now⟩ :: ⟨.createSession .access access.signature request, .ok ()⟩ ::
          ⟨.mint .access, .ok access⟩ :: before)
        (filled authority request access.token now blank)

/-- Why a response could not be filled. Whatever was asked for, nothing has been stored. -/
inductive Unfilled (before : Transcript) : Transcript → OAuthError → Prop
  | unmade {error : CryptoError} :
      Unfilled before (⟨.mint .access, .error error⟩ :: before) (.mintingFailed (.crypto error))
  | refused {access : SignedToken} {cause : StoreError} :
      Unfilled before
        (⟨.createSession .access access.signature request, .error cause⟩ ::
          ⟨.mint .access, .ok access⟩ :: before)
        (.sessionFailed cause)

inductive Ends (before : Transcript) (blank : TokenResponse) :
    Transcript → Except OAuthError Outcome × TokenResponse → Prop
  | unfilled {past : Transcript} {error : OAuthError} (unfilled : Unfilled request before past error) :
      Ends before blank past (.error error, blank)
  | filled {past : Transcript} {response : TokenResponse}
      (fills : Fills authority request before blank past response) :
      Ends before blank past (.ok .handled, response)

variable {request}

theorem apply_validate_of_other (other : request.grantTypes.isExactly name = false) :
    (validate authority).apply request = .done (.ok .notApplicable, request) := by
  change Edit.apply (if !request.grantTypes.isExactly name then _ else _) request = _
  rw [other]
  rfl

variable {authority} in
/-- An accepted request is the one that came, with the scopes that it asked for. -/
theorem Judged.accepted {past : Transcript} {accepted : TokenRequest}
    (judged : Judged authority request past (.ok .handled, accepted)) :
    refusal? request = none ∧ accepted.grantTypes = request.grantTypes ∧
      accepted.grantedScopes = request.grantedScopes.grantAll request.requestedScopes := by
  cases judged with
  | admitted accepts asked => exact ⟨accepts, rfl, rfl⟩

theorem apply_populate_of_other (other : request.grantTypes.isExactly name = false)
    (response : TokenResponse) :
    (populate authority request).apply response = .done (.ok .notApplicable, response) := by
  simp only [populate, other, Bool.not_false, if_true]
  rfl

theorem validate_ends (applies : request.grantTypes.isExactly name = true) (before : Transcript) :
    Work.Meets ⟨fun _ call => call.isWrite = false, fun past result => Judged authority request past result ∧
      (result.1 = .ok .handled → result.2.Timed authority.lifespans past)⟩
      ((validate authority).apply request) before := by
  change Work.Meets _ (Edit.apply (if !request.grantTypes.isExactly name then _ else _) request) before
  rw [applies]
  cases reason : refusal? request with
  | some error => exact ⟨.refused reason, nofun⟩
  | none => exact ⟨rfl, fun now => ⟨.admitted reason List.mem_cons_self, fun _ => ⟨now, before, rfl, rfl⟩⟩⟩

theorem populate_ends (applies : request.grantTypes.isExactly name = true) (blank : TokenResponse)
    (before : Transcript) :
    Work.Meets ⟨Asks request before, Ends authority request before blank⟩
      ((populate authority request).apply blank) before := by
  change Work.Meets _ (Edit.apply (if !request.grantTypes.isExactly name then _ else _) blank) before
  rw [applies]
  refine ⟨.access, fun minted => ?_⟩
  cases minted with
  | error error => exact .unfilled .unmade
  | ok access =>
    refine ⟨.create, fun created => ?_⟩
    cases created with
    | error cause => exact .unfilled .refused
    | ok => exact ⟨.now, fun now => .filled .intro⟩

end TokenServer.ClientCredentialsGrant
