import TokenServer.Proofs.Contract

/-! What the refresh token grant asks for. Accepting a request only asks; filling a response makes one
exchange, of the presented token's session, after the tokens for it have been made. -/

namespace TokenServer.RefreshGrant

variable (authority : TokenAuthority) (request : TokenRequest)

def presented : String := SignedToken.signatureOf (request.field name)

def check (now : Instant) : Except TokenError Unit :=
  match request.session.expiresAt.get? .refreshToken with
  | some expiry => authority.checkUntil (request.field name) expiry now
  | none => authority.checkSignature (request.field name)

/-- What is made of a session that was found for the presented token, at two instants. -/
def judge (session : TokenRequest) (now later : Instant) : Except OAuthError Unit :=
  match isTooOld authority session now with
  | .error error => .error error
  | .ok true => .error .refreshTokenExpired
  | .ok false =>
    if !session.grantedScopes.contains offlineScope then .error .offlineNotGranted
    else
      match check authority request later with
      | .error _ => .error .refreshTokenInvalid
      | .ok () => if session.client.id ≠ request.client.id then .error .refreshTokenInvalid else .ok ()

variable {authority request} in
theorem judge_eq_ok {session : TokenRequest} {now later : Instant} :
    judge authority request session now later = .ok () ↔
      isTooOld authority session now = .ok false ∧ session.grantedScopes.contains offlineScope = true ∧
        check authority request later = .ok () ∧ session.client.id = request.client.id := by
  rw [judge]
  cases isTooOld authority session now with
  | error error => simp
  | ok tooOld =>
    cases tooOld with
    | true => simp
    | false =>
      cases session.grantedScopes.contains offlineScope with
      | false => simp
      | true =>
        cases check authority request later with
        | error error => simp
        | ok => by_cases owned : session.client.id = request.client.id <;> simp [owned]

variable {authority request} in
theorem signed_of_check {now : Instant} (checked : check authority request now = .ok ()) :
    authority.signer.validate (request.field name) = .ok () := by
  have passed : authority.checkSignature (request.field name) = .ok () := by
    unfold check at checked
    split at checked
    · rw [TokenAuthority.checkUntil] at checked
      split at checked
      · cases checked
      · exact checked
    · exact checked
  unfold TokenAuthority.checkSignature at passed
  cases signed : authority.signer.validate (request.field name) with
  | error error => rw [signed] at passed; cases passed
  | ok => rfl

/-- A client that may use the grant has had its token looked up, at an instant. -/
structure Looked (past : Transcript) (session : TokenRequest) (now : Instant) : Prop where
  listed : request.client.grantTypes.contains name = true
  found : ⟨.findSession .refresh (presented request), .ok session⟩ ∈ past
  asked : ⟨.now, now⟩ ∈ past

/-- How the validation of a request ends, by what its calls came back with. -/
inductive Judged (past : Transcript) : Except OAuthError Outcome × TokenRequest → Prop
  | unlisted (refused : request.client.grantTypes.contains name = false) :
      Judged past (.error (.grantTypeNotAllowed name), request)
  | unloaded {error : StoreError} (listed : request.client.grantTypes.contains name = true)
      (missed : ⟨.findSession .refresh (presented request), .error error⟩ ∈ past) :
      Judged past (.error (loadError error), request)
  | refused {session : TokenRequest} {now later : Instant} {error : OAuthError}
      (looked : Looked request past session now) (asked : ⟨.now, later⟩ ∈ past)
      (judged : judge authority request session now later = .error error) :
      Judged past (.error error, request)
  | admitted {session : TokenRequest} {now later last : Instant}
      (looked : Looked request past session now) (asked : ⟨.now, later⟩ ∈ past)
      (judged : judge authority request session now later = .ok ()) (askedLast : ⟨.now, last⟩ ∈ past) :
      Judged past
        (.ok .handled, adopt session (last.plusSeconds authority.lifespans.accessSeconds) request)

variable {authority request} in
/-- An accepted request is the one that came, with the scopes of the session that was found. -/
theorem Judged.accepted {past : Transcript} {accepted : TokenRequest}
    (judged : Judged authority request past (.ok .handled, accepted)) :
    ∃ session now later, Looked request past session now ∧
      judge authority request session now later = .ok () ∧ accepted.grantTypes = request.grantTypes ∧
      accepted.grantedScopes = request.grantedScopes.grantAll session.grantedScopes := by
  cases judged with
  | @admitted session now later last looked asked judged askedLast =>
    exact ⟨session, now, later, looked, judged, rfl, rfl⟩

inductive Next (before : Transcript) : Transcript → SignedToken → Prop
  | kept (permanent : authority.lifespans.refreshIsPermanent = true) :
      Next before before ⟨request.field name, presented request⟩
  | minted {token : SignedToken} (rotates : authority.lifespans.refreshIsPermanent = false) :
      Next before (⟨.mint .refresh, .ok token⟩ :: before) token

inductive Asks (before : Transcript) : Transcript → Call → Prop
  | access : Asks before before (.mint .access)
  | refresh {access : SignedToken} (rotates : authority.lifespans.refreshIsPermanent = false) :
      Asks before (⟨.mint .access, .ok access⟩ :: before) (.mint .refresh)
  | exchange {access refresh : SignedToken} {past : Transcript}
      (next : Next authority request (⟨.mint .access, .ok access⟩ :: before) past refresh) :
      Asks before past
        (.exchangeSession (presented request) access.signature refresh.signature request)
  | now {past : Transcript} : Asks before past .now

def filled (access refresh : String) (now : Instant) (response : TokenResponse) : TokenResponse :=
  { response with
    accessToken := access
    tokenType := "bearer"
    expiresIn := some (request.secondsLeft .accessToken authority.lifespans.accessSeconds now)
    scopes := request.grantedScopes }.setExtra TokenResponse.refreshTokenKey (.string refresh)

/-- How a response has been filled: with the tokens whose signatures the exchange has stored. -/
inductive Fills (before : Transcript) (blank : TokenResponse) : Transcript → TokenResponse → Prop
  | intro {access refresh : SignedToken} {past : Transcript} {now : Instant}
      (next : Next authority request (⟨.mint .access, .ok access⟩ :: before) past refresh) :
      Fills before blank
        (⟨.now, now⟩ ::
          ⟨.exchangeSession (presented request) access.signature refresh.signature request, .ok ()⟩ ::
          past)
        (filled authority request access.token refresh.token now blank)

/-- Why a response could not be filled. Whatever was asked for, nothing has been exchanged. -/
inductive Unfilled (before : Transcript) : Transcript → OAuthError → Prop
  | accessUnmade {error : CryptoError} :
      Unfilled before (⟨.mint .access, .error error⟩ :: before) (.mintingFailed (.crypto error))
  | refreshUnmade {access : SignedToken} {error : CryptoError} :
      Unfilled before (⟨.mint .refresh, .error error⟩ :: ⟨.mint .access, .ok access⟩ :: before)
        (.mintingFailed (.crypto error))
  | refused {access refresh : SignedToken} {past : Transcript} {cause : StoreError}
      (next : Next authority request (⟨.mint .access, .ok access⟩ :: before) past refresh) :
      Unfilled before
        (⟨.exchangeSession (presented request) access.signature refresh.signature request,
          .error cause⟩ :: past)
        (.sessionFailed cause)

inductive Ends (before : Transcript) (blank : TokenResponse) :
    Transcript → Except OAuthError Outcome × TokenResponse → Prop
  | unfilled {past : Transcript} {error : OAuthError}
      (unfilled : Unfilled authority request before past error) : Ends before blank past (.error error, blank)
  | filled {past : Transcript} {response : TokenResponse}
      (fills : Fills authority request before blank past response) :
      Ends before blank past (.ok .handled, response)

variable {request} {blank : TokenResponse}

theorem apply_populate_of_other (other : request.grantTypes.isExactly name = false)
    (response : TokenResponse) :
    (populate authority request).apply response = .done (.ok .notApplicable, response) := by
  simp only [populate, other, Bool.not_false, if_true]
  rfl

theorem nextToken_ends {before : Transcript} {access : SignedToken} :
    Work.Meets ⟨Asks authority request before, fun past result =>
      (∃ refresh, Next authority request (⟨.mint .access, .ok access⟩ :: before) past refresh ∧
        result = (.ok refresh, blank)) ∨
      ∃ error, Unfilled authority request before past error ∧ result = (.error error, blank)⟩
      ((nextToken authority (request.field name)).apply blank) (⟨.mint .access, .ok access⟩ :: before) := by
  unfold nextToken
  cases permanent : authority.lifespans.refreshIsPermanent with
  | true =>
    rw [if_pos rfl]
    exact .inl ⟨_, .kept permanent, rfl⟩
  | false =>
    rw [if_neg (by decide)]
    refine ⟨.refresh permanent, fun minted => ?_⟩
    cases minted with
    | error error => exact .inr ⟨_, .refreshUnmade, rfl⟩
    | ok refresh => exact .inl ⟨refresh, .minted permanent, rfl⟩

theorem populate_ends (applies : request.grantTypes.isExactly name = true) (blank : TokenResponse)
    (before : Transcript) :
    Work.Meets ⟨Asks authority request before, Ends authority request before blank⟩
      ((populate authority request).apply blank) before := by
  change Work.Meets _ (Edit.apply (if !request.grantTypes.isExactly name then _ else _) blank) before
  rw [applies]
  refine ⟨.access, fun minted => ?_⟩
  cases minted with
  | error error => exact .unfilled .accessUnmade
  | ok access =>
    change Work.Meets _ (Edit.apply (nextToken authority (request.field name) >>= _) blank) _
    rw [Edit.apply_bind]
    refine .bind _ (nextToken_ends authority) ?_
    rintro past _ (⟨refresh, next, rfl⟩ | ⟨error, unfilled, rfl⟩)
    · refine ⟨.exchange next, fun exchanged => ?_⟩
      cases exchanged with
      | error cause => exact .unfilled (.refused next)
      | ok => exact ⟨.now, fun now => .filled (.intro next)⟩
    · exact .unfilled unfilled

theorem apply_validate_of_other (other : request.grantTypes.isExactly name = false) :
    (validate authority).apply request = .done (.ok .notApplicable, request) := by
  change Edit.apply (if !request.grantTypes.isExactly name then _ else _) request = _
  rw [other]
  rfl

theorem Looked.mono {past after : Transcript} {session : TokenRequest} {now : Instant}
    (looked : Looked request past session now) (kept : past ⊆ after) :
    Looked request after session now :=
  ⟨looked.listed, kept looked.found, kept looked.asked⟩

theorem validateRefresh_meets {past : Transcript} {now : Instant} (asked : ⟨.now, now⟩ ∈ past) :
    Work.Meets ⟨fun _ call => call.isWrite = false, fun after checked =>
      ∃ later, ⟨.now, later⟩ ∈ after ∧ checked = check authority request later ∧ past ⊆ after⟩
      (authority.validateRefresh request (request.field name)) past := by
  unfold TokenAuthority.validateRefresh check
  cases request.session.expiresAt.get? .refreshToken with
  | none => exact ⟨now, asked, rfl, List.Subset.refl _⟩
  | some expiry =>
    exact ⟨rfl, fun later => ⟨later, List.mem_cons_self, rfl, List.subset_cons_self _ _⟩⟩

/-- Accepting a request only asks, and the session and the time tell how it ends. -/
theorem validate_ends (applies : request.grantTypes.isExactly name = true) (before : Transcript) :
    Work.Meets ⟨fun _ call => call.isWrite = false, fun past result => Judged authority request past result ∧
      (result.1 = .ok .handled → result.2.Timed authority.lifespans past)⟩
      ((validate authority).apply request) before := by
  change Work.Meets _ (Edit.apply (if !request.grantTypes.isExactly name then _ else _) request) before
  rw [applies]
  change Work.Meets _ (Edit.apply (if !request.client.grantTypes.contains name then _ else _) request) _
  cases listed : request.client.grantTypes.contains name with
  | false => exact ⟨.unlisted listed, nofun⟩
  | true =>
    refine ⟨rfl, fun loaded => ?_⟩
    cases loaded with
    | error error => exact ⟨.unloaded listed List.mem_cons_self, nofun⟩
    | ok session =>
      refine ⟨rfl, fun now => ?_⟩
      have looked : Looked request (⟨.now, now⟩ ::
          ⟨.findSession .refresh (presented request), .ok session⟩ :: before) session now :=
        ⟨listed, List.mem_cons_of_mem _ List.mem_cons_self, List.mem_cons_self⟩
      change Work.Meets _ (Edit.apply (WorkEdit.ofExcept id (isTooOld authority session now) >>= _) _) _
      cases age : isTooOld authority session now with
      | error error => exact ⟨.refused looked looked.asked (by simp only [judge, age, id]), nofun⟩
      | ok tooOld =>
        cases tooOld with
        | true => exact ⟨.refused looked looked.asked (by simp only [judge, age]), nofun⟩
        | false =>
          change Work.Meets _ (Edit.apply
            (if !session.grantedScopes.contains offlineScope then _ else _) request) _
          cases offline : session.grantedScopes.contains offlineScope with
          | false => exact ⟨.refused looked looked.asked (by rw [judge, age, offline]; rfl), nofun⟩
          | true =>
            change Work.Meets _ (Edit.apply
              (WorkEdit.lift (authority.validateRefresh request (request.field name)) >>= _) _) _
            rw [WorkEdit.apply_lift_bind]
            refine .bind _ (validateRefresh_meets authority looked.asked) ?_
            rintro past checked ⟨later, asked, rfl, kept⟩
            cases checked : check authority request later with
            | error error =>
              exact ⟨.refused (looked.mono kept) asked (by rw [judge, age, offline, checked]; rfl), nofun⟩
            | ok =>
              change Work.Meets _ (Edit.apply
                (if session.client.id ≠ request.client.id then _ else _) request) _
              by_cases owned : session.client.id = request.client.id
              · rw [if_neg (not_not_intro owned)]
                refine ⟨rfl, fun last => ⟨?_, fun _ => ⟨last, past, rfl, rfl⟩⟩⟩
                exact .admitted (looked.mono (List.subset_cons_of_subset _ kept))
                  (List.mem_cons_of_mem _ asked)
                  (by rw [judge, age, offline, checked]; exact if_neg (not_not_intro owned))
                  List.mem_cons_self
              · rw [if_pos owned]
                exact ⟨.refused (looked.mono kept) asked
                  (by rw [judge, age, offline, checked]; exact if_pos owned), nofun⟩

theorem validate_meets (applies : request.grantTypes.isExactly name = true) (before : Transcript) :
    Work.Meets ⟨fun _ call => call.isWrite = false, Judged authority request⟩
      ((validate authority).apply request) before :=
  (validate_ends authority applies before).mono (fun _ _ asks => asks) fun _ _ ends => ends.1

end TokenServer.RefreshGrant
