import TokenServer.Proofs.Authorisation
import TokenServer.Proofs.Effect

/-! For how long access tokens are good. The expiry is recorded when a request is accepted; the response, which is
filled later, says how many whole seconds are left then, and whoever checks the token goes by the stored session.
All three agree, and the last instant at which the token is good is the expiry itself. -/

namespace TokenServer

namespace Instant

/-- As many whole seconds as there are from one instant to another. -/
structure WholeSeconds (first last : Instant) (seconds : Int) : Prop where
  reached : first.plusSeconds seconds ≤ last
  unreached : last < first.plusSeconds (seconds + 1)

variable {first last : Instant}

theorem inLeapSecond_plusSeconds (whole : first.inLeapSecond = false) (seconds : Int) :
    (first.plusSeconds seconds).inLeapSecond = false := by
  rw [plusSeconds, if_neg (by simp [whole])]
  exact whole

theorem leapBetween_of_whole (wholeFirst : first.inLeapSecond = false) (wholeLast : last.inLeapSecond = false) :
    leapBetween last first = 0 := by
  simp [leapBetween, wholeFirst, wholeLast]

/-- Forwards, seconds are rounded down. -/
theorem wholeSeconds_secondsSince (wholeFirst : first.inLeapSecond = false)
    (wholeLast : last.inLeapSecond = false) (ordered : first ≤ last) :
    WholeSeconds first last (last.secondsSince first) := by
  have nanos : last.nanosSince first =
      (last.second - first.second) * nanosPerSecond + (last.nanosecond - first.nanosecond) := by
    rw [nanosSince, leapBetween_of_whole wholeFirst wholeLast, Int.add_zero]
  have below : first.nanosecond < nanosPerSecond ∧ last.nanosecond < nanosPerSecond := by
    simpa [inLeapSecond] using And.intro wholeFirst wholeLast
  rw [le_iff] at ordered
  have forwards : 0 ≤ last.nanosSince first := by
    rw [nanos]
    simp only [nanosPerSecond] at below ⊢
    omega
  have rounded : last.secondsSince first = last.nanosSince first / nanosPerSecond :=
    Int.tdiv_eq_ediv_of_nonneg forwards
  simp only [nanosPerSecond] at below nanos rounded
  constructor
  · rw [plusSeconds, if_neg (by simp [wholeFirst]), le_iff]
    dsimp only
    omega
  · rw [plusSeconds, if_neg (by simp [wholeFirst]), lt_iff]
    dsimp only
    omega

end Instant

namespace TokenAuthority

variable {authority : TokenAuthority} {request : TokenRequest} {token : String} {expiry : Instant}

/-- A token that is signed is good up to and including the expiry of its session. -/
theorem perform_validateAccess (instruments : Instruments) (stage : Stage)
    (signed : authority.signer.validate token = .ok ())
    (recorded : request.session.expiresAt.get? .accessToken = some expiry) :
    (instruments.perform (authority.validateAccess request token) stage).1 =
      if expiry < (stage.chances 0).instant then .error (.expired expiry) else .ok () := by
  have told : (instruments.answer (stage.chances 0) .now stage.store).1 = (stage.chances 0).instant :=
    Instruments.answer_now _
  have checked : authority.checkSignature token = .ok () := by
    rw [checkSignature, signed]
    rfl
  rw [validateAccess, recorded]
  change authority.checkUntil token expiry (instruments.answer (stage.chances 0) .now stage.store).1 = _
  rw [told, checkUntil, checked]

end TokenAuthority

/-- What a response hands out at an instant: a token that has been made for it, and under whose signature the
session of the request is stored. -/
structure Announces (lifespans : Lifespans) (request : TokenRequest) (calls : Transcript) (after : Store)
    (response : TokenResponse) (access : SignedToken) (now : Instant) : Prop where
  made : ⟨.mint .access, .ok access⟩ ∈ calls
  stored : after.access.get? access.signature = some request
  handed : response.accessToken = access.token
  told : calls.readings.head? = some now
  left : response.expiresIn = some (request.secondsLeft .accessToken lifespans.accessSeconds now)

namespace Provider

variable {instruments : Instruments} {settings : Settings} {request : TokenRequest} {response : TokenResponse}
  {store : Store} {chances : Nat → Chance}

theorem announces_of_answered
    (answered : (instruments.perform ((standard settings instruments.signer).respond request).run
      ⟨store, chances, []⟩).1 = .ok response) :
    let final := (instruments.perform ((standard settings instruments.signer).respond request).run
      ⟨store, chances, []⟩).2
    ∃ access now, Announces settings.lifespans request final.calls final.store response access now := by
  intro final
  have effects : final.store = final.calls.foldr (fun made store => made.effect store) store :=
    (instruments.perform_answered _ (fun _ _ => trivial) .start : Answered instruments (fun _ => True) store
      final.calls final.store).effects
  cases applies : request.grantTypes.isExactly RefreshGrant.name with
  | true =>
    have fills := fills_of_refresh applies answered
    change RefreshGrant.Fills _ request [] {} final.calls response at fills
    generalize final.calls = calls at *
    cases fills with
    | @intro access refresh past now next =>
      refine ⟨access, now, ?_, ?_, rfl, rfl, rfl⟩
      · cases next <;> simp
      · rw [effects]
        cases next <;> exact Table.get?_insert_self _ _ _
  | false =>
    have fills := fills_of_other applies answered
    change ClientCredentialsGrant.Fills _ request [] {} final.calls response at fills
    generalize final.calls = calls at *
    cases fills with
    | @intro access now =>
      refine ⟨access, now, by simp, ?_, rfl, rfl, rfl⟩
      rw [effects]
      exact Table.get?_insert_self _ _ _

/-- A request is accepted, with an expiry that counts from the last reading of the clock, and answered later. Its
session is stored with this expiry, the token is good until then, and the response says how long that is, for a clock
that knows no leap seconds. -/
theorem valid_as_announced (instruments : Instruments) (settings : Settings) (coded : instruments.signer.Coded)
    (http : HttpRequest) (session : Session) (store between : Store) (chances others : Nat → Chance)
    (keyed : ∀ number, (others number).key ≠ []) :
    let provider := standard settings instruments.signer
    let accepting := instruments.perform (provider.acceptRequest http session).run ⟨store, chances, []⟩
    ∀ request, accepting.1 = .ok request →
      let answering := instruments.perform (provider.respond request).run ⟨between, others, []⟩
      ∀ response, answering.1 = .ok response →
        ∃ start now, accepting.2.calls.readings.head? = some start ∧
          answering.2.calls.readings.head? = some now ∧
          let expiry := start.plusSeconds settings.lifespans.accessSeconds
          (∃ issued, answering.2.store.access.get? (SignedToken.signatureOf response.accessToken) = some issued ∧
            issued.session.expiresAt.get? .accessToken = some expiry ∧
            ∀ later : Stage, (instruments.perform
              ((authority settings instruments.signer).validateAccess issued response.accessToken) later).1 =
                if expiry < (later.chances 0).instant then .error (.expired expiry) else .ok ()) ∧
          ∃ seconds, response.expiresIn = some seconds ∧
            (start.inLeapSecond = false → now.inLeapSecond = false → now ≤ expiry →
              now.WholeSeconds expiry seconds) := by
  intro provider accepting request accepted answering response answered
  have unused : Stage.calls ⟨store, chances, []⟩ = [] := rfl
  obtain ⟨ended, _, _⟩ := Work.Meets.asked instruments (fun _ _ asks => asks) unused
    (acceptRequest_ends settings instruments.signer http session [])
  obtain ⟨_, start, earlier, calls, recorded⟩ := ended request accepted
  have read : accepting.2.calls.readings.head? = some start := by
    rw [show accepting.2.calls = ⟨.now, start⟩ :: earlier from calls]
    rfl
  obtain ⟨access, now, announces⟩ := announces_of_answered answered
  have led : Answered instruments (Stage.Offers ⟨between, others, []⟩) between answering.2.calls
      answering.2.store := instruments.perform_answered _ (fun _ offered => offered) .start
  obtain ⟨_, ⟨number, rfl⟩, minted⟩ := led.made announces.made
  have signed : instruments.signer.validate response.accessToken = .ok () := by
    rw [announces.handed]
    cases minted
    exact Signer.validate_sign _ (keyed number) (coded _ (keyed number))
  have signature : SignedToken.signatureOf response.accessToken = access.signature := by
    rw [announces.handed, signature_of_made led announces.made]
  refine ⟨start, now, read, announces.told, ⟨request, signature ▸ announces.stored, recorded, ?_⟩, _,
    announces.left, ?_⟩
  · exact fun later => TokenAuthority.perform_validateAccess instruments later signed recorded
  · intro wholeStart wholeNow unexpired
    rw [TokenRequest.secondsLeft, recorded]
    exact Instant.wholeSeconds_secondsSince wholeNow (Instant.inLeapSecond_plusSeconds wholeStart _) unexpired

end Provider

namespace Specimen

def late (number : Nat) : Chance := { chances (number + 7) with instant := ⟨10, 500000000⟩ }

def lateResponse : TokenResponse := { response with expiresIn := some 3589 }

end Specimen

/-- The token is good for an hour from the start, of which less than 3590 seconds are left. -/
theorem Provider.valid_as_announced_late :
    let provider := standard {} Specimen.instruments.signer
    let store := Specimen.store ["offline", "a"] ⟨0, 0⟩
    let accepting := Specimen.instruments.perform
      (provider.acceptRequest (Specimen.refreshPost "AQID.AQID") {}).run ⟨store, Specimen.chances, []⟩
    let answering := Specimen.instruments.perform (provider.respond Specimen.accepted).run ⟨store, Specimen.late, []⟩
    accepting.1 = .ok Specimen.accepted ∧ answering.1 = .ok Specimen.lateResponse ∧
      (∃ issued, answering.2.store.access.get? "BwgJ" = some issued ∧ ∀ later : Stage,
        (Specimen.instruments.perform ((authority {} Specimen.instruments.signer).validateAccess issued "BwgJ.BwgJ")
          later).1 = if ⟨3600, 0⟩ < (later.chances 0).instant then .error (.expired ⟨3600, 0⟩) else .ok ()) ∧
      Instant.WholeSeconds ⟨10, 500000000⟩ ⟨3600, 0⟩ 3589 := by
  intro provider store accepting answering
  have accepted : accepting.1 = .ok Specimen.accepted := by decide +kernel
  have answered : answering.1 = .ok Specimen.lateResponse := by decide +kernel
  have coded : Specimen.instruments.signer.Coded := fun _ keyed => keyed
  obtain ⟨start, now, read, told, ⟨issued, stored, _, valid⟩, seconds, left, whole⟩ :=
    valid_as_announced Specimen.instruments {} coded (Specimen.refreshPost "AQID.AQID") {} store store
      Specimen.chances Specimen.late (fun _ => List.cons_ne_nil _ _) _ accepted _ answered
  have started : accepting.2.calls.readings.head? = some ⟨0, 0⟩ := by decide +kernel
  have filled : answering.2.calls.readings.head? = some ⟨10, 500000000⟩ := by decide +kernel
  cases read.symm.trans started
  cases told.symm.trans filled
  cases left
  have signature : SignedToken.signatureOf "BwgJ.BwgJ" = "BwgJ" := by decide +kernel
  exact ⟨accepted, answered, ⟨issued, signature ▸ stored, valid⟩, whole (by decide) (by decide) (by decide)⟩

end TokenServer
