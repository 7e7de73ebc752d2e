import TokenServer.Proofs.Exchange

/-! Chains of exchanges: a client keeps presenting the refresh token that it was handed last. As long as it does
so in time and nobody meddles with the tokens, every exchange succeeds, and none of them adds to its rights. -/

namespace TokenServer

namespace Round

variable (instruments : Instruments) (settings : Settings)

def handed (round : Round) : String :=
  ((round.exchange instruments settings).1.toOption.bind TokenResponse.refreshToken?).getD ""

def after (round : Round) : Store := (round.exchange instruments settings).2.store

/-- The token that each round is about: at first the given one, then what the round before has handed out. -/
def presented (token : String) (rounds : Nat → Round) : Nat → String
  | 0 => token
  | number + 1 => (rounds number).handed instruments settings

/-- All tokens that a round makes have keys with something to them, and signatures that are not in use. -/
structure Fresh (round : Round) : Prop where
  anew : MintedAnew round.store (round.exchange instruments settings).2.calls
  keyed : ∀ number, (round.chances number).key ≠ []

/-- In the second round the client presents what the first has handed out, with its session as it was stored then.
Nothing fails, and all is in time. -/
structure Follows (client : Client) (first second : Round) : Prop where
  presents : ∃ form credentials,
    Presentation second.http form credentials (first.handed instruments settings) ∧
      Known instruments.hasher second.store credentials client
  untouched :
    let signature := SignedToken.signatureOf (first.handed instruments settings)
    second.store.refresh.get? signature = (first.after instruments settings).refresh.get? signature
  inTime : ∀ session, (first.after instruments settings).refresh.get?
      (SignedToken.signatureOf (first.handed instruments settings)) = some session →
    RefreshGrant.InTime settings.lifespans session second.session
      (second.acceptance instruments settings).2.calls.readings
  sound : ∀ number, (second.chances number).failure = none

/-- A round succeeds and hands on what the first session says. -/
def Carries (client : Client) (token : String) (session : TokenRequest) (round : Round) : Prop :=
  ∃ response successor, (round.exchange instruments settings).1 = .ok response ∧
    Renewed settings.lifespans.refreshIsPermanent session successor token (round.handed instruments settings)
      round.store (round.after instruments settings) response ∧
    RefreshGrant.Entitled instruments.signer (round.after instruments settings) client
      (round.handed instruments settings) successor

variable {instruments settings} {client : Client} {token : String} {round : Round} {form : Table String}
  {credentials : Credentials}

theorem carries_of_exchanged (coded : instruments.signer.Coded)
    (presentation : Presentation round.http form credentials token)
    (registered : round.store.clients.get? credentials.id = some client) {response : TokenResponse}
    (done : (round.exchange instruments settings).1 = .ok response) (fresh : round.Fresh instruments settings) :
    ∃ session, RefreshGrant.Entitled instruments.signer round.store client token session ∧
      round.Carries instruments settings client token session := by
  obtain ⟨session, successor, next, entitled, renewed, again⟩ :=
    renewed_of_exchanged presentation registered done fresh.anew fresh.keyed coded
  have same : round.handed instruments settings = next := by
    rw [handed, done]
    exact congrArg (Option.getD · "") renewed.handed
  rw [← same] at renewed again
  exact ⟨session, entitled, response, successor, done, renewed, again⟩

theorem Carries.next {session : TokenRequest} {second : Round}
    (coded : instruments.signer.Coded)
    (carries : round.Carries instruments settings client token session)
    (follows : Follows instruments settings client round second) (fresh : second.Fresh instruments settings) :
    second.Carries instruments settings client (round.handed instruments settings) session := by
  obtain ⟨response, successor, done, renewed, again⟩ := carries
  obtain ⟨form, credentials, presentation, known⟩ := follows.presents
  have entitled : RefreshGrant.Entitled instruments.signer second.store client
      (round.handed instruments settings) successor :=
    { again with stored := follows.untouched.trans again.stored }
  obtain ⟨response, done⟩ := exchanged_of_entitled presentation known entitled
    (follows.inTime successor again.stored) follows.sound
  obtain ⟨found, entitledToo, response, successor', done, renewedToo, onwards⟩ :=
    carries_of_exchanged coded presentation known.registered done fresh
  -- What the second round has found is what the first has stored, so that the one inherits by way of the other.
  cases entitled.stored.symm.trans entitledToo.stored
  have inherits := renewed.inherits.trans renewedToo.inherits
  exact ⟨response, successor', done, { renewedToo with inherits }, onwards⟩

/-- Whatever happens between two rounds: if the first succeeds and each follows the one before, all succeed. None
hands on more than the first session says, and each stores one access session more and no refresh session more. -/
theorem chain_alive (coded : instruments.signer.Coded) (rounds : Nat → Round) (count : Nat)
    (presentation : Presentation (rounds 0).http form credentials token)
    (registered : (rounds 0).store.clients.get? credentials.id = some client) {response : TokenResponse}
    (done : ((rounds 0).exchange instruments settings).1 = .ok response)
    (follows : ∀ number < count, Follows instruments settings client (rounds number) (rounds (number + 1)))
    (fresh : ∀ number ≤ count, (rounds number).Fresh instruments settings) :
    ∃ session, (rounds 0).store.refresh.get? (SignedToken.signatureOf token) = some session ∧
      (∀ number ≤ count, (rounds number).Carries instruments settings client
        (presented instruments settings token rounds number) session) ∧
      (settings.lifespans.refreshIsPermanent = true →
        ∀ number ≤ count, (rounds number).handed instruments settings = token) ∧
      ((∀ number < count, (rounds (number + 1)).store = (rounds number).after instruments settings) →
        ((rounds count).after instruments settings).refresh.size = (rounds 0).store.refresh.size ∧
        ((rounds count).after instruments settings).access.size =
          (rounds 0).store.access.size + (count + 1)) := by
  obtain ⟨session, entitled, begun⟩ :=
    carries_of_exchanged coded presentation registered done (fresh 0 (Nat.zero_le _))
  -- Each round is compared with the first session, not with that of the round before.
  have carries : ∀ number ≤ count, (rounds number).Carries instruments settings client
      (presented instruments settings token rounds number) session := by
    intro number within
    induction number with
    | zero => exact begun
    | succ number ih => exact (ih (Nat.le_of_lt within)).next coded (follows number within) (fresh _ within)
  refine ⟨session, entitled.stored, carries, fun permanent number within => ?_, fun undisturbed => ?_⟩
  · induction number with
    | zero =>
      obtain ⟨_, _, _, renewed, _⟩ := carries 0 within
      exact renewed.kept permanent
    | succ number ih =>
      obtain ⟨_, _, _, renewed, _⟩ := carries (number + 1) within
      exact (renewed.kept permanent).trans (ih (Nat.le_of_lt within))
  · have sizes : ∀ number ≤ count,
        ((rounds number).after instruments settings).refresh.size = (rounds 0).store.refresh.size ∧
        ((rounds number).after instruments settings).access.size =
          (rounds 0).store.access.size + (number + 1) := by
      intro number within
      induction number with
      | zero =>
        obtain ⟨_, _, _, renewed, _⟩ := carries 0 within
        exact ⟨renewed.refresh, renewed.access⟩
      | succ number ih =>
        obtain ⟨same, grown⟩ := ih (Nat.le_of_lt within)
        obtain ⟨_, _, _, renewed, _⟩ := carries (number + 1) within
        rw [renewed.refresh, renewed.access, undisturbed number within]
        exact ⟨same, congrArg (· + 1) grown⟩
    exact sizes count (Nat.le_refl count)

end Round

namespace Specimen

def startForm (token : String) : Table String :=
  ((∅ : Table String).insert "grant_type" "refresh_token").insert "refresh_token" token

def firstRound : Round :=
  { http := refreshPost "AQID.AQID", store := store ["offline", "a", "a"] ⟨0, 0⟩, chances }

def secondRound : Round :=
  { http := refreshPost "CAkK.CAkK"
    store := firstRound.after instruments {}
    chances := fun number => { chances (number + 16) with instant := ⟨100, 0⟩ } }

def rounds : Nat → Round
  | 0 => firstRound
  | _ + 1 => secondRound

theorem presentation_first :
    Presentation firstRound.http (startForm "AQID.AQID") ⟨"app", "key"⟩ "AQID.AQID" := by
  constructor <;> decide +kernel

theorem presentation_second :
    Presentation secondRound.http (startForm "CAkK.CAkK") ⟨"app", "key"⟩ "CAkK.CAkK" := by
  constructor <;> decide +kernel

theorem handed_first : firstRound.handed instruments {} = "CAkK.CAkK" := by decide +kernel

theorem second_follows : Round.Follows instruments {} client firstRound secondRound := by
  refine ⟨⟨_, _, handed_first ▸ presentation_second, by decide +kernel, .inr (by decide +kernel)⟩, rfl, ?_,
    fun _ => rfl⟩
  rw [handed_first]
  intro session stored
  have dated : ((firstRound.after instruments {}).refresh.get? "CAkK").map (·.requestedAt) =
      some ⟨0, 0⟩ := by decide +kernel
  have requestedAt : session.requestedAt = ⟨0, 0⟩ := by
    rw [show (firstRound.after instruments {}).refresh.get? "CAkK" = some session from stored] at dated
    exact Option.some.inj dated
  refine ⟨.inr ⟨⟨2592000, 0⟩, ?_, by decide +kernel⟩, nofun⟩
  rw [requestedAt]
  decide +kernel

theorem rounds_fresh (number : Nat) : (rounds number).Fresh instruments {} := by
  have first : firstRound.Fresh instruments {} := ⟨by decide +kernel, fun _ => List.cons_ne_nil _ _⟩
  have second : secondRound.Fresh instruments {} := ⟨by decide +kernel, fun _ => List.cons_ne_nil _ _⟩
  cases number with
  | zero => exact first
  | succ => exact second

end Specimen

/-- Two exchanges, a hundred seconds apart. -/
theorem Round.two_exchanges :
    ∃ session, Specimen.firstRound.store.refresh.get? "AQID" = some session ∧
      Specimen.firstRound.Carries Specimen.instruments {} Specimen.client "AQID.AQID" session ∧
      Specimen.secondRound.Carries Specimen.instruments {} Specimen.client "CAkK.CAkK" session ∧
      (Specimen.secondRound.after Specimen.instruments {}).refresh.size = 1 ∧
      (Specimen.secondRound.after Specimen.instruments {}).access.size = 2 := by
  have done : ((Specimen.rounds 0).exchange Specimen.instruments {}).1 = .ok Specimen.response := by
    decide +kernel
  have coded : Specimen.instruments.signer.Coded := fun _ keyed => keyed
  have registered : (Specimen.rounds 0).store.clients.get? "app" = some Specimen.client := by decide +kernel
  have follows : ∀ number < 1, Follows Specimen.instruments {} Specimen.client (Specimen.rounds number)
      (Specimen.rounds (number + 1)) := by
    intro number within
    cases Nat.lt_one_iff.mp within
    exact Specimen.second_follows
  obtain ⟨session, stored, carries, _, sizes⟩ := chain_alive coded Specimen.rounds 1
    Specimen.presentation_first registered done follows fun number _ => Specimen.rounds_fresh number
  have signature : SignedToken.signatureOf "AQID.AQID" = "AQID" := by decide +kernel
  have undisturbed : ∀ number < 1, (Specimen.rounds (number + 1)).store =
      (Specimen.rounds number).after Specimen.instruments {} := by
    intro number within
    cases Nat.lt_one_iff.mp within
    rfl
  obtain ⟨same, grown⟩ := sizes undisturbed
  have second := carries 1 (Nat.le_refl 1)
  rw [presented, show Specimen.rounds 0 = Specimen.firstRound from rfl, Specimen.handed_first] at second
  exact ⟨session, signature ▸ stored, carries 0 (Nat.zero_le 1), second, same, grown⟩

end TokenServer
