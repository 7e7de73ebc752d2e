import Mathlib.Control.Monad.Basic
import TokenServer.Proofs.Provider

/-! Which refusals of refresh tokens look alike. A token that a client has no claim to is refused with one
error, unless the session under its signature shows through: the age and the scopes of a session are judged
before the token's code and its owner are. -/

namespace TokenServer.RefreshGrant

/-- A client has no claim to the token. -/
inductive Unentitled (authority : TokenAuthority) (store : Store) (client : Client) (token : String) :
    Prop
  | unknown (absent : store.refresh.get? (SignedToken.signatureOf token) = none)
  | forged (unsigned : authority.signer.validate token ≠ .ok ())
  | foreign {session : TokenRequest}
      (stored : store.refresh.get? (SignedToken.signatureOf token) = some session)
      (owned : session.client.id ≠ client.id)

/-- What shows of the session under a token's signature. -/
inductive Standing where
  | plain
  | expired
  | undated
  | online
  deriving Repr, DecidableEq

def Standing.error : Standing → OAuthError
  | .plain => .refreshTokenInvalid
  | .expired => .refreshTokenExpired
  | .undated => .expiryOutsideCalendar
  | .online => .offlineNotGranted

theorem Standing.error_injective {first second : Standing} (same : first.error = second.error) :
    first = second := by
  cases first <;> cases second <;> first | rfl | cases same

theorem Standing.reply_injective {first second : Standing}
    (same : first.error.reply = second.error.reply) : first = second := by
  revert same
  cases first <;> cases second <;> decide +kernel

variable (authority : TokenAuthority)

def standing (store : Store) (token : String) (now : Instant) : Standing :=
  match store.refresh.get? (SignedToken.signatureOf token) with
  | none => .plain
  | some session =>
    match isTooOld authority session now with
    | .error _ => .undated
    | .ok true => .expired
    | .ok false => if session.grantedScopes.contains offlineScope then .plain else .online

variable {authority} {store : Store} {request : TokenRequest} {session : TokenRequest} {now later : Instant}

theorem isTooOld_error {error : OAuthError} (failed : isTooOld authority session now = .error error) :
    error = .expiryOutsideCalendar := by
  rw [isTooOld] at failed
  split at failed
  · cases failed
  · split at failed <;> cases failed
    rfl

/-- A token with a session that the client has no claim to is refused as its standing says. -/
theorem judge_of_unentitled
    (unentitled : Unentitled authority store request.client (request.field name))
    (stored : store.refresh.get? (presented request) = some session) :
    judge authority request session now later =
      .error (standing authority store (request.field name) now).error := by
  rw [judge, standing, show store.refresh.get? (SignedToken.signatureOf (request.field name)) = _
    from stored]
  dsimp only
  cases age : isTooOld authority session now with
  | error error => rw [isTooOld_error age]; rfl
  | ok tooOld =>
    cases tooOld with
    | true => rfl
    | false =>
      cases offline : session.grantedScopes.contains offlineScope with
      | false => rfl
      | true =>
        cases checked : check authority request later with
        | error error => rfl
        | ok =>
          have foreign : session.client.id ≠ request.client.id := by
            cases unentitled with
            | unknown absent => cases absent.symm.trans stored
            | forged unsigned => exact absurd (signed_of_check checked) unsigned
            | foreign found owned =>
              cases found.symm.trans stored
              exact owned
          exact if_pos foreign

/-- While the clock stands still and nothing fails, the refusal is that of the token's standing. -/
theorem validate_of_unentitled (instruments : Instruments) (request : TokenRequest) (chances : Nat → Chance)
    (applies : request.grantTypes.isExactly name = true)
    (listed : request.client.grantTypes.contains name = true)
    (unentitled : Unentitled authority store request.client (request.field name))
    (sound : ∀ number, (chances number).failure = none)
    (steady : ∀ number, (chances number).instant = now) :
    (instruments.perform ((validate authority).apply request) ⟨store, chances, []⟩).1 =
      (.error (standing authority store (request.field name) now).error, request) := by
  have unused : Stage.calls ⟨store, chances, []⟩ = [] := rfl
  obtain ⟨judged, asking, ledTo⟩ := Work.Meets.asked instruments (fun _ _ allowed => allowed) unused
    (validate_meets authority applies [])
  have unfailing : ∀ chance, Stage.Offers ⟨store, chances, []⟩ chance → chance.failure = none := by
    rintro chance ⟨number, rfl⟩
    exact sound number
  have still : ∀ {instant}, ⟨.now, instant⟩ ∈ (instruments.perform ((validate authority).apply request)
      ⟨store, chances, []⟩).2.calls → instant = now := by
    intro instant asked
    obtain ⟨chance, ⟨number, rfl⟩, rfl⟩ := ledTo.told asked
    exact steady number
  generalize (instruments.perform ((validate authority).apply request) ⟨store, chances, []⟩).1 = result
    at judged
  cases judged with
  | unlisted refused => cases listed.symm.trans refused
  | @unloaded error _ missed =>
    have reply := ledTo.lookedUp asking unfailing missed
    rw [Store.findSession] at reply
    split at reply
    · cases reply
    · next absent =>
      cases reply
      rw [standing, show store.refresh.get? (SignedToken.signatureOf (request.field name)) = _ from absent]
      rfl
  | @refused session first second error looked asked judged =>
    have stored := ledTo.stored asking looked.found
    cases still looked.asked
    rw [judge_of_unentitled unentitled stored] at judged
    cases judged
    rfl
  | @admitted session first second last looked asked judged _ =>
    have stored := ledTo.stored asking looked.found
    rw [judge_of_unentitled unentitled stored] at judged
    cases judged

/-- At one instant, two tokens that a client has no claim to are refused alike exactly if they have the same
standing, which for a token that is not stored is to be plain. -/
theorem look_alike_iff (instruments : Instruments) (first second : TokenRequest) (chances others : Nat → Chance)
    (sameClient : first.client = second.client)
    (applies : first.grantTypes.isExactly name = true ∧ second.grantTypes.isExactly name = true)
    (listed : first.client.grantTypes.contains name = true)
    (unentitled : Unentitled authority store first.client (first.field name) ∧
      Unentitled authority store first.client (second.field name))
    (sound : ∀ number, (chances number).failure = none ∧ (others number).failure = none)
    (steady : ∀ number, (chances number).instant = now ∧ (others number).instant = now) :
    ∃ one other,
      (instruments.perform ((validate authority).apply first) ⟨store, chances, []⟩).1.1 = .error one ∧
      (instruments.perform ((validate authority).apply second) ⟨store, others, []⟩).1.1 = .error other ∧
      (one = other ↔ standing authority store (first.field name) now =
        standing authority store (second.field name) now) ∧
      (one.status = other.status ∧ one.reply = other.reply ↔
        standing authority store (first.field name) now =
          standing authority store (second.field name) now) := by
  have refused := validate_of_unentitled instruments first chances applies.1 listed
    unentitled.1 (fun number => (sound number).1) fun number => (steady number).1
  have refusedToo := validate_of_unentitled instruments second others applies.2
    (sameClient ▸ listed) (sameClient ▸ unentitled.2) (fun number => (sound number).2)
    fun number => (steady number).2
  refine ⟨_, _, congrArg Prod.fst refused, congrArg Prod.fst refusedToo, ?_, ?_⟩
  · constructor
    · exact Standing.error_injective
    · intro same
      rw [same]
  · constructor
    · intro told
      exact Standing.reply_injective told.2
    · intro same
      rw [same]
      exact ⟨rfl, rfl⟩

/-- A forged token and one that nobody knows are told apart by the scopes of a stored session. -/
theorem forged_told_apart :
    Unentitled Specimen.authority (Specimen.store [] ⟨0, 0⟩) Specimen.client "BAUG.AQID" ∧
    Unentitled Specimen.authority (Specimen.store [] ⟨0, 0⟩) Specimen.client "BAUG.BAUG" ∧
    (Specimen.instruments.perform ((validate Specimen.authority).apply (Specimen.presenting "BAUG.AQID"))
      ⟨Specimen.store [] ⟨0, 0⟩, Specimen.chances, []⟩).1.1 = .error .offlineNotGranted ∧
    (Specimen.instruments.perform ((validate Specimen.authority).apply (Specimen.presenting "BAUG.BAUG"))
      ⟨Specimen.store [] ⟨0, 0⟩, Specimen.chances, []⟩).1.1 = .error .refreshTokenInvalid ∧
    OAuthError.offlineNotGranted.reply ≠ OAuthError.refreshTokenInvalid.reply := by
  refine ⟨.forged ?_, .unknown ?_, ?_, ?_, ?_⟩ <;> decide +kernel

theorem forged_look_alike :
    ∃ one other,
      (Specimen.instruments.perform ((validate Specimen.authority).apply (Specimen.presenting "BAUG.AQID"))
        ⟨Specimen.store ["offline"] ⟨0, 0⟩, Specimen.chances, []⟩).1.1 = .error one ∧
      (Specimen.instruments.perform ((validate Specimen.authority).apply (Specimen.presenting "BAUG.BAUG"))
        ⟨Specimen.store ["offline"] ⟨0, 0⟩, Specimen.chances, []⟩).1.1 = .error other ∧
      one.status = other.status ∧ one.reply = other.reply := by
  have unentitled : Unentitled Specimen.authority (Specimen.store ["offline"] ⟨0, 0⟩) Specimen.client
        "BAUG.AQID" ∧
      Unentitled Specimen.authority (Specimen.store ["offline"] ⟨0, 0⟩) Specimen.client "BAUG.BAUG" :=
    ⟨.forged (by decide +kernel), .unknown (by decide +kernel)⟩
  have still : ∀ number, (Specimen.chances number).instant = ⟨0, 0⟩ := fun _ => rfl
  obtain ⟨one, other, refused, refusedToo, _, told⟩ := look_alike_iff Specimen.instruments
    (Specimen.presenting "BAUG.AQID") (Specimen.presenting "BAUG.BAUG") Specimen.chances Specimen.chances
    rfl (by decide) (by decide) unentitled (fun _ => ⟨rfl, rfl⟩) fun number => ⟨still number, still number⟩
  exact ⟨one, other, refused, refusedToo, told.mpr (by decide +kernel)⟩

end TokenServer.RefreshGrant
