import Mathlib.Data.List.Perm.Basic
import TokenServer.Proofs.Validation

/-! The order of handlers. Handlers that each serve one grant type, and pass all else by, may stand in any order: a walk
along them comes to what the walk along those comes to that the request is for, and that is one at most. Nothing is said
of what the handlers do with the requests that are for them, nor of what they do it in: the computations are the same,
and with them whatever they ask, store and answer. -/

namespace TokenServer

/-- All that a computation comes to has a property: it might as well come with the proof. -/
def Ensures {m : Type → Type} [Functor m] {α : Type} (holds : α → Prop) (action : m α) : Prop :=
  ∃ proved : m { value // holds value }, Subtype.val <$> proved = action

namespace Ensures

variable {m : Type → Type} [Monad m] [LawfulMonad m] {α β : Type} {holds weak : α → Prop} {action : m α}

theorem of_forall (always : ∀ value, holds value) : Ensures holds action :=
  ⟨(fun value => ⟨value, always value⟩) <$> action, by simp⟩

theorem mono (ensures : Ensures holds action) (imp : ∀ value, holds value → weak value) : Ensures weak action := by
  obtain ⟨proved, rfl⟩ := ensures
  exact ⟨(fun value => ⟨value.1, imp value.1 value.2⟩) <$> proved, by simp⟩

/-- How to go on matters only for what the computation may come to. -/
theorem bind_congr {next other : α → m β} (ensures : Ensures holds action)
    (same : ∀ value, holds value → next value = other value) : action >>= next = action >>= other := by
  obtain ⟨proved, rfl⟩ := ensures
  simp only [bind_map_left]
  exact congrArg (proved >>= ·) (funext fun value => same value.1 value.2)

end Ensures

theorem Work.Meets.ensures {α : Type} {contract : Contract α} {holds : α → Prop} {work : Work α} {past : Transcript}
    (meets : work.Meets contract past) (sound : ∀ past value, contract.ends past value → holds value) :
    Ensures holds work := by
  induction work generalizing past with
  | done value => exact ⟨.done ⟨value, sound past value meets⟩, rfl⟩
  | ask call next ih =>
    choose proved same using fun reply => ih reply (meets.2 reply)
    exact ⟨.ask call proved, congrArg (Work.ask call) (funext same)⟩

namespace Edit

variable {σ ι : Type} {m : Type → Type} [Monad m]

/-- Whether one of the edits has handled the value, once all have seen it. -/
def walk (edit : ι → Edit σ m Outcome) (items : List ι) : Edit σ m Bool :=
  return (← items.mapM edit).contains .handled

variable [LawfulMonad m] (edit : ι → Edit σ m Outcome)

theorem walk_cons (item : ι) (items : List ι) : walk edit (item :: items) = (do
    let outcome ← edit item
    let handled ← walk edit items
    return outcome == .handled || handled) := by
  simp only [walk, List.mapM_cons, bind_assoc, pure_bind, List.contains_cons, Bool.beq_comm]

/-- Edits that pass the value by may be left out. Whether an edit is concerned must not change on the way. -/
theorem apply_walk_filter (concerns : σ → ι → Bool)
    (passes : ∀ {state item}, concerns state item = false →
      (edit item).apply state = pure (.ok .notApplicable, state))
    (keeps : ∀ state item, Ensures (fun ending => concerns ending.2 = concerns state) ((edit item).apply state))
    (items : List ι) (state : σ) :
    (walk edit items).apply state = (walk edit (items.filter (concerns state))).apply state := by
  induction items generalizing state with
  | nil => rfl
  | cons item rest ih =>
    cases concerned : concerns state item with
    | false =>
      rw [List.filter_cons_of_neg (by simp [concerned]), walk_cons, apply_bind, passes concerned, pure_bind, ← ih]
      exact congrArg (apply · state) (bind_pure _)
    -- The edit may change the value, but not whom the value concerns: behind it the same edits are left out.
    | true =>
      rw [List.filter_cons_of_pos concerned, walk_cons, walk_cons, apply_bind, apply_bind]
      refine (keeps state item).bind_congr ?_
      rintro ⟨_ | outcome, after⟩ same
      · rfl
      · simp only [apply_bind]
        rw [ih after, same]

end Edit

section

variable {m : Type → Type} [Monad m]

/-- The handler serves requests of one grant type. It passes all others by, in both phases, and it leaves the grant
types of a request as they are. -/
structure GrantHandler.Serves (handler : GrantHandler m) (name : String) : Prop where
  passes {request : TokenRequest} (other : request.grantTypes.isExactly name = false) :
    handler.validate.apply request = pure (.ok .notApplicable, request)
  passesAgain {request : TokenRequest} (other : request.grantTypes.isExactly name = false)
    (response : TokenResponse) : (handler.populate request).apply response = pure (.ok .notApplicable, response)
  keeps (request : TokenRequest) :
    Ensures (fun ending => ending.2.grantTypes = request.grantTypes) (handler.validate.apply request)

/-- A handler with the grant type that it serves. -/
structure GrantServer (m : Type → Type) [Monad m] where
  name : String
  handler : GrantHandler m
  serves : handler.Serves name

/-- The handlers serve one grant type each, and no two the same. -/
def ServeApart (handlers : List (GrantHandler m)) : Prop :=
  ∃ servers : List (GrantServer m), handlers = servers.map (·.handler) ∧ (servers.map (·.name)).Nodup

namespace GrantServer

/-- The servers that are concerned with a request of these grant types. -/
def concernedWith (grantTypes : WordList) (servers : List (GrantServer m)) : List (GrantServer m) :=
  servers.filter (grantTypes.isExactly ·.name)

theorem concernedWith_of_unlike {grantTypes : WordList} (unlike : grantTypes.length ≠ 1)
    (servers : List (GrantServer m)) : concernedWith grantTypes servers = [] := by
  refine List.filter_eq_nil_iff.mpr fun server _ applies => unlike ?_
  rw [WordList.isExactly_iff.mp applies, List.length_singleton]

/-- Servers of different grant types are concerned one at a time, so that their order is of no account. -/
theorem concernedWith_of_perm {servers others : List (GrantServer m)} (perm : servers.Perm others)
    (distinct : (servers.map (·.name)).Nodup) (grantTypes : WordList) :
    concernedWith grantTypes servers = concernedWith grantTypes others := by
  have apart : (concernedWith grantTypes servers).Pairwise fun server other => server.name ≠ other.name :=
    (List.pairwise_map.mp distinct).filter _
  have same : (concernedWith grantTypes servers).Perm (concernedWith grantTypes others) := perm.filter _
  refine same.eq_of_pairwise (fun server other listed listedToo differ _ => absurd ?_ differ) apart
    (same.pairwise apart Ne.symm)
  have asked : grantTypes = [server.name] := WordList.isExactly_iff.mp (List.mem_filter.mp listed).2
  have askedToo : grantTypes = [other.name] := WordList.isExactly_iff.mp (List.mem_filter.mp listedToo).2
  exact (List.cons.inj (asked.symm.trans askedToo)).1

variable [LawfulMonad m] (servers : List (GrantServer m)) (request : TokenRequest)

theorem validateAll_eq_walk : validateAll (servers.map (·.handler)) = (do
    if ← Edit.walk (·.handler.validate) servers then return
    throw (.unsupportedGrantType (← get).grantTypes)) := by
  simp only [validateAll, Edit.walk, List.mapM_map, bind_assoc, pure_bind]
  rfl

theorem populateAll_eq_walk : populateAll (servers.map (·.handler)) request = (do
    let _ ← Edit.walk (·.handler.populate request) servers
    if (← get).isComplete then return
    throw .responseIncomplete) := by
  simp only [populateAll, Edit.walk, List.mapM_map, bind_assoc, pure_bind]
  rfl

theorem apply_walk_validate : (Edit.walk (·.handler.validate) servers).apply request =
    (Edit.walk (·.handler.validate) (concernedWith request.grantTypes servers)).apply request := by
  refine Edit.apply_walk_filter (fun server : GrantServer m => server.handler.validate)
    (fun request server => request.grantTypes.isExactly server.name) ?_ (fun request server => ?_) servers request
  · exact fun {_ server} other => server.serves.passes other
  · exact (server.serves.keeps request).mono fun ending same => by rw [same]

theorem apply_walk_populate (response : TokenResponse) :
    (Edit.walk (·.handler.populate request) servers).apply response =
      (Edit.walk (·.handler.populate request) (concernedWith request.grantTypes servers)).apply response := by
  refine Edit.apply_walk_filter (fun server : GrantServer m => server.handler.populate request)
    (fun _ server => request.grantTypes.isExactly server.name) ?_ (fun _ _ => ?_) servers response
  · exact fun {response server} other => server.serves.passesAgain other response
  · exact .of_forall fun _ => rfl

/-- Only those whom the request concerns take part in its validation. -/
theorem apply_validateAll : (validateAll (servers.map (·.handler))).apply request =
    (validateAll ((concernedWith request.grantTypes servers).map (·.handler))).apply request := by
  rw [validateAll_eq_walk, validateAll_eq_walk, Edit.apply_bind, Edit.apply_bind, apply_walk_validate]

/-- Only those whom the request concerns take part in filling the response to it. -/
theorem apply_populateAll (response : TokenResponse) :
    (populateAll (servers.map (·.handler)) request).apply response =
      (populateAll ((concernedWith request.grantTypes servers).map (·.handler)) request).apply response := by
  rw [populateAll_eq_walk, populateAll_eq_walk, Edit.apply_bind, Edit.apply_bind, apply_walk_populate]

theorem apply_validateAll_of_unlike (unlike : request.grantTypes.length ≠ 1) :
    (validateAll (servers.map (·.handler))).apply request =
      pure (.error (.unsupportedGrantType request.grantTypes), request) := by
  rw [apply_validateAll, concernedWith_of_unlike unlike]
  simp only [validateAll, List.map_nil, List.mapM_nil, pure_bind, List.contains_nil, Bool.false_eq_true, if_false]
  rw [Edit.apply_bind, Edit.apply_get, pure_bind]
  rfl

end GrantServer

end

namespace Grant

def name : Grant → String
  | .refresh => RefreshGrant.name
  | .clientCredentials => ClientCredentialsGrant.name

theorem serves (authority : TokenAuthority) (grant : Grant) : (grant.handler authority).Serves grant.name where
  passes other := by
    cases grant with
    | refresh => exact RefreshGrant.apply_validate_of_other authority other
    | clientCredentials => exact ClientCredentialsGrant.apply_validate_of_other authority other
  passesAgain other response := by
    cases grant with
    | refresh => exact RefreshGrant.apply_populate_of_other authority other response
    | clientCredentials => exact ClientCredentialsGrant.apply_populate_of_other authority other response
  keeps request :=
    (validation_ends authority request [] grant).ensures fun _ _ concludes => concludes.grantTypes_eq

def server (authority : TokenAuthority) (grant : Grant) : GrantServer Work :=
  ⟨grant.name, grant.handler authority, serves authority grant⟩

end Grant

theorem Provider.standard_serveApart (settings : Settings) (signer : Signer) :
    ServeApart (standard settings signer).grants := by
  let authority : TokenAuthority := ⟨signer, settings.lifespans⟩
  refine ⟨[Grant.server authority .refresh, Grant.server authority .clientCredentials], rfl, ?_⟩
  change [RefreshGrant.name, ClientCredentialsGrant.name].Nodup
  decide

/-- Handlers that serve apart, as those of the provider do, may stand in any order: what is made of a request, what its
response is filled with, and all that is asked and stored for it, is the same. A request that does not name exactly one
grant type is refused in every order, before anything has been done for it. -/
theorem order_of_no_account :
    (∀ settings signer, ServeApart (Provider.standard settings signer).grants) ∧
    ∀ {m : Type → Type} [Monad m] [LawfulMonad m] {handlers others : List (GrantHandler m)},
      ServeApart handlers → handlers.Perm others →
      (∀ request, (validateAll handlers).apply request = (validateAll others).apply request) ∧
      (∀ request response, (populateAll handlers request).apply response =
        (populateAll others request).apply response) ∧
      ∀ request : TokenRequest, request.grantTypes.length ≠ 1 → (validateAll others).apply request =
        pure (.error (.unsupportedGrantType request.grantTypes), request) := by
  refine ⟨Provider.standard_serveApart, fun {m} _ _ {handlers others} apart perm => ?_⟩
  obtain ⟨servers, rfl, distinct⟩ := apart
  -- The handlers change places with their grant types.
  obtain ⟨turned, rfl, same⟩ : Relation.Comp (· = List.map (·.handler) ·) List.Perm others servers := by
    rw [List.eq_map_comp_perm]
    exact perm.symm
  have concerned := GrantServer.concernedWith_of_perm same.symm distinct
  refine ⟨fun request => ?_, fun request response => ?_, fun request => ?_⟩
  · rw [GrantServer.apply_validateAll, concerned, ← GrantServer.apply_validateAll]
  · rw [GrantServer.apply_populateAll, concerned, ← GrantServer.apply_populateAll]
  · exact GrantServer.apply_validateAll_of_unlike turned request

/-- A refresh token that is presented to the handlers of the provider, one way round and the other. -/
theorem handlers_turned :
    let turned := [ClientCredentialsGrant.handler Specimen.authority, RefreshGrant.handler Specimen.authority]
    let request := Specimen.presenting "AQID.AQID"
    (validateAll (Provider.standard {} Specimen.instruments.signer).grants).apply request =
        (validateAll turned).apply request ∧
      (Specimen.instruments.perform ((validateAll turned).apply request)
        ⟨Specimen.store ["offline"] ⟨0, 0⟩, Specimen.chances, []⟩).1.1 = .ok () ∧
      (validateAll turned).apply { request with grantTypes := [RefreshGrant.name, RefreshGrant.name] } =
        .done (.error (.unsupportedGrantType [RefreshGrant.name, RefreshGrant.name]),
          { request with grantTypes := [RefreshGrant.name, RefreshGrant.name] }) := by
  obtain ⟨apart, handlers_alike⟩ := order_of_no_account
  obtain ⟨validated, _, refused⟩ := handlers_alike (apart {} Specimen.instruments.signer) (List.Perm.swap _ _ [])
  exact ⟨validated _, by decide +kernel, refused _ (by decide)⟩

end TokenServer
