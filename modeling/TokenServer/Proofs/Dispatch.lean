import Mathlib.Data.List.Forall2
import TokenServer.Proofs.Provider

/-! The law by which handlers are called. Nothing is known of a handler but that it does something to the value that is
passed along and to a state that all handlers share. Each finds what its predecessors have left; the first that fails
ends the walk, and without one all have had their turn. What the walks differ in is the verdict once all have passed. -/

namespace TokenServer

/-- A way to carry computations out on a state. -/
structure Execution (m : Type → Type) [Monad m] (ω : Type) where
  run {α : Type} : m α → ω → α × ω
  run_pure {α : Type} (value : α) (state : ω) : run (pure value) state = (value, state)
  run_bind {α β : Type} (action : m α) (next : α → m β) (state : ω) :
    run (action >>= next) state = run (next (run action state).1) (run action state).2

namespace Execution

/-- Computations that are changes of a state themselves. -/
def stateful (ω : Type) : Execution (StateM ω) ω where
  run action := action.run
  run_pure _ _ := rfl
  run_bind _ _ _ := rfl

/-- Work whose calls are replied to at once. -/
def replying {ω : Type} (reply : (call : Call) → ω → call.Reply × ω) : Execution Work ω where
  run := Work.run reply
  run_pure _ _ := rfl
  run_bind := Work.run_bind reply

variable {m : Type → Type} [Monad m] {σ ω α β : Type} (execution : Execution m ω)

def edit (change : Edit σ m α) (state : σ × ω) : Except OAuthError α × (σ × ω) :=
  let ending := execution.run (change.apply state.1) state.2
  (ending.1.1, (ending.1.2, ending.2))

theorem edit_pure (value : α) (state : σ × ω) : execution.edit (pure value) state = (.ok value, state) := by
  simp only [edit, Edit.apply_pure, run_pure]

theorem edit_throw (error : OAuthError) (state : σ × ω) :
    execution.edit (throw error : Edit σ m α) state = (.error error, state) := by
  have thrown : (throw error : Edit σ m α).apply state.1 = pure (.error error, state.1) := rfl
  simp only [edit, thrown, run_pure]

theorem edit_get [LawfulMonad m] (state : σ × ω) :
    execution.edit (get : Edit σ m σ) state = (.ok state.1, state) := by
  simp only [edit, Edit.apply_get, run_pure]

theorem edit_bind (first : Edit σ m α) (next : α → Edit σ m β) (state : σ × ω) :
    execution.edit (first >>= next) state =
      match execution.edit first state with
      | (.ok value, after) => execution.edit (next value) after
      | (.error error, after) => (.error error, after) := by
  simp only [edit, Edit.apply_bind, run_bind]
  generalize execution.run (first.apply state.1) state.2 = ending
  rcases ending with ⟨⟨_ | _, _⟩, _⟩
  · simp only [run_pure]
  · rfl

end Execution

section

variable {ι κ S : Type} {visit : ι → S → Except OAuthError Outcome × S}

variable (visit) in
/-- The handlers have been called one after the other, each on what the one before has left, and none has failed. -/
inductive Walks : List ι → S → List Outcome → S → Prop
  | start (state : S) : Walks [] state [] state
  | next {handler : ι} {handlers : List ι} {before between after : S} {outcome : Outcome} {outcomes : List Outcome}
      (called : visit handler before = (.ok outcome, between)) (rest : Walks handlers between outcomes after) :
      Walks (handler :: handlers) before (outcome :: outcomes) after

variable (visit) in
/-- Each of the handlers makes its own entry in a log whenever it is called. -/
def Logs (log : S → List κ) : List ι → List κ → Prop :=
  List.Forall₂ fun handler entry => ∀ state, log (visit handler state).2 = log state ++ [entry]

theorem entered_of_called {handler : ι} {before after : S} {result : Except OAuthError Outcome}
    (called : visit handler before = (result, after)) {log : S → List κ} {entry : κ}
    (enters : ∀ state, log (visit handler state).2 = log state ++ [entry]) : log after = log before ++ [entry] := by
  have entered := enters before
  rwa [called] at entered

theorem Walks.logged {handlers : List ι} {before after : S} {outcomes : List Outcome}
    (walks : Walks visit handlers before outcomes after) {log : S → List κ} {entries : List κ}
    (logs : Logs visit log handlers entries) : log after = log before ++ entries := by
  induction walks generalizing entries with
  | start =>
    cases logs
    rw [List.append_nil]
  | next called _ ih =>
    cases logs with
    | cons enters others =>
      rw [ih others, entered_of_called called enters, List.append_assoc, List.singleton_append]

theorem Walks.logged_until {earlier later : List ι} {handler : ι} {before between after : S} {outcomes : List Outcome}
    {error : OAuthError} (walks : Walks visit earlier before outcomes between)
    (fails : visit handler between = (.error error, after)) {log : S → List κ} {entries : List κ}
    (logs : Logs visit log (earlier ++ handler :: later) entries) :
    log after = log before ++ entries.take (earlier.length + 1) := by
  induction walks generalizing entries with
  | start =>
    cases logs with
    | cons enters _ => exact entered_of_called fails enters
  | next called _ ih =>
    cases logs with
    | cons enters others =>
      rw [ih fails others, entered_of_called called enters, List.append_assoc, List.singleton_append,
        List.length_cons, List.take_succ_cons]

variable (visit) in
/-- A walk along handlers either passes all of them, and then there is a verdict on it, or it ends with the first that
fails. Whom it has called can be read in any log that the handlers keep. -/
structure DispatchLaw (dispatch : List ι → S → Except OAuthError Unit × S)
    (verdict : List Outcome → S → Except OAuthError Unit) : Prop where
  passed {handlers : List ι} {before after : S} {outcomes : List Outcome}
    (walks : Walks visit handlers before outcomes after) :
    dispatch handlers before = (verdict outcomes after, after) ∧
      ∀ {κ : Type} {log : S → List κ} {entries : List κ}, Logs visit log handlers entries →
        log after = log before ++ entries
  failed {earlier later : List ι} {handler : ι} {before between after : S} {outcomes : List Outcome}
    {error : OAuthError} (walks : Walks visit earlier before outcomes between)
    (fails : visit handler between = (.error error, after)) :
    dispatch (earlier ++ handler :: later) before = (.error error, after) ∧
      ∀ {κ : Type} {log : S → List κ} {entries : List κ}, Logs visit log (earlier ++ handler :: later) entries →
        log after = log before ++ entries.take (earlier.length + 1)
  total (handlers : List ι) (before : S) :
    (∃ outcomes after, Walks visit handlers before outcomes after) ∨
      ∃ earlier handler later outcomes between error after, handlers = earlier ++ handler :: later ∧
        Walks visit earlier before outcomes between ∧ visit handler between = (.error error, after)

theorem walks_or_fails (handlers : List ι) (before : S) :
    (∃ outcomes after, Walks visit handlers before outcomes after) ∨
      ∃ earlier handler later outcomes between error after, handlers = earlier ++ handler :: later ∧
        Walks visit earlier before outcomes between ∧ visit handler between = (.error error, after) := by
  induction handlers generalizing before with
  | nil => exact .inl ⟨[], before, .start before⟩
  | cons handler rest ih =>
    rcases called : visit handler before with ⟨error | outcome, between⟩
    · exact .inr ⟨[], handler, rest, [], before, error, between, rfl, .start before, called⟩
    · rcases ih between with ⟨outcomes, after, walks⟩ |
        ⟨earlier, failing, later, outcomes, last, error, after, rfl, walks, fails⟩
      · exact .inl ⟨outcome :: outcomes, after, .next called walks⟩
      · exact .inr ⟨handler :: earlier, failing, later, outcome :: outcomes, last, error, after, rfl,
          .next called walks, fails⟩

end

section

variable {m : Type → Type} [Monad m] [LawfulMonad m] {ι σ ω : Type} (execution : Execution m ω)
  {edit : ι → Edit σ m Outcome}

/-- Handlers that pass are all called before anything else is done. -/
theorem edit_mapM_of_walks {handlers : List ι} {before after : σ × ω} {outcomes : List Outcome}
    (walks : Walks (fun handler => execution.edit (edit handler)) handlers before outcomes after) :
    execution.edit (handlers.mapM edit) before = (.ok outcomes, after) := by
  induction walks with
  | start state => rw [List.mapM_nil, execution.edit_pure]
  | next called _ ih => simp only [List.mapM_cons, execution.edit_bind, called, ih, execution.edit_pure]

/-- Behind a handler that fails no other is called. -/
theorem edit_mapM_of_fails {earlier later : List ι} {handler : ι} {before between after : σ × ω}
    {outcomes : List Outcome} {error : OAuthError}
    (walks : Walks (fun handler => execution.edit (edit handler)) earlier before outcomes between)
    (fails : execution.edit (edit handler) between = (.error error, after)) :
    execution.edit ((earlier ++ handler :: later).mapM edit) before = (.error error, after) := by
  simp only [List.mapM_append, List.mapM_cons, execution.edit_bind, edit_mapM_of_walks execution walks, fails]

theorem dispatchLaw_of_conclusion {conclude : List Outcome → Edit σ m Unit}
    {verdict : List Outcome → σ × ω → Except OAuthError Unit}
    (concludes : ∀ outcomes after, execution.edit (conclude outcomes) after = (verdict outcomes after, after)) :
    DispatchLaw (fun handler => execution.edit (edit handler))
      (fun handlers => execution.edit (handlers.mapM edit >>= conclude)) verdict where
  passed walks := by
    refine ⟨?_, walks.logged⟩
    simp only [execution.edit_bind, edit_mapM_of_walks execution walks, concludes]
  failed walks fails := by
    refine ⟨?_, walks.logged_until fails⟩
    simp only [execution.edit_bind, edit_mapM_of_fails execution walks fails]
  total := walks_or_fails

end

theorem TokenResponse.isComplete_iff {response : TokenResponse} :
    response.isComplete = true ↔ response.accessToken ≠ "" ∧ response.tokenType ≠ "" := by
  simp [isComplete]

/-- One of the handlers has handled the value, or else it is refused as it is in the end. -/
def handledOr {σ ω : Type} (refusal : σ → OAuthError) (outcomes : List Outcome) (after : σ × ω) :
    Except OAuthError Unit :=
  if .handled ∈ outcomes then .ok () else .error (refusal after.1)

theorem edit_handledOr {m : Type → Type} [Monad m] {σ ω : Type} (execution : Execution m ω) {refuse : Edit σ m Unit}
    {refusal : σ → OAuthError} (refuses : ∀ after, execution.edit refuse after = (.error (refusal after.1), after))
    (outcomes : List Outcome) (after : σ × ω) :
    execution.edit (if outcomes.contains .handled then pure () else refuse) after =
      (handledOr refusal outcomes after, after) := by
  by_cases handled : .handled ∈ outcomes
  · rw [if_pos (List.contains_iff_mem.mpr handled), execution.edit_pure, handledOr, if_pos handled]
  · rw [if_neg (mt List.contains_iff_mem.mp handled), refuses, handledOr, if_neg handled]

/-- Requests are accepted and tokens are taken over by the same law, and responses are filled by it too, except that
what the handlers say of them does not count, but what has become of the response. -/
theorem dispatch_law {m : Type → Type} [Monad m] [LawfulMonad m] {ω : Type} (execution : Execution m ω) :
    DispatchLaw (fun handler : GrantHandler m => execution.edit handler.validate)
      (fun handlers => execution.edit (validateAll handlers))
      (handledOr fun request => .unsupportedGrantType request.grantTypes) ∧
    (∀ response, DispatchLaw (fun handler : MigrationHandler m => execution.edit (handler.migrate response))
      (fun handlers => execution.edit (migrateAll handlers response)) (handledOr fun _ => .noHandlers)) ∧
    (∀ request, DispatchLaw (fun handler : GrantHandler m => execution.edit (handler.populate request))
      (fun handlers => execution.edit (populateAll handlers request))
      fun _ after => if after.1.accessToken ≠ "" ∧ after.1.tokenType ≠ "" then .ok () else .error .responseIncomplete) ∧
    (∀ grantTypes : WordList, (OAuthError.unsupportedGrantType grantTypes).message =
      "invalid_request: unsupported grant type '" ++ grantTypes.render ++ "'") ∧
    OAuthError.noHandlers.message = "invalid_request: no handlers" := by
  refine ⟨dispatchLaw_of_conclusion execution (edit_handledOr execution fun after => ?_),
    fun response => dispatchLaw_of_conclusion execution (edit_handledOr execution fun after => ?_),
    fun request => dispatchLaw_of_conclusion execution fun _ after => ?_, fun grantTypes => ?_, by decide⟩
  · rw [execution.edit_bind, execution.edit_get]
    exact execution.edit_throw _ after
  · exact execution.edit_throw _ after
  · rw [execution.edit_bind, execution.edit_get]
    dsimp only
    by_cases complete : after.1.accessToken ≠ "" ∧ after.1.tokenType ≠ ""
    · rw [if_pos complete, if_pos (TokenResponse.isComplete_iff.mpr complete)]
      exact execution.edit_pure _ after
    · rw [if_neg complete, if_neg (mt TokenResponse.isComplete_iff.mp complete)]
      exact execution.edit_throw _ after
  · rfl

/-- A handler that only notes that it has been called. -/
def Specimen.noting (number : Nat) (result : Except OAuthError Outcome) : GrantHandler (StateM (List Nat)) where
  validate := do
    liftM (modify (· ++ [number]) : StateM (List Nat) PUnit)
    ExceptT.mk (pure result)
  populate _ := pure .notApplicable

/-- Of three handlers the second fails, and the third is not called. The handlers of the provider are both called, of
which the second passes the request by. -/
theorem dispatch_specimen :
    let first := Specimen.noting 1 (.ok .handled)
    let second := Specimen.noting 2 (.error .authenticationFailed)
    let third := Specimen.noting 3 (.ok .handled)
    let request := Specimen.request [] ⟨0, 0⟩
    let noted := (Execution.stateful (List Nat)).edit (validateAll [first, second, third]) (request, [])
    let working := Execution.replying Specimen.instruments.reply
    let state := (Specimen.presenting "AQID.AQID", Stage.mk (Specimen.store ["offline"] ⟨0, 0⟩) Specimen.chances [])
    noted = (.error .authenticationFailed, request, [1, 2]) ∧ noted.2.2 = [] ++ [1, 2, 3].take 2 ∧
      (working.edit (validateAll (Provider.standard {} Specimen.instruments.signer).grants) state).1 = .ok () := by
  intro first second third request noted working state
  obtain ⟨noting, _⟩ := dispatch_law (Execution.stateful (List Nat))
  obtain ⟨worked, _⟩ := dispatch_law working
  let visit (handler : GrantHandler (StateM (List Nat))) := (Execution.stateful (List Nat)).edit handler.validate
  have started : Walks visit [first] (request, []) [.handled] (request, [1]) := .next rfl (.start _)
  have logs : Logs visit Prod.snd [first, second, third] [1, 2, 3] :=
    .cons (fun _ => rfl) (.cons (fun _ => rfl) (.cons (fun _ => rfl) .nil))
  obtain ⟨ended, logged⟩ := noting.failed started (rfl : visit second (request, [1]) = (_, request, [1, 2]))
  let accepted := (working.edit (RefreshGrant.validate Specimen.authority) state).2
  have accepts : working.edit (RefreshGrant.validate Specimen.authority) state = (.ok .handled, accepted) :=
    Prod.ext (by decide +kernel) rfl
  have other : accepted.1.grantTypes.isExactly ClientCredentialsGrant.name = false := by decide +kernel
  have passesBy : working.edit (ClientCredentialsGrant.validate Specimen.authority) accepted =
      (.ok .notApplicable, accepted) := by
    rw [Execution.edit, ClientCredentialsGrant.apply_validate_of_other _ other]
    rfl
  have walks : Walks (fun handler : GrantHandler Work => working.edit handler.validate)
      (Provider.standard {} Specimen.instruments.signer).grants state [.handled, .notApplicable] accepted :=
    .next accepts (.next passesBy (.start accepted))
  exact ⟨ended, logged logs, congrArg Prod.fst (worked.passed walks).1⟩

end TokenServer
