import TokenServer.Proofs.Contract

/-! Work against two stores that differ in nothing but what they say of their failures. The two runs make the same
calls and take the same turns as long as no step looks into a failure, which is shown step by step: each kind of
computation is related to itself, given replies that are alike. -/

namespace TokenServer

/-- Two results: one value, or two failures that agree. -/
inductive Concur {ε α : Type} (agree : ε → ε → Prop) : Except ε α → Except ε α → Prop
  | ok (value : α) : Concur agree (.ok value) (.ok value)
  | error {one other : ε} (same : agree one other) : Concur agree (.error one) (.error other)

namespace Concur

variable {ε δ α β : Type} {agree : ε → ε → Prop} {told : δ → δ → Prop} {one other : Except ε α}

theorem refl (same : ∀ error, agree error error) (result : Except ε α) : Concur agree result result := by
  cases result with
  | ok value => exact .ok value
  | error error => exact .error (same error)

theorem map (concur : Concur agree one other) (f : α → β) : Concur agree (one.map f) (other.map f) := by
  cases concur with
  | ok value => exact .ok (f value)
  | error same => exact .error same

theorem mapError (concur : Concur agree one other) {toError : ε → δ}
    (tells : ∀ one other, agree one other → told (toError one) (toError other)) :
    Concur told (one.mapError toError) (other.mapError toError) := by
  cases concur with
  | ok value => exact .ok value
  | error same => exact .error (tells _ _ same)

end Concur

/-- Replies that differ at most in what a failure of the store says. That a refresh session is not there must be
told from other failures. -/
def Call.Alike : (call : Call) → call.Reply → call.Reply → Prop
  | .findSession .refresh _, one, other => Concur (fun one other => one.isNotFound = other.isNotFound) one other
  | .findSession .access _, one, other => Concur (fun _ _ => True) one other
  | .findClient _, one, other => Concur (fun _ _ => True) one other
  | .createSession _ _ _, one, other => Concur (fun _ _ => True) one other
  | .deleteSession _ _, one, other => Concur (fun _ _ => True) one other
  | .exchangeSession _ _ _ _, one, other => Concur (fun _ _ => True) one other
  | .now, one, other => one = other
  | .freshId, one, other => one = other
  | .mint _, one, other => one = other
  | .compareSecret _ _, one, other => one = other

/-- Errors of which callers are told the same. -/
structure OAuthError.Alike (one other : OAuthError) : Prop where
  status : one.status = other.status
  reply : one.reply = other.reply

theorem OAuthError.Alike.refl (error : OAuthError) : error.Alike error := ⟨rfl, rfl⟩

namespace Work

variable {α β γ δ : Type}

/-- The two make the same calls while they get replies that are alike, and their values are related. -/
inductive Alike (related : α → β → Prop) : Work α → Work β → Prop
  | done {one : α} {other : β} (same : related one other) : Alike related (.done one) (.done other)
  | ask {call : Call} {next : call.Reply → Work α} {after : call.Reply → Work β}
      (onwards : ∀ one other, call.Alike one other → Alike related (next one) (after other)) :
      Alike related (.ask call next) (.ask call after)

namespace Alike

variable {related : α → β → Prop} {after : γ → δ → Prop}

theorem bind {one : Work α} {other : Work β} {f : α → Work γ} {g : β → Work δ} (first : Alike related one other)
    (second : ∀ one other, related one other → Alike after (f one) (g other)) :
    Alike after (one >>= f) (other >>= g) := by
  change Alike after (one.bind f) (other.bind g)
  induction first with
  | done same => exact second _ _ same
  | ask _ ih => exact .ask fun one other alike => ih one other alike

/-- Surroundings whose replies stay alike lead to values that are related. -/
theorem run {σ τ : Type} {first : (call : Call) → σ → call.Reply × σ} {second : (call : Call) → τ → call.Reply × τ}
    {simulates : σ → τ → Prop}
    (replies : ∀ call one other, simulates one other →
      call.Alike (first call one).1 (second call other).1 ∧ simulates (first call one).2 (second call other).2)
    {one : Work α} {other : Work β} (alike : Alike related one other) {left : σ} {right : τ}
    (start : simulates left right) :
    related (one.run first left).1 (other.run second right).1 ∧
      simulates (one.run first left).2 (other.run second right).2 := by
  induction alike generalizing left right with
  | done same => exact ⟨same, start⟩
  | ask _ ih =>
    obtain ⟨answered, onwards⟩ := replies _ left right start
    exact ih _ _ answered onwards

end Alike

end Work

namespace Attempt

variable {α β : Type}

def Alike (one other : Attempt α) : Prop := Work.Alike (Concur OAuthError.Alike) one.run other.run

namespace Alike

theorem pure (value : α) : Alike (Pure.pure value) (Pure.pure value) := .done (.ok value)

theorem throw (error : OAuthError) : Alike (MonadExcept.throw error : Attempt α) (MonadExcept.throw error) :=
  .done (.error (.refl error))

theorem bind {one other : Attempt α} {f g : α → Attempt β} (first : one.Alike other)
    (second : ∀ value, (f value).Alike (g value)) : Alike (one >>= f) (other >>= g) := by
  rw [Alike, ExceptT.run_bind, ExceptT.run_bind]
  refine Work.Alike.bind first ?_
  rintro _ _ (value | same)
  · exact second value
  · exact .done (.error same)

theorem whenever {condition : Prop} [Decidable condition] {step : Attempt Unit} {f : Unit → Attempt α}
    (first : step.Alike step) (rest : (f ()).Alike (f ())) :
    Alike (if condition then step >>= f else f ()) (if condition then step >>= f else f ()) := by
  split
  · exact bind first fun _ => rest
  · exact rest

theorem ofExcept {ε : Type} {agree : ε → ε → Prop} {toError : ε → OAuthError} {one other : Except ε α}
    (concur : Concur agree one other)
    (tells : ∀ one other, agree one other → (toError one).Alike (toError other)) :
    Alike (Attempt.ofExcept toError one) (Attempt.ofExcept toError other) :=
  .done (concur.mapError tells)

/-- What does not come from the store is the same for both. -/
theorem ofExcept_same {ε : Type} (toError : ε → OAuthError) (result : Except ε α) :
    Alike (Attempt.ofExcept toError result) (Attempt.ofExcept toError result) :=
  .done (.refl OAuthError.Alike.refl _)

theorem call_bind (call : Call) {f g : call.Reply → Attempt β}
    (next : ∀ one other, call.Alike one other → (f one).Alike (g other)) :
    Alike (Attempt.call call >>= f) (Attempt.call call >>= g) :=
  .ask next

end Alike

end Attempt

namespace WorkEdit

variable {σ α β : Type}

/-- Both edits change every value in the same way, and come to one outcome or to errors of which callers are told
the same. -/
def Alike (one other : WorkEdit σ α) : Prop :=
  ∀ value, Work.Alike (fun one other => Concur OAuthError.Alike one.1 other.1 ∧ one.2 = other.2) (one.apply value)
    (other.apply value)

namespace Alike

theorem bind {one other : WorkEdit σ α} {f g : α → WorkEdit σ β} (first : one.Alike other)
    (second : ∀ value, (f value).Alike (g value)) : Alike (one >>= f) (other >>= g) := by
  intro value
  rw [Edit.apply_bind, Edit.apply_bind]
  refine Work.Alike.bind (first value) ?_
  rintro ⟨_, after⟩ ⟨_, _⟩ ⟨value | same, rfl⟩
  · exact second value after
  · exact .done ⟨.error same, rfl⟩

theorem pure (value : α) : Alike (Pure.pure value : WorkEdit σ α) (Pure.pure value) :=
  fun _ => .done ⟨.ok value, rfl⟩

theorem throw (error : OAuthError) :
    Alike (MonadExcept.throw error : WorkEdit σ α) (MonadExcept.throw error) :=
  fun _ => .done ⟨.error (.refl error), rfl⟩

theorem whenever {condition : Prop} [Decidable condition] {step : WorkEdit σ Unit} {f : Unit → WorkEdit σ α}
    (first : step.Alike step) (rest : (f ()).Alike (f ())) :
    Alike (if condition then step >>= f else f ()) (if condition then step >>= f else f ()) := by
  split
  · exact bind first fun _ => rest
  · exact rest

theorem get : Alike (MonadState.get : WorkEdit σ σ) MonadState.get := fun value => .done ⟨.ok value, rfl⟩

theorem set (value : σ) : Alike (MonadState.set value : WorkEdit σ PUnit) (MonadState.set value) :=
  fun _ => .done ⟨.ok _, rfl⟩

theorem modify (alter : σ → σ) : Alike (modify alter : WorkEdit σ PUnit) (modify alter) :=
  fun _ => .done ⟨.ok _, rfl⟩

theorem ofExcept {ε : Type} {agree : ε → ε → Prop} {toError : ε → OAuthError} {one other : Except ε α}
    (concur : Concur agree one other)
    (tells : ∀ one other, agree one other → (toError one).Alike (toError other)) :
    Alike (WorkEdit.ofExcept toError one : WorkEdit σ α) (WorkEdit.ofExcept toError other) :=
  fun _ => .done ⟨concur.mapError tells, rfl⟩

theorem ofExcept_same {ε : Type} (toError : ε → OAuthError) (result : Except ε α) :
    Alike (WorkEdit.ofExcept toError result : WorkEdit σ α) (WorkEdit.ofExcept toError result) :=
  fun _ => .done ⟨.refl OAuthError.Alike.refl _, rfl⟩

theorem call_bind (call : Call) {f g : call.Reply → WorkEdit σ β}
    (next : ∀ one other, call.Alike one other → (f one).Alike (g other)) :
    Alike (WorkEdit.call call >>= f) (WorkEdit.call call >>= g) :=
  fun value => .ask fun one other alike => next one other alike value

theorem lift_bind {work : Work α} {f g : α → WorkEdit σ β} (first : Work.Alike Eq work work)
    (second : ∀ value, (f value).Alike (g value)) :
    Alike (WorkEdit.lift work >>= f) (WorkEdit.lift work >>= g) := by
  intro value
  rw [apply_lift_bind, apply_lift_bind]
  refine Work.Alike.bind first ?_
  rintro result _ rfl
  exact second result value

theorem mint (kind : SessionKind) : Alike (WorkEdit.mint kind : WorkEdit σ SignedToken) (WorkEdit.mint kind) := by
  refine call_bind (.mint kind) ?_
  rintro made _ rfl
  exact ofExcept_same _ made

theorem mapM {ι : Type} {step : ι → WorkEdit σ α} {list : List ι}
    (each : ∀ entry ∈ list, (step entry).Alike (step entry)) :
    Alike (list.mapM step) (list.mapM step) := by
  induction list with
  | nil => exact pure []
  | cons entry rest ih =>
    obtain ⟨first, others⟩ := List.forall_mem_cons.mp each
    rw [List.mapM_cons]
    exact bind first fun value => bind (ih others) fun values => pure (value :: values)

end Alike

end WorkEdit

end TokenServer
