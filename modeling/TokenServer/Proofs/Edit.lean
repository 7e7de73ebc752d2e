import TokenServer.Handler

/-! Edits step by step: what each form of edit makes of the edited value, and how an error leaves the value
as it was when the error arose. -/

namespace TokenServer.Edit

variable {σ α β : Type} {m : Type → Type} [Monad m]

theorem apply_pure (value : α) (state : σ) :
    (pure value : Edit σ m α).apply state = pure (.ok value, state) := rfl

theorem apply_bind (edit : Edit σ m α) (next : α → Edit σ m β) (state : σ) :
    (edit >>= next).apply state = edit.apply state >>= fun
      | (.ok value, after) => (next value).apply after
      | (.error error, after) => pure (.error error, after) := by
  simp only [apply, ExceptT.run_bind, StateT.run_bind]
  congr 1
  funext result
  rcases result with ⟨_ | _, after⟩ <;> rfl

theorem apply_get [LawfulMonad m] (state : σ) :
    (get : Edit σ m σ).apply state = pure (.ok state, state) := by
  change (pure (state, state) >>= fun x => pure (Except.ok x.1, x.2) : m _) = _
  rw [pure_bind]

theorem apply_modify [LawfulMonad m] (alter : σ → σ) (state : σ) :
    (modify alter : Edit σ m PUnit).apply state = pure (.ok PUnit.unit, alter state) := by
  change (pure (PUnit.unit, alter state) >>= fun x => pure (Except.ok x.1, x.2) : m _) = _
  rw [pure_bind]

end TokenServer.Edit
