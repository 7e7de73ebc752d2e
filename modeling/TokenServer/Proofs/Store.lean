import TokenServer.Store

/-! What writes make of the sessions in a store. -/

namespace TokenServer.Store

variable (store : Store)

def removeSession (kind : SessionKind) (signature : String) : Store :=
  store.withSessions kind ((store.sessions kind).erase signature)

def rotateSession (presented access refresh : String) (request : TokenRequest) : Store :=
  ((store.removeSession .refresh presented).createSession .access access request).createSession .refresh
    refresh request

@[simp] theorem sessions_withSessions (kind other : SessionKind) (sessions : Table TokenRequest) :
    (store.withSessions kind sessions).sessions other =
      if kind = other then sessions else store.sessions other := by
  cases kind <;> cases other <;> rfl

@[simp] theorem withSessions_sessions (kind : SessionKind) :
    store.withSessions kind (store.sessions kind) = store := by
  cases kind <;> rfl

@[simp] theorem withSessions_withSessions (kind : SessionKind) (first second : Table TokenRequest) :
    (store.withSessions kind first).withSessions kind second = store.withSessions kind second := by
  cases kind <;> rfl

theorem get?_createSession (kind other : SessionKind) (signature key : String) (request : TokenRequest) :
    ((store.createSession kind signature request).sessions other).get? key =
      if kind = other ∧ signature = key then some request else (store.sessions other).get? key := by
  rw [createSession, sessions_withSessions]
  by_cases sameKind : kind = other
  · subst sameKind
    simp [Table.get?_insert]
  · simp [sameKind]

theorem get?_removeSession (kind other : SessionKind) (signature key : String) :
    ((store.removeSession kind signature).sessions other).get? key =
      if kind = other ∧ signature = key then none else (store.sessions other).get? key := by
  rw [removeSession, sessions_withSessions]
  by_cases sameKind : kind = other
  · subst sameKind
    simp [Table.get?_erase]
  · simp [sameKind]

/-- A session that is created and removed again takes one that was there before along. -/
theorem removeSession_createSession (kind : SessionKind) (signature : String) (request : TokenRequest) :
    (store.createSession kind signature request).removeSession kind signature =
      store.removeSession kind signature := by
  have erased : ((store.sessions kind).insert signature request).erase signature =
      (store.sessions kind).erase signature := by
    ext key : 1
    rw [Table.get?_erase, Table.get?_erase, Table.get?_insert]
    split <;> rfl
  simp [removeSession, createSession, erased]

theorem removeSession_of_absent {kind : SessionKind} {signature : String}
    (absent : (store.sessions kind).contains signature = false) :
    store.removeSession kind signature = store := by
  have unbound : (store.sessions kind).get? signature = none := by
    simpa [Table.contains] using absent
  have erased : (store.sessions kind).erase signature = store.sessions kind := by
    ext key : 1
    rw [Table.get?_erase]
    split
    · next same => rw [← same, unbound]
    · rfl
  rw [removeSession, erased, withSessions_sessions]

end TokenServer.Store
