import TokenServer.Proofs.MigratedRefresh

/-! Migrations one after the other. The session of an access token is stored under its signature alone, so that a later
migration leaves it alone unless its token has the same signature, and otherwise takes its place. -/

namespace TokenServer

theorem Table.insert_insert {β : Type} (table : Table β) (key : String) (first second : β) :
    (table.insert key first).insert key second = table.insert key second := by
  ext other : 1
  rw [get?_insert, get?_insert, get?_insert]
  split <;> rfl

theorem SignedToken.signatureOf_keyless {text : String} (undotted : '.' ∉ text.toList) :
    signatureOf ("." ++ text) = text := by
  have written : ("." ++ text).toList = [] ++ '.' :: text.toList := by simp
  rw [signatureOf, parts?_of_dot written ⟨List.not_mem_nil, undotted⟩]
  exact String.ofList_toList

namespace Provider

def accessKey (form : Table String) : String := SignedToken.signatureOf (dotted (field form "token"))

/-- A migration that met with these chances has stored the session for the access token that was posted, in place of
what was stored under its key. -/
structure Wrote (lifespans : Lifespans) (chances : Nat → Chance) (http : HttpRequest) (form : Table String)
    (session : TokenRequest) (before after : Store) : Prop where
  read : http.form = .ok form
  keyed : accessKey form ≠ ""
  imported : ∃ owner client number, Imported form owner client
    { accessToken := some ((chances number).instant.plusSeconds lifespans.accessSeconds) } session
  stored : after.access = before.access.insert (accessKey form) session

variable {form other : Table String}

theorem accessKey_of_undotted (undotted : '.' ∉ (field form "token").toList) : accessKey form = field form "token" := by
  rw [accessKey, dotted_of_not_mem undotted, SignedToken.signatureOf_keyless undotted]

/-- Of two different tokens with one key at least one has a dot. -/
theorem dot_mem_of_accessKey_eq (same : accessKey form = accessKey other)
    (differ : field form "token" ≠ field other "token") :
    '.' ∈ (field form "token").toList ∨ '.' ∈ (field other "token").toList := by
  by_contra undotted
  rw [not_or] at undotted
  rw [accessKey_of_undotted undotted.1, accessKey_of_undotted undotted.2] at same
  exact differ same

theorem wrote_of_done {instruments : Instruments} {settings : Settings} {http : HttpRequest} {store : Store}
    {chances : Nat → Chance} :
    let migrating := instruments.perform ((standard settings instruments.signer).migrate http).run
      ⟨store, chances, []⟩
    migrating.1 = .ok () →
      ∃ form session, Wrote settings.lifespans chances http form session store migrating.2.store := by
  intro migrating done
  obtain ⟨form, owner, client, id, requestedAt, before, ending, outcome, permitted, idle, last, ends, succeeded,
    effects⟩ := migrated_of_done done
  obtain ⟨now, asked, takenOver⟩ := takenOver_of_ends idle ends succeeded store
  rw [← effects] at takenOver
  have answered : Answered instruments (Stage.Offers ⟨store, chances, []⟩) store migrating.2.calls
      migrating.2.store := instruments.perform_answered _ (fun _ offered => offered) .start
  obtain ⟨_, ⟨number, rfl⟩, rfl⟩ := answered.told asked
  obtain ⟨keyed, session, imported, stored⟩ := takenOver.access
  exact ⟨form, session, permitted.read, keyed, ⟨owner, client, number, imported⟩, stored⟩

/-- Two migrations, one after the other, each leave their access session under the signature of the token that was
posted, if the signatures differ. Otherwise the second session has taken the place of the first; then at least one of
the tokens has a dot, or they are the same. -/
theorem imports_kept_apart (instruments : Instruments) (settings : Settings) (first second : HttpRequest)
    (store : Store) (chances later : Nat → Chance) :
    let one := instruments.perform ((standard settings instruments.signer).migrate first).run ⟨store, chances, []⟩
    let two := instruments.perform ((standard settings instruments.signer).migrate second).run
      ⟨one.2.store, later, []⟩
    one.1 = .ok () → two.1 = .ok () → ∃ form session other successor,
      Wrote settings.lifespans chances first form session store one.2.store ∧
      Wrote settings.lifespans later second other successor one.2.store two.2.store ∧
      two.2.store.access.get? (accessKey other) = some successor ∧
      (accessKey form ≠ accessKey other → two.2.store.access.get? (accessKey form) = some session) ∧
      (accessKey form = accessKey other →
        two.2.store.access = store.access.insert (accessKey form) successor ∧
        (field form "token" ≠ field other "token" →
          '.' ∈ (field form "token").toList ∨ '.' ∈ (field other "token").toList)) := by
  intro one two done doneToo
  obtain ⟨form, session, wrote⟩ := wrote_of_done done
  obtain ⟨other, successor, wroteToo⟩ := wrote_of_done doneToo
  refine ⟨form, session, other, successor, wrote, wroteToo, ?_, fun apart => ?_, fun same => ⟨?_, ?_⟩⟩
  · rw [wroteToo.stored]
    exact Table.get?_insert_self _ _ _
  · rw [wroteToo.stored, Table.get?_insert_ne _ _ (Ne.symm apart), wrote.stored]
    exact Table.get?_insert_self _ _ _
  · rw [wroteToo.stored, wrote.stored, same, Table.insert_insert]
  · exact dot_mem_of_accessKey_eq same

end Provider

namespace Specimen

def importFields (token user : String) : List (String × String) :=
  [("token", token), ("client", "YXBwOg=="), ("username", user)]

def importPost (token user : String) : HttpRequest :=
  (HttpRequest.formPost (importFields token user)).withBasicAuth "import" "pass"

def imported (first second : HttpRequest) : Except OAuthError Unit × Except OAuthError Unit × Store :=
  let one := instruments.perform ((Provider.standard {} instruments.signer).migrate first).run
    ⟨migratorStore, chances, []⟩
  let two := instruments.perform ((Provider.standard {} instruments.signer).migrate second).run
    ⟨one.2.store, chances, []⟩
  (one.1, two.1, two.2.store)

end Specimen

/-- A session is lost to that of a different token, which has the same text behind its dot. -/
theorem Provider.import_replaced :
    let (one, two, after) := Specimen.imported (Specimen.importPost "opaque" "ann")
      (Specimen.importPost "other.opaque" "bob")
    one = .ok () ∧ two = .ok () ∧ after.access.size = 1 ∧
      (after.access.get? "opaque").map (·.session.username) = some "bob" := by
  decide +kernel

/-- Two tokens without a dot are taken over side by side, each with the session of its user. -/
theorem Provider.imports_side_by_side :
    let (one, two, after) := Specimen.imported (Specimen.importPost "opaque" "ann") (Specimen.importPost "other" "bob")
    one = .ok () ∧ two = .ok () ∧
      (∃ session, after.access.get? "opaque" = some session ∧ session.session.username = "ann") ∧
      ∃ session, after.access.get? "other" = some session ∧ session.session.username = "bob" := by
  have done : (Specimen.imported (Specimen.importPost "opaque" "ann")
      (Specimen.importPost "other" "bob")).1 = .ok () := by decide +kernel
  have doneToo : (Specimen.imported (Specimen.importPost "opaque" "ann")
      (Specimen.importPost "other" "bob")).2.1 = .ok () := by decide +kernel
  obtain ⟨form, session, other, successor, wrote, wroteToo, stored, apart, _⟩ :=
    imports_kept_apart Specimen.instruments {} (Specimen.importPost "opaque" "ann") (Specimen.importPost "other" "bob")
      Specimen.migratorStore Specimen.chances Specimen.chances done doneToo
  have read : (Specimen.importPost "opaque" "ann").form = .ok (.ofFirst (Specimen.importFields "opaque" "ann")) := by
    decide +kernel
  have readToo : (Specimen.importPost "other" "bob").form = .ok (.ofFirst (Specimen.importFields "other" "bob")) := by
    decide +kernel
  cases wrote.read.symm.trans read
  cases wroteToo.read.symm.trans readToo
  have key : accessKey (.ofFirst (Specimen.importFields "opaque" "ann")) = "opaque" := by decide +kernel
  have keyToo : accessKey (.ofFirst (Specimen.importFields "other" "bob")) = "other" := by decide +kernel
  rw [key, keyToo] at apart
  rw [keyToo] at stored
  obtain ⟨_, _, _, imported⟩ := wrote.imported
  obtain ⟨_, _, _, importedToo⟩ := wroteToo.imported
  refine ⟨done, doneToo, ⟨session, apart (by decide), ?_⟩, ⟨successor, stored, ?_⟩⟩
  · rw [imported.session]
    change field (.ofFirst (Specimen.importFields "opaque" "ann")) "username" = "ann"
    decide +kernel
  · rw [importedToo.session]
    change field (.ofFirst (Specimen.importFields "other" "bob")) "username" = "bob"
    decide +kernel

end TokenServer
