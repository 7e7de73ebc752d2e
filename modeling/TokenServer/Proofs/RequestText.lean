import TokenServer.Proofs.InstantText
import TokenServer.Proofs.Json.Records
import TokenServer.Proofs.Uuid
import TokenServer.TokenRequest

/-! Stored requests as text. What is written for a request is read as the same request: an empty hash is left out and
comes back, every expiry returns under its kind of token, and the claims are as they were. The members of the form and
of the expiries may be written in any order. -/

namespace TokenServer

open Json

theorem Client.reader_toJson (depth : Nat) (client : Client) :
    reader (depth + 2) client.toJson.document = some client := by
  obtain ⟨members, written, names, apart, id, secret, isPublic, grantTypes, scopes⟩ : ∃ members,
      client.toJson = .object members ∧
      (∀ member ∈ members, member.1 ∈ ["id", "hashed_secret", "public", "grant_types", "scopes"]) ∧
      (members.map Prod.fst).Nodup ∧ members.lookup "id" = some (.string client.id) ∧
      members.lookup "hashed_secret" =
        (if client.hashedSecret = "" then none else some (.string client.hashedSecret)) ∧
      members.lookup "public" = some (.bool client.isPublic) ∧
      members.lookup "grant_types" = some (.ofStrings client.grantTypes) ∧
      members.lookup "scopes" = some (.ofStrings client.scopes) := by
    refine ⟨_, rfl, ?_⟩
    split <;> simp [List.lookup_cons]
  let record := Record.printed members (depth + 1)
  have id : record.required "id" .string = some client.id := Record.required_printed id rfl
  have hash : record.withDefault "hashed_secret" "" .string = some client.hashedSecret := by
    split at secret
    · next empty => rw [Record.withDefault_absent secret, empty]
    · exact Record.withDefault_printed secret rfl
  have isPublic : record.withDefault "public" false .bool = some client.isPublic :=
    Record.withDefault_printed isPublic rfl
  have grantTypes : record.withDefault "grant_types" [] (.list .string) = some client.grantTypes :=
    Record.withDefault_printed grantTypes (Reader.list_ofStrings depth _)
  have scopes : record.withDefault "scopes" [] (.list .string) = some client.scopes :=
    Record.withDefault_printed scopes (Reader.list_ofStrings depth _)
  have read : Record.read? ["id", "hashed_secret", "public", "grant_types", "scopes"] (depth + 2)
      (Json.object members).document = some record := Record.read?_document (depth + 1) names apart
  rw [written, reader, read]
  simp only [Option.bind_eq_bind, Option.bind_some, id, hash, isPublic, grantTypes, scopes]
  rfl

theorem Client.floatFree_toJson (client : Client) : client.toJson.FloatFree := by
  have lists := floatFree_ofStrings
  refine membersFloatFree_iff.mpr ?_
  split <;> simp [FloatFree, lists]

namespace Expiries

def entries (expiries : Expiries) : List (TokenKind × Instant) :=
  TokenKind.all.filterMap fun kind => (expiries.get? kind).map (kind, ·)

theorem mem_entries {expiries : Expiries} {kind : TokenKind} {instant : Instant} :
    (kind, instant) ∈ expiries.entries ↔ expiries.get? kind = some instant := by
  have every : kind ∈ TokenKind.all := by cases kind <;> decide
  simp [entries, every]

theorem ext_get? {expiries other : Expiries} (alike : ∀ kind, expiries.get? kind = other.get? kind) :
    expiries = other := by
  cases expiries
  cases other
  simp only [mk.injEq]
  exact ⟨alike .accessToken, alike .refreshToken, alike .authorizeCode, alike .idToken⟩

/-- Expiries as an object, listed as given. -/
def spell (entries : List (TokenKind × Instant)) : Json :=
  .object (entries.map fun entry => (entry.1.name, .string entry.2.render))

theorem spell_entries (expiries : Expiries) : spell expiries.entries = expiries.toJson := by
  simp [spell, entries, toJson, List.map_filterMap, Option.map_map, Function.comp_def]

/-- Setting some of the expiries again makes those, and leaves the rest. -/
theorem get?_foldl_set {expiries : Expiries} {entries : List (TokenKind × Instant)}
    (agree : ∀ entry ∈ entries, expiries.get? entry.1 = some entry.2) (start : Expiries) (kind : TokenKind) :
    (entries.foldl (fun found entry => found.set entry.1 entry.2) start).get? kind =
      if kind ∈ entries.map Prod.fst then expiries.get? kind else start.get? kind := by
  induction entries generalizing start with
  | nil => rfl
  | cons entry rest ih =>
    obtain ⟨here, later⟩ := List.forall_mem_cons.mp agree
    rw [List.foldl_cons, ih later, get?_set, List.map_cons]
    by_cases same : entry.1 = kind
    · subst same
      simp [here]
    · rw [if_neg same]
      exact ite_congr (by simp [Ne.symm same]) (fun _ => rfl) fun _ => rfl

theorem foldl_set {expiries : Expiries} {entries : List (TokenKind × Instant)}
    (listed : entries.Perm expiries.entries) :
    entries.foldl (fun found entry => found.set entry.1 entry.2) {} = expiries := by
  have agree : ∀ entry ∈ entries, expiries.get? entry.1 = some entry.2 :=
    fun _ member => mem_entries.mp (listed.mem_iff.mp member)
  refine ext_get? fun kind => ?_
  rw [get?_foldl_set agree]
  split
  · rfl
  · next missing =>
    cases found : expiries.get? kind with
    | none => cases kind <;> rfl
    | some instant =>
      have member := listed.mem_iff.mpr (mem_entries.mpr found)
      exact absurd (List.mem_map_of_mem member) missing

/-- Names and texts are read back one after the other. -/
theorem foldlM_texts {entries : List (TokenKind × Instant)} (writable : ∀ entry ∈ entries, entry.2.Writable)
    (start : Expiries) :
    List.foldlM (fun found (name, text) => do return set found (← TokenKind.ofName? name) (← Instant.parse? text))
      start (entries.map fun entry => (entry.1.name, entry.2.render)) =
      some (entries.foldl (fun found entry => found.set entry.1 entry.2) start) := by
  induction entries generalizing start with
  | nil => rfl
  | cons entry rest ih =>
    obtain ⟨here, later⟩ := List.forall_mem_cons.mp writable
    rw [List.map_cons, List.foldlM_cons]
    simp only [TokenKind.ofName?_name, Instant.parse?_render here, Option.bind_eq_bind, Option.bind_some]
    exact ih later _

theorem reader_spell (depth : Nat) {expiries : Expiries} {entries : List (TokenKind × Instant)}
    (listed : entries.Perm expiries.entries) (writable : ∀ entry ∈ entries, entry.2.Writable) :
    reader (depth + 1) (spell entries).document = some expiries := by
  let texts := entries.map fun entry => (entry.1.name, entry.2.render)
  have members : (Reader.members .string) (depth + 1) (spell entries).document = some texts := by
    have read : (Reader.members .string) (depth + 1)
        (Json.object (texts.map fun text => (text.1, .string text.2))).document =
        some (texts.map fun text => (text.1, text.2)) :=
      Reader.members_document .string (fun text => text) fun _ _ => rfl
    simpa [texts, spell, Function.comp_def] using read
  rw [reader, members]
  exact (foldlM_texts writable {}).trans (congrArg some (foldl_set listed))

theorem floatFree_spell (entries : List (TokenKind × Instant)) : (spell entries).FloatFree :=
  membersFloatFree_iff.mpr fun member listed => by
    obtain ⟨entry, _, rfl⟩ := List.mem_map.mp listed
    exact trivial

end Expiries

namespace Session

def spell (session : Session) (expiries : List (TokenKind × Instant)) : Json :=
  .object [("subject", .string session.subject), ("username", .string session.username),
    ("expires_at", Expiries.spell expiries), ("extra", .object session.extra.entries)]

variable {session : Session} {expiries : List (TokenKind × Instant)}

theorem floatFree_spell (free : MembersFloatFree session.extra.entries) : (session.spell expiries).FloatFree :=
  ⟨trivial, trivial, Expiries.floatFree_spell expiries, free, trivial⟩

theorem reader_spell {depth : Nat} (listed : expiries.Perm session.expiresAt.entries)
    (writable : ∀ entry ∈ expiries, entry.2.Writable) (ordered : MembersOrdered session.extra.entries)
    (faithful : MembersFaithful session.extra.entries) (shallow : membersDepth session.extra.entries ≤ depth) :
    reader (depth + 2) (session.spell expiries).document = some session := by
  obtain ⟨members, written, names, apart, subject, username, expiresAt, extra⟩ : ∃ members,
      session.spell expiries = .object members ∧
      (∀ member ∈ members, member.1 ∈ ["subject", "username", "expires_at", "extra"]) ∧
      (members.map Prod.fst).Nodup ∧ members.lookup "subject" = some (.string session.subject) ∧
      members.lookup "username" = some (.string session.username) ∧
      members.lookup "expires_at" = some (Expiries.spell expiries) ∧
      members.lookup "extra" = some (.object (session.extra.entries.map fun entry => (entry.1, entry.2))) :=
    ⟨_, rfl, by simp [List.lookup_cons]⟩
  let record := Record.printed members (depth + 1)
  have subject : record.withDefault "subject" "" .string = some session.subject :=
    Record.withDefault_printed subject rfl
  have username : record.withDefault "username" "" .string = some session.username :=
    Record.withDefault_printed username rfl
  have expiresAt : record.withDefault "expires_at" {} Expiries.reader = some session.expiresAt :=
    Record.withDefault_printed expiresAt (Expiries.reader_spell depth listed writable)
  have extra : record.withDefault "extra" ∅ (.table .any) = some session.extra :=
    Record.withDefault_printed extra (Reader.table_document (fun value => value) (.refl _) fun _ member =>
      Document.valueWith?_of_mem ordered faithful shallow member)
  have read : Record.read? ["subject", "username", "expires_at", "extra"] (depth + 2)
      (Json.object members).document = some record := Record.read?_document (depth + 1) names apart
  rw [written, reader, read]
  simp only [Option.bind_eq_bind, Option.bind_some, subject, username, expiresAt, extra]
  rfl

end Session

namespace TokenRequest

/-- The request as an object, with its form and its expiries listed as given. -/
def spell (request : TokenRequest) (form : List (String × String)) (expiries : List (TokenKind × Instant)) : Json :=
  .object [("id", .string request.id.render), ("requested_at", .string request.requestedAt.render),
    ("client", request.client.toJson), ("requested_scopes", .ofStrings request.requestedScopes),
    ("granted_scopes", .ofStrings request.grantedScopes), ("grant_types", .ofStrings request.grantTypes),
    ("form", .object (form.map fun entry => (entry.1, .string entry.2))),
    ("session", request.session.spell expiries)]

theorem spell_entries (request : TokenRequest) :
    request.spell request.form.entries request.session.expiresAt.entries = request.toJson := by
  rw [spell, Session.spell, Expiries.spell_entries]
  rfl

/-- What a request must be like to come back from its text. -/
structure Storable (request : TokenRequest) : Prop where
  requestedAt : request.requestedAt.Writable
  expiries : ∀ kind instant, request.session.expiresAt.get? kind = some instant → instant.Writable
  ordered : MembersOrdered request.session.extra.entries
  faithful : MembersFaithful request.session.extra.entries
  shallow : request.toJson.depth ≤ nestingLimit

variable {request : TokenRequest} {form : List (String × String)} {expiries : List (TokenKind × Instant)}

theorem floatFree_spell (free : MembersFloatFree request.session.extra.entries) :
    (request.spell form expiries).FloatFree := by
  have form : MembersFloatFree (form.map fun entry => (entry.1, .string entry.2)) := by
    refine membersFloatFree_iff.mpr fun member listed => ?_
    obtain ⟨entry, _, rfl⟩ := List.mem_map.mp listed
    exact trivial
  exact ⟨trivial, trivial, Client.floatFree_toJson _, floatFree_ofStrings _, floatFree_ofStrings _,
    floatFree_ofStrings _, form, Session.floatFree_spell free, trivial⟩

/-- The claims stand three levels below the request. -/
theorem membersDepth_extra_le (request : TokenRequest) :
    membersDepth request.session.extra.entries + 3 ≤ request.toJson.depth := by
  simp only [toJson, Session.toJson, Json.depth, membersDepth]
  omega

theorem reader_spell {depth : Nat} (requestedAt : request.requestedAt.Writable)
    (formListed : form.Perm request.form.entries) (listed : expiries.Perm request.session.expiresAt.entries)
    (writable : ∀ entry ∈ expiries, entry.2.Writable) (ordered : MembersOrdered request.session.extra.entries)
    (faithful : MembersFaithful request.session.extra.entries)
    (shallow : membersDepth request.session.extra.entries ≤ depth) :
    reader (depth + 3) (request.spell form expiries).document = some request := by
  obtain ⟨members, written, names, apart, id, time, client, requestedScopes, grantedScopes, grantTypes, form,
      session⟩ : ∃ members, request.spell form expiries = .object members ∧
      (∀ member ∈ members, member.1 ∈ ["id", "requested_at", "client", "requested_scopes", "granted_scopes",
        "grant_types", "form", "session"]) ∧
      (members.map Prod.fst).Nodup ∧ members.lookup "id" = some (.string request.id.render) ∧
      members.lookup "requested_at" = some (.string request.requestedAt.render) ∧
      members.lookup "client" = some request.client.toJson ∧
      members.lookup "requested_scopes" = some (.ofStrings request.requestedScopes) ∧
      members.lookup "granted_scopes" = some (.ofStrings request.grantedScopes) ∧
      members.lookup "grant_types" = some (.ofStrings request.grantTypes) ∧
      members.lookup "form" = some (.object (form.map fun entry => (entry.1, .string entry.2))) ∧
      members.lookup "session" = some (request.session.spell expiries) :=
    ⟨_, rfl, by simp [List.lookup_cons]⟩
  let record := Record.printed members (depth + 2)
  have id : record.required "id" .string = some request.id.render := Record.required_printed id rfl
  have time : record.required "requested_at" .string = some request.requestedAt.render :=
    Record.required_printed time rfl
  have client : record.required "client" Client.reader = some request.client :=
    Record.required_printed client (Client.reader_toJson depth _)
  have requestedScopes : record.withDefault "requested_scopes" [] (.list .string) = some request.requestedScopes :=
    Record.withDefault_printed requestedScopes (Reader.list_ofStrings (depth + 1) _)
  have grantedScopes : record.withDefault "granted_scopes" [] (.list .string) = some request.grantedScopes :=
    Record.withDefault_printed grantedScopes (Reader.list_ofStrings (depth + 1) _)
  have grantTypes : record.withDefault "grant_types" [] (.list .string) = some request.grantTypes :=
    Record.withDefault_printed grantTypes (Reader.list_ofStrings (depth + 1) _)
  have form : record.withDefault "form" ∅ (.table .string) = some request.form :=
    Record.withDefault_printed form (Reader.table_document .string formListed fun _ _ => rfl)
  have session : record.withDefault "session" {} Session.reader = some request.session :=
    Record.withDefault_printed session (Session.reader_spell listed writable ordered faithful shallow)
  have read : Record.read? ["id", "requested_at", "client", "requested_scopes", "granted_scopes", "grant_types",
      "form", "session"] (depth + 3) (Json.object members).document = some record :=
    Record.read?_document (depth + 2) names apart
  rw [written, reader, read]
  simp only [Option.bind_eq_bind, Option.bind_some, id, time, client, requestedScopes, grantedScopes, grantTypes,
    form, session, Uuid.parse?_render, Instant.parse?_render requestedAt]
  rfl

/-- A request is read from what is written for it as it was. -/
theorem survives_storage (storable : request.Storable) :
    Reader.parse? reader request.toJson.render = some request ∧
      ∀ form expiries, form.Perm request.form.entries → expiries.Perm request.session.expiresAt.entries →
        Reader.parse? reader (request.spell form expiries).render = some request := by
  have listings : ∀ form expiries, form.Perm request.form.entries → expiries.Perm request.session.expiresAt.entries →
      Reader.parse? reader (request.spell form expiries).render = some request := by
    intro form expiries formListed listed
    have writable : ∀ entry ∈ expiries, entry.2.Writable := fun entry member =>
      storable.expiries entry.1 entry.2 (Expiries.mem_entries.mp (listed.mem_iff.mp member))
    have shallow : membersDepth request.session.extra.entries ≤ 124 := by
      have bound := request.membersDepth_extra_le
      have limit := storable.shallow
      rw [nestingLimit] at limit
      omega
    rw [Reader.parse?_render (floatFree_spell (MembersFaithful.floatFree _ storable.faithful))]
    exact reader_spell storable.requestedAt formListed listed writable storable.ordered storable.faithful shallow
  exact ⟨request.spell_entries ▸ listings _ _ (.refl _) (.refl _), listings⟩

end TokenRequest

namespace Specimen

def claiming (claim : Json) : TokenRequest where
  id := ⟨0x0193A5E06F7A7B3C8D21445566778899, by decide⟩
  requestedAt := ⟨1700000000, 120000000⟩
  client := { id := "app", grantTypes := ["refresh_token"] }
  grantedScopes := ["offline", "a b"]
  form := Table.ofList [("scope", "offline"), ("grant_type", "refresh_token")]
  session := { expiresAt := { refreshToken := some ⟨-62167219200, 1⟩ }, extra := Table.ofList [("claim", claim)] }

def plainClaim : Json := .array [.null, .int 0xFFFFFFFFFFFFFFFF, .string "\n"]

def markedClaim : Json := .object [(embeddingKey, .string "1")]

theorem claiming_writable (claim : Json) : (claiming claim).requestedAt.Writable ∧
    ∀ kind instant, (claiming claim).session.expiresAt.get? kind = some instant → instant.Writable := by
  have received : Instant.Writable ⟨1700000000, 120000000⟩ := ⟨by decide +kernel, by decide⟩
  refine ⟨received, ?_⟩
  rintro (_ | _ | _ | _) instant ⟨⟩
  exact ⟨by decide +kernel, by decide⟩

end Specimen

namespace TokenRequest

theorem plainClaim_survives_storage : (Specimen.claiming Specimen.plainClaim).Storable ∧
    Reader.parse? reader (Specimen.claiming Specimen.plainClaim).toJson.render =
      some (Specimen.claiming Specimen.plainClaim) := by
  have within : Faithful (.int 0xFFFFFFFFFFFFFFFF) := by
    constructor <;> decide
  have storable : (Specimen.claiming Specimen.plainClaim).Storable := {
    requestedAt := (Specimen.claiming_writable _).1
    expiries := (Specimen.claiming_writable _).2
    ordered := ⟨⟨trivial, trivial, trivial, trivial⟩, trivial⟩
    faithful := ⟨⟨trivial, within, trivial, trivial⟩, trivial⟩
    shallow := by decide +kernel }
  exact ⟨storable, (survives_storage storable).1⟩

/-- A claim that looks like an embedded text comes back as the value of that text. -/
theorem markedClaim_is_lost : (Specimen.claiming Specimen.markedClaim).requestedAt.Writable ∧
    (∀ kind instant, (Specimen.claiming Specimen.markedClaim).session.expiresAt.get? kind = some instant →
      instant.Writable) ∧
    MembersOrdered (Specimen.claiming Specimen.markedClaim).session.extra.entries ∧
    MembersFloatFree (Specimen.claiming Specimen.markedClaim).session.extra.entries ∧
    (Specimen.claiming Specimen.markedClaim).toJson.depth ≤ nestingLimit ∧
    Reader.parse? reader (Specimen.claiming Specimen.markedClaim).toJson.render =
      some (Specimen.claiming (.int 1)) ∧
    Specimen.claiming (.int 1) ≠ Specimen.claiming Specimen.markedClaim := by
  obtain ⟨requestedAt, expiries⟩ := Specimen.claiming_writable Specimen.markedClaim
  have ordered : MembersOrdered [("claim", Specimen.markedClaim)] :=
    ⟨⟨List.pairwise_singleton _ _, trivial, trivial⟩, trivial⟩
  have free : MembersFloatFree [("claim", Specimen.markedClaim)] := ⟨⟨trivial, trivial⟩, trivial⟩
  have whole : (Specimen.claiming Specimen.markedClaim).toJson.FloatFree := by
    rw [← spell_entries]
    exact floatFree_spell free
  have read : Reader.parse? reader (Specimen.claiming Specimen.markedClaim).toJson.render =
      some (Specimen.claiming (.int 1)) := by
    rw [Reader.parse?_render whole]
    decide +kernel
  exact ⟨requestedAt, expiries, ordered, free, by decide +kernel, read, by decide +kernel⟩

end TokenRequest

end TokenServer
