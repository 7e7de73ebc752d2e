import TokenServer.Proofs.Json.Records
import TokenServer.Proofs.WordList
import TokenServer.TokenResponse

/-! Token responses as text. The scopes travel as one text, and what a response has beyond its fixed members stands
among these; both come back, as long as no scope has a space and no further member has the name of a fixed one. -/

namespace TokenServer

theorem IntegerBounds.contains_int64 {value : Int} :
    int64.contains value = true ↔ -0x8000000000000000 ≤ value ∧ value ≤ 0x7FFFFFFFFFFFFFFF := by
  rw [contains, Bool.and_eq_true, decide_eq_true_eq, decide_eq_true_eq]
  rfl

open Json

namespace TokenResponse

/-- What a response must be like to come back from its text. -/
structure Portable (response : TokenResponse) : Prop where
  scopes : response.scopes.Spaceless
  expiry : ∀ seconds, response.expiresIn = some seconds → IntegerBounds.int64.contains seconds = true
  others : ∀ member ∈ response.extra.entries, member.1 ∉ fixedNames
  ordered : MembersOrdered response.extra.entries
  faithful : MembersFaithful response.extra.entries
  shallow : response.toJson.depth ≤ nestingLimit

/-- The members that every response can have. -/
structure Fixed (response : TokenResponse) (members : List (String × Json)) : Prop where
  names : ∀ member ∈ members, member.1 ∈ fixedNames
  apart : (members.map Prod.fst).Nodup
  free : MembersFloatFree members
  flat : membersDepth members = 0
  accessToken : members.lookup "access_token" = some (.string response.accessToken)
  tokenType : members.lookup "token_type" = some (.string response.tokenType)
  expiresIn : members.lookup "expires_in" = response.expiresIn.map .int
  scopes : members.lookup "scope" = if response.scopes = [] then none else some (.string response.scopes.render)

theorem exists_fixed (response : TokenResponse) :
    ∃ members, response.Fixed members ∧ response.toJson = .object (members ++ response.extra.entries) := by
  have names : fixedNames = ["access_token", "token_type", "expires_in", "scope"] := rfl
  obtain ⟨accessToken, tokenType, expiresIn, scopes, extra⟩ := response
  refine ⟨_, ?_, rfl⟩
  cases expiresIn <;> cases scopes <;> constructor <;>
    simp [names, MembersFloatFree, FloatFree, membersDepth, Json.depth, List.lookup_cons]

theorem membersDepth_append (first second : List (String × Json)) :
    membersDepth (first ++ second) = max (membersDepth first) (membersDepth second) := by
  induction first with
  | nil => exact (Nat.zero_max _).symm
  | cons member rest ih => rw [List.cons_append, membersDepth, ih, membersDepth, Nat.max_assoc]

/-- Only the further members can be nested. -/
theorem depth_toJson (response : TokenResponse) :
    response.toJson.depth = membersDepth response.extra.entries + 1 := by
  obtain ⟨members, fixed, same⟩ := response.exists_fixed
  rw [same, Json.depth, membersDepth_append, fixed.flat, Nat.zero_max]

variable {response : TokenResponse} {members : List (String × Json)}

/-- The fixed members are told from the others by their names. -/
theorem Fixed.filter (fixed : response.Fixed members)
    (others : ∀ member ∈ response.extra.entries, member.1 ∉ fixedNames) :
    ((members ++ response.extra.entries).filter fun member => fixedNames.contains member.1) = members := by
  have kept : (members.filter fun member => fixedNames.contains member.1) = members :=
    List.filter_eq_self.mpr fun member listed => List.contains_iff_mem.mpr (fixed.names member listed)
  have left : (response.extra.entries.filter fun member => fixedNames.contains member.1) = [] :=
    List.filter_eq_nil_iff.mpr fun member listed known => others member listed (List.contains_iff_mem.mp known)
  rw [List.filter_append, kept, left, List.append_nil]

theorem Fixed.filter_others (fixed : response.Fixed members)
    (others : ∀ member ∈ response.extra.entries, member.1 ∉ fixedNames) :
    ((memberDocuments (members ++ response.extra.entries)).filter fun (key, _) => !(key.any fixedNames.contains)) =
      memberDocuments response.extra.entries := by
  have left : (members.filter fun member => !fixedNames.contains member.1) = [] :=
    List.filter_eq_nil_iff.mpr fun member listed => by simpa using fixed.names member listed
  have kept : (response.extra.entries.filter fun member => !fixedNames.contains member.1) = response.extra.entries :=
    List.filter_eq_self.mpr fun member listed => by simpa using others member listed
  rw [memberDocuments_eq_map, memberDocuments_eq_map, List.filter_map]
  congr 1
  change (members ++ response.extra.entries).filter (fun member => !fixedNames.contains member.1) = _
  rw [List.filter_append, left, kept, List.nil_append]

theorem scopes_printed (fixed : response.Fixed members) (spaceless : response.scopes.Spaceless) (depth : Nat) :
    ((Record.printed members depth).withDefault "scope" "" .string).map WordList.parseSpaced =
      some response.scopes := by
  have found := fixed.scopes
  split at found
  · next none =>
    rw [Record.withDefault_absent found, none]
    rfl
  · have text : (Record.printed members depth).withDefault "scope" "" .string =
        some response.scopes.render := Record.withDefault_printed found rfl
    rw [text, Option.map_some, WordList.parseSpaced_render spaceless]

theorem expiresIn_printed (fixed : response.Fixed members)
    (expiry : ∀ seconds, response.expiresIn = some seconds → IntegerBounds.int64.contains seconds = true)
    (depth : Nat) :
    (Record.printed members depth).nullable "expires_in" (.integer .int64) = some response.expiresIn := by
  have found := fixed.expiresIn
  cases given : response.expiresIn with
  | none =>
    rw [given] at found
    exact Record.nullable_absent found
  | some seconds =>
    rw [given] at found
    have within := expiry seconds given
    have bounds := IntegerBounds.contains_int64.mp within
    have wide : -0x8000000000000000 ≤ seconds ∧ seconds ≤ 0xFFFFFFFFFFFFFFFF := by omega
    refine Record.nullable_printed found ?_
    simp [Reader.nullable, Reader.integer, document, NumberText.value?_ofInt wide, within]

theorem Portable.floatFree (portable : response.Portable) : response.toJson.FloatFree := by
  obtain ⟨members, fixed, same⟩ := response.exists_fixed
  rw [same]
  refine membersFloatFree_iff.mpr fun member listed => ?_
  rcases List.mem_append.mp listed with first | other
  · exact membersFloatFree_iff.mp fixed.free member first
  · exact membersFloatFree_iff.mp (MembersFaithful.floatFree _ portable.faithful) member other

/-- A response is read from what is written for it as it was. -/
theorem parse?_render (portable : response.Portable) :
    Reader.parse? reader response.toJson.render = some response := by
  rw [Reader.parse?_render portable.floatFree]
  obtain ⟨members, fixed, same⟩ := response.exists_fixed
  have shallow : membersDepth response.extra.entries ≤ 126 := by
    have limit := portable.shallow
    rw [response.depth_toJson, nestingLimit] at limit
    exact Nat.le_of_succ_le_succ limit
  let record := Record.printed members 126
  have read : Record.ofMembers? fixedNames 126 (memberDocuments (members ++ response.extra.entries)) = some record := by
    have kept := fixed.filter portable.others
    have named := Record.ofMembers?_memberDocuments fixedNames _ 126 (kept.symm ▸ fixed.apart)
    rwa [kept] at named
  have accessToken : record.required "access_token" .string = some response.accessToken :=
    Record.required_printed fixed.accessToken rfl
  have tokenType : record.required "token_type" .string = some response.tokenType :=
    Record.required_printed fixed.tokenType rfl
  have expiresIn : record.nullable "expires_in" (.integer .int64) = some response.expiresIn :=
    expiresIn_printed fixed portable.expiry 126
  obtain ⟨text, scope, scopes⟩ : ∃ text, record.withDefault "scope" "" .string = some text ∧
      WordList.parseSpaced text = response.scopes :=
    Option.map_eq_some_iff.mp (scopes_printed fixed portable.scopes 126)
  have extra : (Reader.table .any) 127
      (Json.object (response.extra.entries.map fun entry => (entry.1, entry.2))).document = some response.extra :=
    Reader.table_document (fun value => value) (.refl _) fun _ member =>
      Document.valueWith?_of_mem portable.ordered portable.faithful shallow member
  rw [List.map_id'] at extra
  rw [same]
  change reader (126 + 1) (.object (memberDocuments (members ++ response.extra.entries))) = _
  rw [reader, fixed.filter_others portable.others, read]
  simp only [Option.bind_eq_bind, Option.bind_some, accessToken, tokenType, expiresIn, scope, scopes]
  change (((Reader.table .any) 127 (Json.object response.extra.entries).document).bind _) = _
  rw [extra]
  rfl

end TokenResponse

namespace Specimen

def adding (value : Json) : TokenResponse where
  accessToken := "a"
  tokenType := "b"
  extra := Table.ofList [("x", value)]

end Specimen

/-- An object with the mark of an embedded text for its first key comes back as the value of that text. -/
theorem TokenResponse.embedded_text_is_read :
    let response := Specimen.adding (.object [(embeddingKey, .string "1")])
    response.scopes.Spaceless ∧ response.expiresIn = none ∧
      (∀ member ∈ response.extra.entries, member.1 ∉ fixedNames) ∧ MembersOrdered response.extra.entries ∧
      MembersFloatFree response.extra.entries ∧ response.toJson.depth ≤ nestingLimit ∧
      Reader.parse? reader response.toJson.render = some (Specimen.adding (.int 1)) ∧
      Specimen.adding (.int 1) ≠ response := by
  intro response
  have ordered : MembersOrdered [("x", .object [(embeddingKey, .string "1")])] :=
    ⟨⟨List.pairwise_singleton _ _, trivial, trivial⟩, trivial⟩
  exact ⟨nofun, rfl, by decide +kernel, ordered, ⟨⟨trivial, trivial⟩, trivial⟩, by decide +kernel,
    by decide +kernel, by decide +kernel⟩

end TokenServer
