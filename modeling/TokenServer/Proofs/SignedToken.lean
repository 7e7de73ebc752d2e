import TokenServer.Proofs.Base64
import TokenServer.SignedToken

/-! The signatures of tokens. A text has one if it has one dot with something behind it. The tokens that a signer
makes do, so that their signature is found again, and the signer accepts them. -/

namespace TokenServer

theorem Signer.dot_not_mem_armoured (bytes : Bytes) : '.' ∉ armoured bytes := by
  intro member
  rcases Base64.mem_encode member with marked | ⟨bits, bound, same⟩
  · cases marked
  · have differ : ∀ bits < 64, '.' ≠ Base64.urlSafe.digit bits := by decide
    exact differ bits bound same

namespace SignedToken

theorem parts?_of_first {token : String} {key rest : List Char} (written : token.toList = key ++ '.' :: rest)
    (first : '.' ∉ key) : parts? token = if rest.contains '.' then none else some (key, rest) := by
  have before : ∀ c ∈ key, decide (c ≠ '.') = true := by
    intro c member
    exact decide_eq_true fun same => first (same ▸ member)
  rw [parts?, written, List.takeWhile_append_of_pos before, List.dropWhile_append_of_pos before]
  simp

theorem parts?_of_dot {token : String} {key signature : List Char} (written : token.toList = key ++ '.' :: signature)
    (one : '.' ∉ key ∧ '.' ∉ signature) : parts? token = some (key, signature) := by
  rw [parts?_of_first written one.1, if_neg (by simpa using one.2)]

theorem parts?_of_undotted {token : String} (undotted : '.' ∉ token.toList) : parts? token = none := by
  have before : ∀ c ∈ token.toList, decide (c ≠ '.') = true := by
    intro c member
    exact decide_eq_true fun same => undotted (same ▸ member)
  rw [parts?, ← List.append_nil token.toList, List.dropWhile_append_of_pos before]
  rfl

/-- The text has no signature: it has not exactly one dot, or nothing behind it. -/
def Malformed (token : String) : Prop := token.toList.count '.' ≠ 1 ∨ token.toList.getLast? = some '.'

instance (token : String) : Decidable (Malformed token) := inferInstanceAs (Decidable (_ ∨ _))

/-- A text has one dot, with its signature behind it, or it has no signature. -/
theorem signatureOf_cases (token : String) :
    (∃ key, token.toList = key ++ '.' :: (signatureOf token).toList ∧ '.' ∉ key ∧
        '.' ∉ (signatureOf token).toList) ∨
      signatureOf token = "" ∧ token.toList.count '.' ≠ 1 := by
  by_cases dotted : '.' ∈ token.toList
  · obtain ⟨key, rest, written, first⟩ := List.eq_append_cons_of_mem dotted
    have parts := parts?_of_first written first
    cases again : rest.contains '.' with
    | true =>
      rw [again] at parts
      have positive : 0 < rest.count '.' := List.count_pos_iff.mpr (by simpa using again)
      have twice : token.toList.count '.' = rest.count '.' + 1 := by
        rw [written, List.count_append, List.count_cons_self, List.count_eq_zero_of_not_mem first, Nat.zero_add]
      refine .inr ⟨?_, by omega⟩
      rw [signatureOf, parts]
      rfl
    | false =>
      rw [again] at parts
      have found : signatureOf token = String.ofList rest := by
        rw [signatureOf, parts]
        rfl
      rw [found, String.toList_ofList]
      exact .inl ⟨key, written, first, by simpa using again⟩
  · refine .inr ⟨?_, ?_⟩
    · rw [signatureOf, parts?_of_undotted dotted]
    · rw [List.count_eq_zero_of_not_mem dotted]
      exact Nat.zero_ne_one

theorem dot_not_mem_signatureOf (token : String) : '.' ∉ (signatureOf token).toList := by
  rcases signatureOf_cases token with ⟨_, _, _, undotted⟩ | ⟨blank, _⟩
  · exact undotted
  · rw [blank]
    exact List.not_mem_nil

/-- Malformed texts have the empty signature, and no others have. -/
theorem signatureOf_eq_empty_iff {token : String} : signatureOf token = "" ↔ Malformed token := by
  rcases signatureOf_cases token with ⟨key, written, first, undotted⟩ | ⟨blank, count⟩
  · have one : token.toList.count '.' = 1 := by
      rw [written, List.count_append, List.count_cons_self, List.count_eq_zero_of_not_mem first,
        List.count_eq_zero_of_not_mem undotted]
    have last : token.toList.getLast? = ('.' :: (signatureOf token).toList).getLast? := by
      rw [written, List.getLast?_append, List.getLast?_cons]
      rfl
    constructor
    · intro blank
      rw [blank] at last
      exact .inr last
    · rintro (other | ended)
      · exact absurd one other
      · -- The last character is that of the signature, which has no dot, unless there is no signature.
        rw [last] at ended
        cases signed : (signatureOf token).toList with
        | nil => exact String.toList_inj.mp signed
        | cons c rest =>
          rw [signed, List.getLast?_cons_cons] at ended
          exact absurd (signed ▸ List.mem_of_getLast? ended) undotted
  · exact ⟨fun _ => .inl count, fun _ => blank⟩

variable (signer : Signer) (key : Bytes)

theorem parts?_sign :
    parts? (signer.sign key).token = some (Signer.armoured key, Signer.armoured (signer.code key)) :=
  parts?_of_dot String.toList_ofList ⟨Signer.dot_not_mem_armoured _, Signer.dot_not_mem_armoured _⟩

theorem signatureOf_sign : signatureOf (signer.sign key).token = (signer.sign key).signature := by
  rw [signatureOf, parts?_sign]
  rfl

theorem sign_ne_empty : (signer.sign key).token ≠ "" := by
  intro blank
  have parts := parts?_sign signer key
  rw [blank] at parts
  cases parts

end SignedToken

/-- A signer accepts the tokens that it makes of keys with something to them. -/
theorem Signer.validate_sign (signer : Signer) {key : Bytes} (keyed : key ≠ []) (coded : signer.code key ≠ []) :
    signer.validate (signer.sign key).token = .ok () := by
  have parts : (armoured key).isEmpty = false ∧ (armoured (signer.code key)).isEmpty = false :=
    ⟨List.isEmpty_eq_false_iff.mpr (Base64.encode_ne_nil keyed),
      List.isEmpty_eq_false_iff.mpr (Base64.encode_ne_nil coded)⟩
  have read : ∀ bytes, Base64.urlSafe.decode? (armoured bytes) = some bytes :=
    Base64.lawful_urlSafe.decode?_encode
  have decoded : SignedToken.decode (signer.sign key).token = .ok (key, signer.code key) := by
    simp [SignedToken.decode, SignedToken.parts?_sign, parts, read]
  simp [validate, decoded]

/-- Keys with something to them have codes with something to them. -/
def Signer.Coded (signer : Signer) : Prop := ∀ key, key ≠ [] → signer.code key ≠ []

theorem Sha512.length_sha384 (message : Bytes) : (sha384 message).length = 48 := by
  have state : ∀ s : State, s.bytes.length = 64 := by
    intro s
    simp [State.bytes, Words.bigEndian, Words.length_littleEndian]
  rw [sha384, List.length_take, hash, state]
  rfl

theorem Signer.code_ne_nil {secret : Bytes} {signer : Signer} (made : ofSecret secret = .ok signer) (key : Bytes) :
    signer.code key ≠ [] := by
  rw [ofSecret] at made
  split at made
  · cases made
  · cases made
    have length : (Sha512.hmacSha384 secret key).length = 48 := Sha512.length_sha384 _
    exact List.ne_nil_of_length_pos (length ▸ by decide)

end TokenServer
