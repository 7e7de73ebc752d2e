import TokenServer.Proofs.SignedToken

/-! The grammar of signed tokens. The texts that a signer accepts are a key with something to it and the code of the
key, each in its one canonical form: a token is one text, and its signature is the second part of it. Nothing is asked
of the codes but that there is something to them. -/

namespace TokenServer

namespace SignedToken

variable {token : String}

/-- The text has not exactly one dot, or a part of it is empty or no canonical base64. -/
def Misspelt (token : String) : Prop :=
  token.toList.count '.' ≠ 1 ∨ ∃ key signature, token.toList = key ++ '.' :: signature ∧
    (key = [] ∨ signature = [] ∨ ¬ Base64.Canonical key ∨ ¬ Base64.Canonical signature)

/-- The parts are all that stands before and behind the only dot. -/
theorem parts?_eq_some_iff {key signature : List Char} : parts? token = some (key, signature) ↔
    token.toList = key ++ '.' :: signature ∧ token.toList.count '.' = 1 := by
  constructor
  · intro found
    have dotted : '.' ∈ token.toList := by
      refine Decidable.byContradiction fun undotted => ?_
      rw [parts?_of_undotted undotted] at found
      cases found
    obtain ⟨before, behind, written, first⟩ := List.eq_append_cons_of_mem dotted
    rw [parts?_of_first written first] at found
    split at found
    · cases found
    · next once =>
      cases found
      have last : '.' ∉ signature := by simpa using once
      refine ⟨written, ?_⟩
      rw [written, List.count_append, List.count_cons_self, List.count_eq_zero_of_not_mem first,
        List.count_eq_zero_of_not_mem last]
  · rintro ⟨written, one⟩
    rw [written, List.count_append, List.count_cons_self] at one
    exact parts?_of_dot written ⟨List.count_eq_zero.mp (by omega), List.count_eq_zero.mp (by omega)⟩

/-- A text is spelt well if it is two pieces of bytes as they are written. -/
theorem not_misspelt_iff : ¬ Misspelt token ↔ ∃ key signature : Bytes, key ≠ [] ∧ signature ≠ [] ∧
    token.toList = Base64.urlSafe.encode key ++ '.' :: Base64.urlSafe.encode signature := by
  constructor
  · intro well
    have one : token.toList.count '.' = 1 := Decidable.byContradiction fun other => well (.inl other)
    have dotted : '.' ∈ token.toList := List.count_pos_iff.mp (one ▸ Nat.one_pos)
    obtain ⟨key, signature, written, _⟩ := List.eq_append_cons_of_mem dotted
    have sound : ¬ (key = [] ∨ signature = [] ∨ ¬ Base64.Canonical key ∨ ¬ Base64.Canonical signature) :=
      fun fault => well (.inr ⟨key, signature, written, fault⟩)
    simp only [not_or, Classical.not_not, Base64.canonical_iff] at sound
    obtain ⟨keyed, signed, ⟨keyBytes, rfl⟩, ⟨signatureBytes, rfl⟩⟩ := sound
    refine ⟨keyBytes, signatureBytes, ?_, ?_, written⟩
    · rintro rfl
      exact keyed rfl
    · rintro rfl
      exact signed rfl
  · rintro ⟨key, signature, keyed, signed, written⟩ misspelt
    have found := parts?_of_dot written ⟨Signer.dot_not_mem_armoured _, Signer.dot_not_mem_armoured _⟩
    have one := (parts?_eq_some_iff.mp found).2
    rcases misspelt with other | ⟨before, behind, cut, fault⟩
    · exact other one
    · -- There is one way to cut the text.
      rw [parts?_eq_some_iff.mpr ⟨cut, one⟩] at found
      cases found
      rcases fault with blank | blank | stray | stray
      · exact Base64.encode_ne_nil keyed blank
      · exact Base64.encode_ne_nil signed blank
      · exact stray (Base64.canonical_iff.mpr ⟨key, rfl⟩)
      · exact stray (Base64.canonical_iff.mpr ⟨signature, rfl⟩)

theorem decode_eq_ok_iff {key signature : Bytes} : decode token = .ok (key, signature) ↔
    key ≠ [] ∧ signature ≠ [] ∧
      token.toList = Base64.urlSafe.encode key ++ '.' :: Base64.urlSafe.encode signature := by
  constructor
  · intro decoded
    rw [decode] at decoded
    split at decoded
    · cases decoded
    · next before behind found =>
      split at decoded
      · cases decoded
      · next present =>
        split at decoded
        · cases decoded
        · cases decoded
        · next _ _ _ _ first second =>
          cases decoded
          rw [← Base64.encode_of_decode? first, ← Base64.encode_of_decode? second] at found present
          refine ⟨?_, ?_, (parts?_eq_some_iff.mp found).1⟩
          · rintro rfl
            exact present (.inl rfl)
          · rintro rfl
            exact present (.inr rfl)
  · rintro ⟨keyed, signed, written⟩
    have found := parts?_of_dot written ⟨Signer.dot_not_mem_armoured _, Signer.dot_not_mem_armoured _⟩
    have present : (Base64.urlSafe.encode key).isEmpty = false ∧ (Base64.urlSafe.encode signature).isEmpty = false :=
      ⟨List.isEmpty_eq_false_iff.mpr (Base64.encode_ne_nil keyed),
        List.isEmpty_eq_false_iff.mpr (Base64.encode_ne_nil signed)⟩
    simp [decode, found, present, Base64.lawful_urlSafe.decode?_encode]

theorem exists_decode_error_iff : (∃ fault, decode token = .error fault) ↔ Misspelt token := by
  cases decoded : decode token with
  | error fault =>
    refine ⟨fun _ => Classical.byContradiction fun well => ?_, fun _ => ⟨fault, rfl⟩⟩
    obtain ⟨key, signature, spelt⟩ := not_misspelt_iff.mp well
    rw [decode_eq_ok_iff.mpr spelt] at decoded
    cases decoded
  | ok parts =>
    have well : ¬ Misspelt token := not_misspelt_iff.mpr ⟨_, _, decode_eq_ok_iff.mp decoded⟩
    exact ⟨fun ⟨_, wrong⟩ => (nomatch wrong), fun misspelt => absurd misspelt well⟩

end SignedToken

namespace Signer

variable {signer : Signer} {token : String} {key : Bytes}

/-- The text of a key and its code. -/
def Spells (signer : Signer) (key : Bytes) (token : String) : Prop :=
  key ≠ [] ∧ token.toList = Base64.urlSafe.encode key ++ '.' :: Base64.urlSafe.encode (signer.code key)

theorem Spells.signatureOf (spells : signer.Spells key token) :
    (SignedToken.signatureOf token).toList = Base64.urlSafe.encode (signer.code key) := by
  have found := SignedToken.parts?_of_dot spells.2 ⟨dot_not_mem_armoured _, dot_not_mem_armoured _⟩
  rw [SignedToken.signatureOf, found, String.toList_ofList]

/-- The text is that of a key and its code, and there is something to both. -/
def Signed (signer : Signer) (token : String) : Prop := ∃ key, signer.Spells key token ∧ signer.code key ≠ []

/-- Whatever the codes are, a signer accepts what it could have signed. -/
theorem validate_eq_ok_iff_signed : signer.validate token = .ok () ↔ signer.Signed token := by
  constructor
  · intro valid
    rw [validate] at valid
    split at valid
    · cases valid
    · next key signature decoded =>
      split at valid
      · next same =>
        obtain ⟨keyed, coded, written⟩ := SignedToken.decode_eq_ok_iff.mp decoded
        exact ⟨key, ⟨keyed, same ▸ written⟩, same ▸ coded⟩
      · cases valid
  · rintro ⟨key, ⟨keyed, written⟩, coded⟩
    have decoded : SignedToken.decode token = .ok (key, signer.code key) :=
      SignedToken.decode_eq_ok_iff.mpr ⟨keyed, coded, written⟩
    simp [validate, decoded]

theorem validate_eq_ok_iff (coded : signer.Coded) :
    signer.validate token = .ok () ↔ ∃ key, signer.Spells key token := by
  rw [validate_eq_ok_iff_signed]
  exact exists_congr fun key => and_iff_left_of_imp fun spells => coded key spells.1

theorem exists_malformed_iff :
    (∃ fault, signer.validate token = .error (.malformedToken fault)) ↔ SignedToken.Misspelt token := by
  rw [← SignedToken.exists_decode_error_iff, validate]
  cases SignedToken.decode token with
  | error fault => simp
  | ok parts =>
    constructor
    · rintro ⟨fault, wrong⟩
      dsimp only at wrong
      split at wrong <;> cases wrong
    · rintro ⟨fault, wrong⟩
      cases wrong

/-- A text is accepted, misspelt, or has a signature that is not that of its key. -/
theorem validate_cases (signer : Signer) (token : String) : signer.validate token = .ok () ∨
    (∃ fault, signer.validate token = .error (.malformedToken fault)) ∨
      signer.validate token = .error .signatureMismatch := by
  rw [validate]
  split
  · exact .inr (.inl ⟨_, rfl⟩)
  · split
    · exact .inl rfl
    · exact .inr (.inr rfl)

/-- What a signer makes of texts: which of them it accepts, with what signature, and what is wrong with the others. -/
structure Grammar (signer : Signer) : Prop where
  accepted : ∀ token, signer.validate token = .ok () ↔ ∃ key, signer.Spells key token
  signed : ∀ token key, signer.Spells key token →
    (SignedToken.signatureOf token).toList = Base64.urlSafe.encode (signer.code key)
  made : ∀ key ≠ [], signer.validate (signer.sign key).token = .ok () ∧
    SignedToken.signatureOf (signer.sign key).token = (signer.sign key).signature
  malformed : ∀ token, (∃ fault, signer.validate token = .error (.malformedToken fault)) ↔
    SignedToken.Misspelt token
  mismatched : ∀ token, signer.validate token = .error .signatureMismatch ↔
    ¬ SignedToken.Misspelt token ∧ ¬ ∃ key, signer.Spells key token
  /-- Two tokens share a signature only if their keys share a code. -/
  collision : ∀ token other, signer.validate token = .ok () → signer.validate other = .ok () → token ≠ other →
    SignedToken.signatureOf token = SignedToken.signatureOf other →
      ∃ key second, signer.Spells key token ∧ signer.Spells second other ∧ key ≠ second ∧
        signer.code key = signer.code second

theorem grammar_of_coded (coded : signer.Coded) : signer.Grammar where
  accepted _ := validate_eq_ok_iff coded
  signed _ _ spells := spells.signatureOf
  made key keyed := ⟨validate_sign signer keyed (coded key keyed), SignedToken.signatureOf_sign signer key⟩
  malformed _ := exists_malformed_iff
  mismatched token := by
    have misspelt : (∃ fault, signer.validate token = .error (.malformedToken fault)) ↔ SignedToken.Misspelt token :=
      exists_malformed_iff
    rw [← misspelt, ← validate_eq_ok_iff coded]
    constructor
    · intro mismatch
      rw [mismatch]
      exact ⟨fun ⟨_, wrong⟩ => (nomatch wrong), fun wrong => (nomatch wrong)⟩
    · rintro ⟨well, refused⟩
      exact ((validate_cases signer token).resolve_left refused).resolve_left well
  collision token other valid otherValid differ same := by
    obtain ⟨key, spells⟩ := (validate_eq_ok_iff coded).mp valid
    obtain ⟨second, otherSpells⟩ := (validate_eq_ok_iff coded).mp otherValid
    have codes : Base64.urlSafe.encode (signer.code key) = Base64.urlSafe.encode (signer.code second) := by
      rw [← spells.signatureOf, ← otherSpells.signatureOf, same]
    refine ⟨key, second, spells, otherSpells, ?_, Base64.lawful_urlSafe.encode_injective codes⟩
    rintro rfl
    exact differ (String.toList_inj.mp (spells.2.trans otherSpells.2.symm))

/-- A signer accepts the texts of keys with their codes and no others, whatever the codes of 48 bytes are. All secrets
that are long enough make such signers, whose codes are those of HMAC with SHA-384. -/
theorem token_grammar :
    (∀ signer : Signer, (∀ key, (signer.code key).length = 48) → signer.Grammar) ∧
    ∀ secret : Bytes, leastSecret ≤ secret.length →
      ∃ signer, ofSecret secret = .ok signer ∧ (∀ key, signer.code key = Sha512.hmacSha384 secret key) ∧
        (∀ key, (signer.code key).length = 48) ∧ signer.Grammar := by
  have grammar : ∀ signer : Signer, (∀ key, (signer.code key).length = 48) → signer.Grammar :=
    fun signer length => grammar_of_coded fun key _ => List.ne_nil_of_length_pos (length key ▸ by decide)
  refine ⟨grammar, fun secret long => ?_⟩
  have length : ∀ key, (Sha512.hmacSha384 secret key).length = 48 := fun _ => Sha512.length_sha384 _
  exact ⟨⟨Sha512.hmacSha384 secret⟩, if_neg (Nat.not_lt.mpr long), fun _ => rfl, length, grammar _ length⟩

def ofLength : Signer := ⟨fun key => List.replicate 48 (UInt8.ofNat key.length)⟩

/-- Two tokens share their signature, and so their keys have one code. A stray bit in a key, or another code, and the
text is refused. -/
theorem ofLength_grammar :
    (∀ key, (ofLength.code key).length = 48) ∧ leastSecret ≤ (List.replicate leastSecret (0 : UInt8)).length ∧
    (∃ signer, ofSecret (List.replicate leastSecret 0) = .ok signer ∧ signer.Grammar) ∧
    ofLength.validate (ofLength.sign [1]).token = .ok () ∧ ofLength.validate (ofLength.sign [2]).token = .ok () ∧
    (∃ key second, key ≠ second ∧ ofLength.code key = ofLength.code second) ∧
    SignedToken.Misspelt "AR.AAAA" ∧ ¬ SignedToken.Misspelt "AQ.AAAA" := by
  have length : ∀ key, (ofLength.code key).length = 48 := fun _ => List.length_replicate
  have grammar := token_grammar.1 ofLength length
  obtain ⟨signer, made, _, _, others⟩ := token_grammar.2 (List.replicate leastSecret 0) (by decide)
  have first := (grammar.made [1] (by decide)).1
  have second := (grammar.made [2] (by decide)).1
  obtain ⟨key, other, _, _, differ, same⟩ :=
    grammar.collision _ _ first second (by decide +kernel) (by decide +kernel)
  exact ⟨length, by decide, ⟨signer, made, others⟩, first, second, ⟨key, other, differ, same⟩,
    (grammar.malformed _).mp ⟨.keyNotBase64, rfl⟩,
    ((grammar.mismatched _).mp rfl).1⟩

end Signer

end TokenServer
