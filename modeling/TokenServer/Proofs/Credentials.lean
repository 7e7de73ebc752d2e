import Mathlib.Data.List.TakeWhile
import TokenServer.Http.Credentials
import TokenServer.Proofs.Base64
import TokenServer.Proofs.Form

/-! The credentials of a client. From the header they are read as they were put there, whatever characters they have.
In the body they are escaped once more than the form that holds them. -/

namespace TokenServer

theorem Base64.printable_of_mem_encode {bytes : Bytes} {c : Char} (member : c ∈ standard.encode bytes) :
    (0x20 ≤ c.toNat ∧ c.toNat < 0x7F) ∧ isBlank c = false := by
  have digits : ∀ bits < 64, (0x20 ≤ (standard.digit bits).toNat ∧ (standard.digit bits).toNat < 0x7F) ∧
      isBlank (standard.digit bits) = false := by decide
  rcases mem_encode member with rfl | ⟨bits, bound, rfl⟩
  · decide
  · exact digits bits bound

namespace HttpRequest

theorem splitOnce?_eq_some_iff {mark : Char} {text before behind : List Char} :
    splitOnce? mark text = some (before, behind) ↔ text = before ++ mark :: behind ∧ mark ∉ before := by
  constructor
  · intro split
    have parts := List.takeWhile_append_dropWhile (p := (· ≠ mark)) (l := text)
    rw [splitOnce?] at split
    cases found : text.dropWhile (· ≠ mark) with
    | nil =>
      rw [found] at split
      cases split
    | cons c rest =>
      rw [found] at split parts
      cases split
      have first : ¬ decide (c ≠ mark) = true := by
        have stopped := List.head?_dropWhile_not (· ≠ mark) text
        rw [found] at stopped
        simpa using stopped
      have same : c = mark := by simpa using first
      subst same
      refine ⟨parts.symm, fun member => ?_⟩
      simpa using List.mem_takeWhile_imp member
  · rintro ⟨rfl, first⟩
    obtain ⟨taken, dropped⟩ := Form.cut_of_not_mem first behind
    rw [splitOnce?, taken, dropped]

theorem header?_setHeader (request : HttpRequest) (name : String) (value : Bytes) :
    (request.setHeader name value).header? name = some value := by
  have absent : (request.headers.filter (·.1 ≠ name)).lookup name = none := by
    rw [List.lookup_eq_none_iff]
    intro header member
    have differ : header.1 ≠ name := of_decide_eq_true (List.mem_filter.mp member).2
    exact bne_iff_ne.mpr (Ne.symm differ)
  rw [header?, setHeader, List.lookup_append, absent, Option.none_or, List.lookup_cons_self]

theorem header?_setHeader_of_ne (request : HttpRequest) {name other : String} (differ : other ≠ name) (value : Bytes) :
    (request.setHeader name value).header? other = request.header? other := by
  have kept : (request.headers.filter (·.1 ≠ name)).lookup other = request.headers.lookup other := by
    induction request.headers with
    | nil => rfl
    | cons header rest ih =>
      by_cases same : header.1 = name
      · rw [List.filter_cons_of_neg (by simpa using same), ih, List.lookup_cons, same, beq_eq_false_iff_ne.mpr differ]
      · rw [List.filter_cons_of_pos (by simpa using same), List.lookup_cons, List.lookup_cons, ih]
  rw [header?, setHeader, List.lookup_append, kept, List.lookup_cons, beq_eq_false_iff_ne.mpr differ]
  exact Option.or_none

def basicScheme : List Char := ['B', 'a', 's', 'i', 'c', ' ']

theorem headerText?_withRawBasicAuth (request : HttpRequest) (pair : Bytes) :
    (request.withRawBasicAuth pair).headerText? "authorization" =
      some (String.ofList (basicScheme ++ Base64.standard.encode pair)) := by
  have printable : ∀ c ∈ basicScheme ++ Base64.standard.encode pair, 0x20 ≤ c.toNat ∧ c.toNat < 0x7F := by
    intro c member
    rcases List.mem_append.mp member with named | written
    · have all : ∀ c ∈ basicScheme, 0x20 ≤ c.toNat ∧ c.toNat < 0x7F := by simp [basicScheme]
      exact all c named
    · exact (Base64.printable_of_mem_encode written).1
  rw [headerText?, withRawBasicAuth, header?_setHeader]
  exact Utf8.visible?_ascii printable

theorem basicAuth?_withRawBasicAuth (request : HttpRequest) {pair : Bytes} (given : pair ≠ []) :
    (request.withRawBasicAuth pair).basicAuth? = userAndPassword? (Base64.standard.encode pair) := by
  have filled : Base64.standard.encode pair ≠ [] := Base64.encode_ne_nil given
  have unblank : ∀ c ∈ Base64.standard.encode pair, isBlank c = false :=
    fun _ member => (Base64.printable_of_mem_encode member).2
  have value : trim (basicScheme ++ Base64.standard.encode pair) = basicScheme ++ Base64.standard.encode pair := by
    refine trim_of_unblank (by rintro _ ⟨⟩; decide) fun c last => ?_
    rw [List.getLast?_append, List.getLast?_eq_some_getLast filled, Option.some_or] at last
    exact unblank c (Option.some.inj last ▸ List.getLast_mem filled)
  have encoded : trim (Base64.standard.encode pair) = Base64.standard.encode pair :=
    trim_of_unblank (fun c first => unblank c (List.mem_of_head? first))
      fun c last => unblank c (List.mem_of_getLast? last)
  have parted : splitOnce? ' ' (basicScheme ++ Base64.standard.encode pair) =
      some (['B', 'a', 's', 'i', 'c'], Base64.standard.encode pair) :=
    splitOnce?_eq_some_iff.mpr ⟨rfl, by decide⟩
  rw [basicAuth?, headerText?_withRawBasicAuth, Option.bind_eq_bind, Option.bind_some, String.toList_ofList, value,
    parted, Option.bind_eq_bind, Option.bind_some]
  exact congrArg userAndPassword? encoded

/-- Escaped names have no colon, so that the first one parts them. -/
theorem colon_not_mem_asciiText (name : Bytes) : ':' ∉ (Utf8.asciiText (Escape.encode name)).toList := by
  have only : ∀ n < 128, Char.ofNat n = ':' → UInt8.ofNat n = 0x3A := by decide
  rw [Utf8.toList_asciiText, List.mem_map]
  rintro ⟨byte, member, colon⟩
  have same := only byte.toNat (Escape.ascii_of_mem_encode member) colon
  rw [UInt8.ofNat_toNat] at same
  subst same
  rcases Escape.mem_encode member with kept | sign
  · cases kept
  · cases sign

theorem basicAuth?_withBasicAuth (request : HttpRequest) (user password : String) :
    (request.withBasicAuth user password).basicAuth? =
      some ⟨Utf8.asciiText (Escape.encode (Utf8.encode user)),
        Utf8.asciiText (Escape.encode (Utf8.encode password))⟩ := by
  generalize first : Escape.encode (Utf8.encode user) = name
  generalize second : Escape.encode (Utf8.encode password) = word
  have ascii : ∀ byte ∈ name ++ 0x3A :: word, byte < 0x80 := by
    intro byte member
    rw [List.mem_append, List.mem_cons] at member
    rcases member with named | rfl | worded
    · exact Escape.ascii_of_mem_encode (first ▸ named)
    · decide
    · exact Escape.ascii_of_mem_encode (second ▸ worded)
  have text : Utf8.decode (name ++ 0x3A :: word) = .ok (Utf8.asciiText (name ++ 0x3A :: word)) :=
    Utf8.decode_eq_ok_iff.mpr (Utf8.encode_asciiText ascii)
  have parted : splitOnce? ':' (Utf8.asciiText (name ++ 0x3A :: word)).toList =
      some ((Utf8.asciiText name).toList, (Utf8.asciiText word).toList) := by
    rw [splitOnce?_eq_some_iff, ← first]
    exact ⟨by simp only [Utf8.toList_asciiText, List.map_append, List.map_cons]; rfl, colon_not_mem_asciiText _⟩
  rw [withBasicAuth, basicAuth?_withRawBasicAuth _ (by simp), first, second, userAndPassword?,
    Base64.lawful_standard.decode?_encode]
  simp only [Option.bind_eq_bind, Option.bind_some, text, Except.toOption, parted, String.ofList_toList]
  rfl

end HttpRequest

namespace Credentials

/-- A part is the text that it spells, or it is malformed. -/
theorem decodePart_cases (part : CredentialPart) (location : CredentialLocation) (raw : String) :
    (∃ text, Escape.Spells (Utf8.encode raw) (Utf8.encode text) ∧ decodePart part location raw = .ok text) ∨
      (∀ text, ¬Escape.Spells (Utf8.encode raw) (Utf8.encode text)) ∧
        decodePart part location raw = .error (.malformed part location) := by
  cases read : Escape.unescape raw with
  | ok text =>
    refine .inl ⟨text, Escape.unescape_eq_ok_iff.mp read, ?_⟩
    rw [decodePart, read]
    rfl
  | error fault =>
    refine .inr ⟨fun text spelled => ?_, ?_⟩
    · cases (Escape.unescape_eq_ok_iff.mpr spelled).symm.trans read
    · rw [decodePart, read]
      rfl

/-- The parts are escaped texts of the id and of the secret. -/
def Spells (id secret : String) (credentials : Credentials) : Prop :=
  Escape.Spells (Utf8.encode id) (Utf8.encode credentials.id) ∧
    Escape.Spells (Utf8.encode secret) (Utf8.encode credentials.secret)

/-- What a pair of escaped parts comes to: the texts that they spell, or the first part that spells none. -/
inductive Decodes (id secret : String) (location : CredentialLocation) :
    Except CredentialsError Credentials → Prop where
  | read {name word : String} : Escape.Spells (Utf8.encode id) (Utf8.encode name) →
      Escape.Spells (Utf8.encode secret) (Utf8.encode word) → Decodes id secret location (.ok ⟨name, word⟩)
  | malformedId : (∀ name, ¬Escape.Spells (Utf8.encode id) (Utf8.encode name)) →
      Decodes id secret location (.error (.malformed .clientId location))
  | malformedSecret {name : String} : Escape.Spells (Utf8.encode id) (Utf8.encode name) →
      (∀ word, ¬Escape.Spells (Utf8.encode secret) (Utf8.encode word)) →
      Decodes id secret location (.error (.malformed .clientSecret location))

variable {id secret : String} {location : CredentialLocation} {credentials : Credentials}

theorem decodes_decode (id secret : String) (location : CredentialLocation) :
    Decodes id secret location (decode id secret location) := by
  rw [decode]
  rcases decodePart_cases .clientId location id with ⟨name, named, read⟩ | ⟨unnamed, read⟩ <;> rw [read]
  · rcases decodePart_cases .clientSecret location secret with ⟨word, worded, read⟩ | ⟨unworded, read⟩ <;> rw [read]
    · exact .read named worded
    · exact .malformedSecret named unworded
  · exact .malformedId unnamed

theorem decode_eq_ok_iff : decode id secret location = .ok credentials ↔ Spells id secret credentials := by
  have decodes := decodes_decode id secret location
  constructor
  · intro read
    rw [read] at decodes
    cases decodes with
    | read named worded => exact ⟨named, worded⟩
  · rintro ⟨named, worded⟩
    generalize decode id secret location = result at decodes
    cases decodes with
    | read namedToo wordedToo =>
      cases Utf8.encode_injective (named.unique namedToo)
      cases Utf8.encode_injective (worded.unique wordedToo)
      rfl
    | malformedId unnamed => exact absurd named (unnamed _)
    | malformedSecret _ unworded => exact absurd worded (unworded _)

/-- A client that the header names is known by the id and the secret that were put there, whatever they hold, and
whatever the body says. -/
theorem basic_round_trip (request : HttpRequest) (form : Table String) (id secret : String) :
    ofRequest (request.withBasicAuth id secret) form = .ok ⟨id, secret⟩ := by
  have ascii (text : String) : Utf8.encode (Utf8.asciiText (Escape.encode (Utf8.encode text))) =
      Escape.encode (Utf8.encode text) := Utf8.encode_asciiText fun _ => Escape.ascii_of_mem_encode
  rw [ofRequest, HttpRequest.basicAuth?_withBasicAuth]
  refine decode_eq_ok_iff.mpr ⟨?_, ?_⟩
  · rw [ascii]
    exact Escape.spells_encode _
  · rw [ascii]
    exact Escape.spells_encode _

theorem basicAuth?_formPost (pairs : List (String × String)) : (HttpRequest.formPost pairs).basicAuth? = none := rfl

/-- A text stands for itself unless it has a plus sign or a percent sign. -/
theorem spells_self_iff {text : String} :
    Escape.Spells (Utf8.encode text) (Utf8.encode text) ↔ '+' ∉ text.toList ∧ '%' ∉ text.toList := by
  have spaced : Escape.plus ∈ Utf8.encode text ↔ '+' ∈ text.toList := Utf8.mem_encode_iff (c := '+') (by decide)
  have signed : Escape.percent ∈ Utf8.encode text ↔ '%' ∈ text.toList := Utf8.mem_encode_iff (c := '%') (by decide)
  rw [Escape.Spells.self_iff, spaced, signed]

/-- A client that a form names is known by what the posted id and secret spell: they come back as they were posted
if and only if neither has a plus sign or a percent sign. -/
theorem posted_credentials_read {pairs more : List (String × String)} (named : id ≠ "")
    (others : ∀ pair ∈ more, pair.1 ≠ "client_id" ∧ pair.1 ≠ "client_secret")
    (posted : pairs.Perm (("client_id", id) :: ("client_secret", secret) :: more)) :
    ∃ form, (HttpRequest.formPost pairs).form = .ok form ∧
      Decodes id secret .body (ofRequest (HttpRequest.formPost pairs) form) ∧
      (ofRequest (HttpRequest.formPost pairs) form = .ok ⟨id, secret⟩ ↔
        ('+' ∉ id.toList ∧ '%' ∉ id.toList) ∧ '+' ∉ secret.toList ∧ '%' ∉ secret.toList) := by
  have idFound : pairs.lookup "client_id" = some id :=
    Form.lookup_of_perm posted (List.forall_mem_cons.mpr ⟨by simp, fun pair member => (others pair member).1⟩)
  have secretFound : pairs.lookup "client_secret" = some secret :=
    Form.lookup_of_perm (posted.trans (.swap _ _ _))
      (List.forall_mem_cons.mpr ⟨by simp, fun pair member => (others pair member).2⟩)
  have read : ofRequest (HttpRequest.formPost pairs) (.ofFirst pairs) = decode id secret .body := by
    rw [ofRequest, basicAuth?_formPost, Table.get?_ofFirst, Table.get?_ofFirst, idFound, secretFound]
    exact if_neg named
  refine ⟨.ofFirst pairs, HttpRequest.form_formPost pairs, read ▸ decodes_decode id secret .body, ?_⟩
  rw [read, decode_eq_ok_iff, Spells, spells_self_iff, spells_self_iff]

/-- A plus sign in a secret that is posted once escaped is read as a space. -/
theorem posted_plus_lost : ∃ form,
    (HttpRequest.formPost [("client_id", "app"), ("client_secret", "a+b")]).form = .ok form ∧
      ofRequest (HttpRequest.formPost [("client_id", "app"), ("client_secret", "a+b")]) form = .ok ⟨"app", "a b"⟩ ∧
      ofRequest (HttpRequest.formPost [("client_id", "app"), ("client_secret", "a+b")]) form ≠ .ok ⟨"app", "a+b"⟩ :=
  ⟨_, HttpRequest.form_formPost _, by decide +kernel, by decide +kernel⟩

def accented : List (String × String) :=
  [("grant_type", "client_credentials"), ("client_secret", "&client_id=x"), ("client_id", "café"), ("scope", "a+b")]

theorem accented_read : "café" ≠ "" ∧
    (∀ pair ∈ [("grant_type", "client_credentials"), ("scope", "a+b")],
      pair.1 ≠ "client_id" ∧ pair.1 ≠ "client_secret") ∧
    accented.Perm [("client_id", "café"), ("client_secret", "&client_id=x"), ("grant_type", "client_credentials"),
      ("scope", "a+b")] ∧
    ∃ form, (HttpRequest.formPost accented).form = .ok form ∧
      ofRequest (HttpRequest.formPost accented) form = .ok ⟨"café", "&client_id=x"⟩ := by
  have named : "café" ≠ "" := by decide
  have others : ∀ pair ∈ [("grant_type", "client_credentials"), ("scope", "a+b")],
      pair.1 ≠ "client_id" ∧ pair.1 ≠ "client_secret" := by decide
  have posted : accented.Perm [("client_id", "café"), ("client_secret", "&client_id=x"),
      ("grant_type", "client_credentials"), ("scope", "a+b")] := by decide
  obtain ⟨form, parsed, _, back⟩ := posted_credentials_read named others posted
  exact ⟨named, others, posted, form, parsed, back.mpr (by decide)⟩

end Credentials

end TokenServer
