import Mathlib.Order.Nat
import TokenServer.Proofs.Utf8
import TokenServer.Text.Form

/-! Reading the fields of a form. A field spells bytes unless one of its percent signs starts no escape, and then
the first such sign is found. Both ways to write a text as a field spell its bytes. -/

namespace TokenServer.Escape

/-- The bytes that a field stands for: a plus sign is a space, and an escape is the byte of its two digits. -/
inductive Spells : Bytes → Bytes → Prop where
  | nil : Spells [] []
  | space {raw bytes : Bytes} : Spells raw bytes → Spells (plus :: raw) (space :: bytes)
  | escape {high low : UInt8} {upper lower : Nat} {raw bytes : Bytes} : hexValue? high = some upper →
      hexValue? low = some lower → Spells raw bytes →
      Spells (percent :: high :: low :: raw) (UInt8.ofNat (upper * 16 + lower) :: bytes)
  | plain {byte : UInt8} {raw bytes : Bytes} : byte ≠ percent → byte ≠ plus → Spells raw bytes →
      Spells (byte :: raw) (byte :: bytes)

/-- There is a percent sign that two hexadecimal digits do not follow. -/
def BrokenAt (raw : Bytes) (index : Nat) : Prop :=
  raw[index]? = some percent ∧ ∀ high low, raw[index + 1]? = some high → raw[index + 2]? = some low →
    hexValue? high = none ∨ hexValue? low = none

def FirstBroken (raw : Bytes) (index : Nat) : Prop :=
  BrokenAt raw index ∧ ∀ earlier < index, ¬BrokenAt raw earlier

variable {byte high low : UInt8} {raw bytes : Bytes} {index : Nat}

theorem ne_percent_of_hexValue? {value : Nat} (digit : hexValue? byte = some value) : byte ≠ percent := by
  rintro rfl
  cases digit

theorem ne_plus_of_hexValue? {value : Nat} (digit : hexValue? byte = some value) : byte ≠ plus := by
  rintro rfl
  cases digit

theorem not_brokenAt_zero (plain : byte ≠ percent) : ¬BrokenAt (byte :: raw) 0 :=
  fun broken => plain (Option.some.inj broken.1)

theorem byteOf?_of_digits {upper lower : Nat} (first : hexValue? high = some upper)
    (second : hexValue? low = some lower) :
    byteOf? high low = some (UInt8.ofNat (upper * 16 + lower)) := by
  simp [byteOf?, first, second]

theorem not_brokenAt_digits {upper lower : Nat} (first : hexValue? high = some upper)
    (second : hexValue? low = some lower) : ¬BrokenAt (percent :: high :: low :: raw) 0 := by
  intro broken
  rcases broken.2 high low rfl rfl with missing | missing
  · cases first.symm.trans missing
  · cases second.symm.trans missing

/-- A percent sign that is not broken stands in front of two digits. -/
theorem exists_digits (unbroken : ¬BrokenAt (percent :: raw) 0) : ∃ high low rest upper lower,
    raw = high :: low :: rest ∧ hexValue? high = some upper ∧ hexValue? low = some lower := by
  match raw with
  | [] | [_] => exact absurd ⟨rfl, by simp⟩ unbroken
  | high :: low :: rest =>
    have digits : ¬(hexValue? high = none ∨ hexValue? low = none) := by
      refine fun missing => unbroken ⟨rfl, ?_⟩
      rintro _ _ ⟨⟩ ⟨⟩
      exact missing
    obtain ⟨first, second⟩ := not_or.mp digits
    obtain ⟨upper, first⟩ := Option.ne_none_iff_exists'.mp first
    obtain ⟨lower, second⟩ := Option.ne_none_iff_exists'.mp second
    exact ⟨high, low, rest, upper, lower, rfl, first, second⟩

theorem unbroken_cons : (∀ index, ¬BrokenAt (byte :: raw) index) ↔
    ¬BrokenAt (byte :: raw) 0 ∧ ∀ index, ¬BrokenAt raw index :=
  Nat.and_forall_add_one.symm

/-- Behind a byte that is not broken, the first broken sign is that of the rest. -/
theorem firstBroken_cons (unbroken : ¬BrokenAt (byte :: raw) 0) :
    FirstBroken (byte :: raw) index ↔ ∃ later, index = later + 1 ∧ FirstBroken raw later := by
  cases index with
  | zero => exact ⟨fun first => absurd first.1 unbroken, nofun⟩
  | succ index =>
    constructor
    · intro first
      exact ⟨index, rfl, first.1, fun earlier before => first.2 (earlier + 1) (Nat.succ_lt_succ before)⟩
    · rintro ⟨later, same, broken, earliest⟩
      cases same
      refine ⟨broken, fun earlier before => ?_⟩
      cases earlier with
      | zero => exact unbroken
      | succ earlier => exact earliest earlier (Nat.lt_of_succ_lt_succ before)

theorem firstBroken_of_zero (broken : BrokenAt raw 0) : FirstBroken raw index ↔ index = 0 := by
  constructor
  · intro first
    exact Classical.byContradiction fun later => first.2 0 (Nat.pos_of_ne_zero later) broken
  · rintro rfl
    exact ⟨broken, nofun⟩

theorem firstBroken?_of_broken (start : Nat) (broken : BrokenAt raw 0) : firstBroken? start raw = some start := by
  match raw with
  | [] => cases broken.1
  | [byte] | [byte, _] =>
    cases broken.1
    rfl
  | byte :: high :: low :: rest =>
    cases broken.1
    have none : byteOf? high low = none := by
      rcases broken.2 high low rfl rfl with missing | missing <;> simp [byteOf?, missing]
    rw [firstBroken?, if_pos rfl, none]
    rfl

theorem firstBroken?_of_plain (start : Nat) (plain : byte ≠ percent) :
    firstBroken? start (byte :: raw) = firstBroken? (start + 1) raw := by
  match raw with
  | [] => simp [firstBroken?, plain]
  | [other] => by_cases sign : other = percent <;> simp [firstBroken?, List.findIdx?_cons, plain, sign]
  | _ :: _ :: _ => rw [firstBroken?, if_neg plain]

/-- The digits of an escape start none, so that passing over them is as good as reading on byte by byte. -/
theorem firstBroken?_of_unbroken (start : Nat) (unbroken : ¬BrokenAt (byte :: raw) 0) :
    firstBroken? start (byte :: raw) = firstBroken? (start + 1) raw := by
  by_cases sign : byte = percent
  · subst sign
    obtain ⟨high, low, rest, upper, lower, rfl, first, second⟩ := exists_digits unbroken
    rw [firstBroken?, if_pos rfl, byteOf?_of_digits first second,
      firstBroken?_of_plain _ (ne_percent_of_hexValue? first), firstBroken?_of_plain _ (ne_percent_of_hexValue? second)]
    rfl
  · exact firstBroken?_of_plain start sign

/-- The scan finds the first percent sign that starts no escape, and nothing else. -/
theorem firstBroken?_eq_some_iff {start place : Nat} :
    firstBroken? start raw = some place ↔ ∃ index, place = start + index ∧ FirstBroken raw index := by
  induction raw generalizing start with
  | nil =>
    refine ⟨nofun, ?_⟩
    rintro ⟨index, _, first⟩
    cases first.1.1
  | cons byte raw ih =>
    by_cases broken : BrokenAt (byte :: raw) 0
    · simp [firstBroken?_of_broken start broken, firstBroken_of_zero broken, eq_comm]
    · rw [firstBroken?_of_unbroken start broken, ih]
      constructor
      · rintro ⟨index, rfl, first⟩
        exact ⟨index + 1, by omega, (firstBroken_cons broken).mpr ⟨index, rfl, first⟩⟩
      · rintro ⟨index, rfl, first⟩
        obtain ⟨later, rfl, found⟩ := (firstBroken_cons broken).mp first
        exact ⟨later, by omega, found⟩

theorem exists_firstBroken (broken : BrokenAt raw index) : ∃ first, FirstBroken raw first := by
  classical
  exact ⟨_, Nat.find_spec ⟨index, broken⟩, fun _ before => Nat.find_min ⟨index, broken⟩ before⟩

theorem firstBroken?_eq_none_iff {start : Nat} : firstBroken? start raw = none ↔ ∀ index, ¬BrokenAt raw index := by
  rw [Option.eq_none_iff_forall_ne_some]
  constructor
  · intro missed index broken
    obtain ⟨first, found⟩ := exists_firstBroken broken
    exact missed _ (firstBroken?_eq_some_iff.mpr ⟨first, rfl, found⟩)
  · intro unbroken place found
    obtain ⟨index, _, first⟩ := firstBroken?_eq_some_iff.mp found
    exact unbroken index first.1

theorem expand_of_plain (plain : byte ≠ percent) : expand (byte :: raw) = byte :: expand raw := by
  match raw with
  | [] | [_] => rfl
  | _ :: _ :: _ => rw [expand, if_neg plain]

namespace Spells

/-- Reading gives the bytes that a field spells. -/
theorem expand_eq (spelled : Spells raw bytes) : expand (plusToSpace raw) = bytes := by
  induction spelled with
  | nil => rfl
  | @space raw bytes spelled ih =>
    have step : plusToSpace (plus :: raw) = Escape.space :: plusToSpace raw := rfl
    rw [step, expand_of_plain (by decide), ih]
  | @escape high low upper lower raw bytes first second spelled ih =>
    have step : plusToSpace (percent :: high :: low :: raw) = percent :: high :: low :: plusToSpace raw := by
      simp [plusToSpace, ne_plus_of_hexValue? first, ne_plus_of_hexValue? second, show percent ≠ plus by decide]
    rw [step, expand, if_pos rfl, byteOf?_of_digits first second, ih]
  | @plain byte raw bytes unsigned unspaced spelled ih =>
    have step : plusToSpace (byte :: raw) = byte :: plusToSpace raw := by simp [plusToSpace, unspaced]
    rw [step, expand_of_plain unsigned, ih]

theorem unique {others : Bytes} (spelled : Spells raw bytes) (again : Spells raw others) : bytes = others :=
  spelled.expand_eq.symm.trans again.expand_eq

theorem unbroken (spelled : Spells raw bytes) : ∀ index, ¬BrokenAt raw index := by
  induction spelled with
  | nil => exact fun _ broken => nomatch broken.1
  | space spelled ih => exact unbroken_cons.mpr ⟨not_brokenAt_zero (by decide), ih⟩
  | escape first second spelled ih =>
    exact unbroken_cons.mpr ⟨not_brokenAt_digits first second,
      unbroken_cons.mpr ⟨not_brokenAt_zero (ne_percent_of_hexValue? first),
        unbroken_cons.mpr ⟨not_brokenAt_zero (ne_percent_of_hexValue? second), ih⟩⟩⟩
  | plain unsigned _ spelled ih => exact unbroken_cons.mpr ⟨not_brokenAt_zero unsigned, ih⟩

theorem length_le (spelled : Spells raw bytes) : bytes.length ≤ raw.length := by
  induction spelled with
  | nil => exact Nat.le_refl 0
  | space _ ih | plain _ _ _ ih => exact Nat.succ_le_succ ih
  | escape _ _ _ ih =>
    simp only [List.length_cons]
    omega

theorem unmarked (spelled : Spells raw bytes) (same : bytes = raw) : plus ∉ raw ∧ percent ∉ raw := by
  induction spelled with
  | nil => exact ⟨List.not_mem_nil, List.not_mem_nil⟩
  | space _ _ => exact absurd (List.cons.inj same).1 (by decide)
  | escape _ _ spelled _ =>
    have shorter := spelled.length_le
    have lengths := congrArg List.length same
    simp only [List.length_cons] at lengths
    omega
  | plain unsigned unspaced _ ih =>
    obtain ⟨plain, kept⟩ := ih (List.cons.inj same).2
    exact ⟨List.not_mem_cons_of_ne_of_not_mem (Ne.symm unspaced) plain,
      List.not_mem_cons_of_ne_of_not_mem (Ne.symm unsigned) kept⟩

/-- Only what has neither plus signs nor percent signs stands for itself. -/
theorem self_iff : Spells raw raw ↔ plus ∉ raw ∧ percent ∉ raw := by
  constructor
  · exact fun spelled => spelled.unmarked rfl
  · rintro ⟨unspaced, unsigned⟩
    induction raw with
    | nil => exact .nil
    | cons byte raw ih =>
      obtain ⟨plain, unspaced⟩ := not_or.mp (mt List.mem_cons.mpr unspaced)
      obtain ⟨kept, unsigned⟩ := not_or.mp (mt List.mem_cons.mpr unsigned)
      exact .plain (Ne.symm kept) (Ne.symm plain) (ih unspaced unsigned)

/-- A byte that a writer leaves as it is stands for itself, if it leaves neither sign. -/
theorem kept {keeps : UInt8 → Bool} (signs : keeps percent = false ∧ keeps plus = false) (spelled : Spells raw bytes)
    (same : keeps byte = true) : Spells (byte :: raw) (byte :: bytes) := by
  refine .plain ?_ ?_ spelled
  · rintro rfl
    cases signs.1.symm.trans same
  · rintro rfl
    cases signs.2.symm.trans same

theorem escaped (byte : UInt8) (spelled : Spells raw bytes) : Spells (Escape.escaped byte ++ raw) (byte :: bytes) := by
  have digits : ∀ value < 16, hexValue? (hexDigit value) = some value := by decide
  have bound : byte.toNat < 256 := byte.toNat_lt
  have whole : UInt8.ofNat (byte.toNat / 16 * 16 + byte.toNat % 16) = byte := by
    rw [Nat.div_add_mod', UInt8.ofNat_toNat]
  have both := Spells.escape (digits (byte.toNat / 16) (by omega)) (digits (byte.toNat % 16) (by omega)) spelled
  rwa [whole] at both

theorem flatMap {write : UInt8 → Bytes}
    (each : ∀ byte {raw bytes}, Spells raw bytes → Spells (write byte ++ raw) (byte :: bytes)) (bytes : Bytes) :
    Spells (bytes.flatMap write) bytes := by
  induction bytes with
  | nil => exact .nil
  | cons byte bytes ih =>
    rw [List.flatMap_cons]
    exact each byte ih

end Spells

theorem exists_spells (unbroken : ∀ index, ¬BrokenAt raw index) : ∃ bytes, Spells raw bytes := by
  -- On the length, as an escape takes up three bytes.
  induction length : raw.length using Nat.strongRecOn generalizing raw with
  | ind count ih =>
    subst length
    cases raw with
    | nil => exact ⟨[], .nil⟩
    | cons byte raw =>
      obtain ⟨here, later⟩ := unbroken_cons.mp unbroken
      by_cases sign : byte = percent
      · subst sign
        obtain ⟨high, low, rest, upper, lower, rfl, first, second⟩ := exists_digits here
        have shorter : rest.length < (percent :: high :: low :: rest).length := by
          simp only [List.length_cons]
          omega
        obtain ⟨bytes, spelled⟩ := ih rest.length shorter (fun index => later (index + 2)) rfl
        exact ⟨_, .escape first second spelled⟩
      · obtain ⟨bytes, spelled⟩ := ih raw.length (Nat.lt_succ_self _) later rfl
        by_cases spaced : byte = plus
        · subst spaced
          exact ⟨_, .space spelled⟩
        · exact ⟨_, .plain sign spaced spelled⟩

/-- A field is read when every percent sign starts an escape, and in one way only. -/
theorem existsUnique_spells_iff : (∃! bytes, Spells raw bytes) ↔ ∀ index, ¬BrokenAt raw index := by
  constructor
  · rintro ⟨bytes, spelled, _⟩
    exact spelled.unbroken
  · intro unbroken
    obtain ⟨bytes, spelled⟩ := exists_spells unbroken
    exact ⟨bytes, spelled, fun _ again => again.unique spelled⟩

theorem unescape_of_spells {field : String} (spelled : Spells (Utf8.encode field) bytes) :
    unescape field = (Utf8.decode bytes).mapError .notUtf8 := by
  have passed : firstBroken? 0 (Utf8.encode field) = none := firstBroken?_eq_none_iff.mpr spelled.unbroken
  rw [unescape, passed, spelled.expand_eq]

theorem unescape_of_firstBroken {field : String} (first : FirstBroken (Utf8.encode field) index) :
    unescape field = .error (.brokenEscape index) := by
  have found : firstBroken? 0 (Utf8.encode field) = some index :=
    firstBroken?_eq_some_iff.mpr ⟨index, (Nat.zero_add index).symm, first⟩
  rw [unescape, found]

theorem firstBroken_or_spells (raw : Bytes) : (∃ index, FirstBroken raw index) ∨ ∃ bytes, Spells raw bytes := by
  by_cases broken : ∃ index, BrokenAt raw index
  · obtain ⟨index, broken⟩ := broken
    exact .inl (exists_firstBroken broken)
  · exact .inr (exists_spells (not_exists.mp broken))

/-- What reading a field comes to. -/
inductive Reads (raw : Bytes) : Except Fault String → Prop where
  | text {text : String} : Spells raw (Utf8.encode text) → Reads raw (.ok text)
  | broken {index : Nat} : FirstBroken raw index → Reads raw (.error (.brokenEscape index))
  | notUtf8 {bytes : Bytes} {fault : Utf8.Fault} : Spells raw bytes → (∀ text, Utf8.encode text ≠ bytes) →
      Reads raw (.error (.notUtf8 fault))

variable {field text : String}

theorem reads_unescape (field : String) : Reads (Utf8.encode field) (unescape field) := by
  rcases firstBroken_or_spells (Utf8.encode field) with ⟨index, first⟩ | ⟨bytes, spelled⟩
  · rw [unescape_of_firstBroken first]
    exact .broken first
  · rw [unescape_of_spells spelled]
    cases decoded : Utf8.decode bytes with
    | ok text => exact .text (Utf8.encode_of_decode decoded ▸ spelled)
    | error fault =>
      refine .notUtf8 spelled ?_
      rintro text rfl
      cases (Utf8.decode_encode text).symm.trans decoded

theorem unescape_eq_ok_iff : unescape field = .ok text ↔ Spells (Utf8.encode field) (Utf8.encode text) := by
  constructor
  · intro read
    have reads := reads_unescape field
    rw [read] at reads
    cases reads with
    | text spelled => exact spelled
  · intro spelled
    rw [unescape_of_spells spelled, Utf8.decode_encode]
    rfl

theorem unescape_eq_brokenEscape_iff :
    unescape field = .error (.brokenEscape index) ↔ FirstBroken (Utf8.encode field) index := by
  constructor
  · intro refused
    have reads := reads_unescape field
    rw [refused] at reads
    cases reads with
    | broken first => exact first
  · exact unescape_of_firstBroken

theorem exists_unescape_notUtf8_iff : (∃ fault, unescape field = .error (.notUtf8 fault)) ↔
    ∃ bytes, Spells (Utf8.encode field) bytes ∧ ∀ text, Utf8.encode text ≠ bytes := by
  constructor
  · rintro ⟨fault, refused⟩
    have reads := reads_unescape field
    rw [refused] at reads
    cases reads with
    | notUtf8 spelled unread => exact ⟨_, spelled, unread⟩
  · rintro ⟨bytes, spelled, unread⟩
    rw [unescape_of_spells spelled]
    cases decoded : Utf8.decode bytes with
    | error fault => exact ⟨fault, rfl⟩
    | ok found => exact absurd (Utf8.encode_of_decode decoded) (unread found)

theorem spells_encode (bytes : Bytes) : Spells (encode bytes) bytes := by
  refine Spells.flatMap (fun byte raw bytes spelled => ?_) bytes
  split
  · next same => exact spelled.kept (by decide) same
  · exact spelled.escaped byte

theorem spells_encodeText (text : String) : Spells (Form.encodeText text) (Utf8.encode text) := by
  refine Spells.flatMap (fun byte raw bytes spelled => ?_) (Utf8.encode text)
  split
  · next same => exact spelled.kept (by decide) same
  · split
    · next same => exact same ▸ .space spelled
    · exact spelled.escaped byte

theorem mem_escaped {source : UInt8} (member : byte ∈ escaped source) :
    byte = percent ∨ ∃ value < 16, byte = hexDigit value := by
  have bound : source.toNat < 256 := source.toNat_lt
  simp only [escaped, List.mem_cons, List.not_mem_nil, or_false] at member
  rcases member with sign | first | second
  · exact .inl sign
  · exact .inr ⟨_, by omega, first⟩
  · exact .inr ⟨_, by omega, second⟩

theorem mem_encode (member : byte ∈ encode bytes) : isUnreserved byte = true ∨ byte = percent := by
  have digits : ∀ value < 16, isUnreserved (hexDigit value) = true := by decide
  obtain ⟨source, _, written⟩ := List.mem_flatMap.mp member
  split at written
  · next kept =>
    cases List.mem_singleton.mp written
    exact .inl kept
  · rcases mem_escaped written with sign | ⟨value, bound, rfl⟩
    · exact .inr sign
    · exact .inl (digits value bound)

theorem mem_encodeText (member : byte ∈ Form.encodeText text) :
    Form.isPlain byte = true ∨ byte = plus ∨ byte = percent := by
  have digits : ∀ value < 16, Form.isPlain (hexDigit value) = true := by decide
  obtain ⟨source, _, written⟩ := List.mem_flatMap.mp member
  split at written
  · next kept =>
    cases List.mem_singleton.mp written
    exact .inl kept
  · split at written
    · exact .inr (.inl (List.mem_singleton.mp written))
    · rcases mem_escaped written with sign | ⟨value, bound, rfl⟩
      · exact .inr (.inr sign)
      · exact .inl (digits value bound)

theorem ascii_of_mem_encode (member : byte ∈ encode bytes) : byte < 0x80 := by
  rcases mem_encode member with kept | rfl
  · simp only [isUnreserved, isDigit, isLetter, Bool.or_eq_true, Bool.and_eq_true, decide_eq_true_eq,
      beq_iff_eq] at kept
    grind
  · decide

theorem ascii_of_mem_encodeText (member : byte ∈ Form.encodeText text) : byte < 0x80 := by
  rcases mem_encodeText member with kept | rfl | rfl
  · simp only [Form.isPlain, isDigit, isLetter, Bool.or_eq_true, Bool.and_eq_true, decide_eq_true_eq,
      beq_iff_eq] at kept
    grind
  · decide
  · decide

/-- Reading a field finds the first percent sign that starts no escape. Where there is none, it gives the text of the
bytes that the field spells, unless they are no UTF-8; and a text is read back from either way to write it. -/
theorem unescape_exact (field : String) :
    (∀ index, unescape field = .error (.brokenEscape index) ↔ FirstBroken (Utf8.encode field) index) ∧
    ((∃! bytes, Spells (Utf8.encode field) bytes) ↔ ∀ index, ¬BrokenAt (Utf8.encode field) index) ∧
    (∀ text, unescape field = .ok text ↔ Spells (Utf8.encode field) (Utf8.encode text)) ∧
    ((∃ fault, unescape field = .error (.notUtf8 fault)) ↔
      ∃ bytes, Spells (Utf8.encode field) bytes ∧ ∀ text, Utf8.encode text ≠ bytes) ∧
    (∃ written, Utf8.encode written = encode (Utf8.encode field) ∧ unescape written = .ok field) ∧
    ∃ written, Utf8.encode written = Form.encodeText field ∧ unescape written = .ok field := by
  have escaped : Utf8.encode (Utf8.asciiText (encode (Utf8.encode field))) = encode (Utf8.encode field) :=
    Utf8.encode_asciiText fun _ => ascii_of_mem_encode
  have posted : Utf8.encode (Utf8.asciiText (Form.encodeText field)) = Form.encodeText field :=
    Utf8.encode_asciiText fun _ => ascii_of_mem_encodeText
  refine ⟨fun _ => unescape_eq_brokenEscape_iff, existsUnique_spells_iff, fun _ => unescape_eq_ok_iff,
    exists_unescape_notUtf8_iff, ⟨_, escaped, unescape_eq_ok_iff.mpr ?_⟩, _, posted, unescape_eq_ok_iff.mpr ?_⟩
  · rw [escaped]
    exact spells_encode _
  · rw [posted]
    exact spells_encodeText field

example : unescape "a+b%2Bc" = .ok "a b+c" := by decide +kernel

end TokenServer.Escape
