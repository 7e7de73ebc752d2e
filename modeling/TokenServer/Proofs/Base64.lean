import TokenServer.Text.Base64

/-! Reading base64 gives back the bytes that were written, and nothing else can be read: each group of digits
holds the bits of its bytes, and the digits of a variant are told apart. -/

namespace TokenServer.Base64

variable {variant : Base64}

/-- Digits stand for their bits alone, and none of them is the mark that fills up a group. -/
structure Lawful (variant : Base64) : Prop where
  value : ∀ bits < 64, variant.value? (variant.digit bits) = some bits
  unmarked : ∀ bits < 64, variant.digit bits ≠ '='

theorem lawful_standard : Lawful standard := ⟨by decide, by decide⟩

theorem lawful_urlSafe : Lawful urlSafe := ⟨by decide, by decide⟩

namespace Lawful

variable (lawful : Lawful variant)

include lawful

theorem oneByte?_digits (a : UInt8) :
    variant.oneByte? (variant.digit (a.toNat * 16 / 64)) (variant.digit (a.toNat * 16 % 64)) =
      some [a] := by
  have bound : a.toNat < 256 := a.toNat_lt
  have joined : a.toNat * 16 / 64 * 64 + a.toNat * 16 % 64 = a.toNat * 16 := by omega
  rw [oneByte?, lawful.value _ (by omega), lawful.value _ (by omega)]
  simp [joined]

theorem twoBytes?_digits (a b : UInt8) (bits : Nat) (same : bits = (a.toNat * 256 + b.toNat) * 4) :
    variant.twoBytes? (variant.digit (bits / 4096)) (variant.digit (bits / 64 % 64))
      (variant.digit (bits % 64)) = some [a, b] := by
  have bound : a.toNat < 256 ∧ b.toNat < 256 := ⟨a.toNat_lt, b.toNat_lt⟩
  have joined : (bits / 4096 * 64 + bits / 64 % 64) * 64 + bits % 64 = bits := by omega
  have bytes : bits % 4 = 0 ∧ bits / 1024 = a.toNat ∧ bits / 4 % 256 = b.toNat := by omega
  rw [twoBytes?, lawful.value _ (by omega), lawful.value _ (by omega), lawful.value _ (by omega)]
  simp [joined, bytes]

theorem threeBytes?_digits (a b c : UInt8) (bits : Nat)
    (same : bits = (a.toNat * 256 + b.toNat) * 256 + c.toNat) :
    variant.threeBytes? (variant.digit (bits / 262144)) (variant.digit (bits / 4096 % 64))
      (variant.digit (bits / 64 % 64)) (variant.digit (bits % 64)) = some [a, b, c] := by
  have bound : a.toNat < 256 ∧ b.toNat < 256 ∧ c.toNat < 256 := ⟨a.toNat_lt, b.toNat_lt, c.toNat_lt⟩
  have joined : ((bits / 262144 * 64 + bits / 4096 % 64) * 64 + bits / 64 % 64) * 64 + bits % 64 =
      bits := by omega
  have bytes : bits / 65536 = a.toNat ∧ bits / 256 % 256 = b.toNat ∧ bits % 256 = c.toNat := by omega
  rw [threeBytes?, lawful.value _ (by omega), lawful.value _ (by omega), lawful.value _ (by omega),
    lawful.value _ (by omega)]
  simp [joined, bytes]

theorem decode?_encode (bytes : Bytes) : variant.decode? (variant.encode bytes) = some bytes := by
  fun_induction variant.encode bytes with
  | case1 => rfl
  | case2 a bits =>
    have read := lawful.oneByte?_digits a
    cases padded : variant.padded <;> simpa [padding, padded, decode?] using read
  | case3 a b bits =>
    have read := lawful.twoBytes?_digits a b bits rfl
    have digit : variant.digit (bits % 64) ≠ '=' := lawful.unmarked _ (Nat.mod_lt _ (by decide))
    cases padded : variant.padded <;> simpa [padding, padded, decode?, digit] using read
  | case4 a b c rest bits ih =>
    have read := lawful.threeBytes?_digits a b c bits rfl
    have digit : variant.digit (bits % 64) ≠ '=' := lawful.unmarked _ (Nat.mod_lt _ (by decide))
    cases written : variant.encode rest with
    | nil =>
      rw [written] at ih
      cases ih
      simp [decode?, digit, read]
    | cons first more =>
      rw [written] at ih
      simp [decode?, read, ih]

theorem encode_injective : Function.Injective variant.encode := by
  intro bytes others same
  have read := lawful.decode?_encode bytes
  rw [same, lawful.decode?_encode others] at read
  exact (Option.some.inj read).symm

end Lawful

/-- Nothing is written but digits and the mark that fills up the last group. -/
theorem mem_encode {bytes : Bytes} {c : Char} (member : c ∈ variant.encode bytes) :
    c = '=' ∨ ∃ bits < 64, c = variant.digit bits := by
  have filled : ∀ missing, c ∈ variant.padding missing → c = '=' := by
    intro missing marks
    rw [padding] at marks
    split at marks
    · exact (List.mem_replicate.mp marks).2
    · cases marks
  fun_induction variant.encode bytes with
  | case1 => cases member
  | case2 a bits =>
    have bound : a.toNat < 256 := a.toNat_lt
    rcases List.mem_append.mp member with digits | marks
    · simp only [List.mem_cons, List.not_mem_nil, or_false] at digits
      rcases digits with rfl | rfl <;> exact .inr ⟨_, by omega, rfl⟩
    · exact .inl (filled 2 marks)
  | case3 a b bits =>
    have bound : a.toNat < 256 ∧ b.toNat < 256 := ⟨a.toNat_lt, b.toNat_lt⟩
    rcases List.mem_append.mp member with digits | marks
    · simp only [List.mem_cons, List.not_mem_nil, or_false] at digits
      rcases digits with rfl | rfl | rfl <;> exact .inr ⟨_, by omega, rfl⟩
    · exact .inl (filled 1 marks)
  | case4 a b c rest bits ih =>
    have bound : a.toNat < 256 ∧ b.toNat < 256 ∧ c.toNat < 256 := ⟨a.toNat_lt, b.toNat_lt, c.toNat_lt⟩
    simp only [List.mem_cons] at member
    rcases member with rfl | rfl | rfl | rfl | later
    · exact .inr ⟨_, by omega, rfl⟩
    · exact .inr ⟨_, by omega, rfl⟩
    · exact .inr ⟨_, by omega, rfl⟩
    · exact .inr ⟨_, by omega, rfl⟩
    · exact ih later

theorem encode_ne_nil {bytes : Bytes} (some_ : bytes ≠ []) : variant.encode bytes ≠ [] := by
  fun_cases variant.encode bytes with
  | case1 => exact absurd rfl some_
  | case2 | case3 | case4 => simp

/-- A digit stands for at most six bits, and is the one that they are written as. -/
theorem digit_of_value? {c : Char} {bits : Nat} (read : variant.value? c = some bits) :
    bits < 64 ∧ variant.digit bits = c := by
  have upTo : ∀ {low high : Char}, low ≤ c ∧ c ≤ high → low.toNat ≤ c.toNat ∧ c.toNat ≤ high.toNat :=
    fun within => ⟨within.1, within.2⟩
  rw [value?] at read
  split at read
  · next upper =>
    cases read
    have within : 65 ≤ c.toNat ∧ c.toNat ≤ 90 := upTo upper
    have first : 'A'.toNat = 65 := rfl
    refine ⟨by omega, ?_⟩
    rw [digit, if_pos (by omega), Nat.add_sub_cancel' (by omega), Char.ofNat_toNat]
  · split at read
    · next lower =>
      cases read
      have within : 97 ≤ c.toNat ∧ c.toNat ≤ 122 := upTo lower
      have first : 'a'.toNat = 97 := rfl
      refine ⟨by omega, ?_⟩
      rw [digit, if_neg (by omega), if_pos (by omega), Nat.add_sub_cancel,
        Nat.add_sub_cancel' (by omega), Char.ofNat_toNat]
    · split at read
      · next number =>
        cases read
        have within : 48 ≤ c.toNat ∧ c.toNat ≤ 57 := upTo number
        have first : '0'.toNat = 48 := rfl
        refine ⟨by omega, ?_⟩
        rw [digit, if_neg (by omega), if_neg (by omega), if_pos (by omega), Nat.add_sub_cancel,
          Nat.add_sub_cancel' (by omega), Char.ofNat_toNat]
      · split at read
        · next same =>
          cases read
          exact ⟨by decide, same.symm⟩
        · split at read
          · next same =>
            cases read
            exact ⟨by decide, same.symm⟩
          · cases read

theorem encode_of_oneByte? {w x : Char} {bytes : Bytes} (read : variant.oneByte? w x = some bytes) :
    variant.encode bytes = [w, x] ++ variant.padding 2 := by
  simp only [oneByte?, Option.bind_eq_bind, Option.bind_eq_some_iff] at read
  obtain ⟨high, first, low, second, read⟩ := read
  obtain ⟨firstBound, rfl⟩ := digit_of_value? first
  obtain ⟨secondBound, rfl⟩ := digit_of_value? second
  split at read
  · next clear =>
    cases read
    have byte : (UInt8.ofNat ((high * 64 + low) / 16)).toNat = (high * 64 + low) / 16 :=
      Nat.mod_eq_of_lt (by omega)
    have digits : (high * 64 + low) / 16 * 16 / 64 = high ∧ (high * 64 + low) / 16 * 16 % 64 = low := by
      omega
    simp only [encode, byte, digits]
  · cases read

theorem encode_of_twoBytes? {w x y : Char} {bytes : Bytes}
    (read : variant.twoBytes? w x y = some bytes) :
    variant.encode bytes = [w, x, y] ++ variant.padding 1 := by
  simp only [twoBytes?, Option.bind_eq_bind, Option.bind_eq_some_iff] at read
  obtain ⟨high, first, middle, second, low, third, read⟩ := read
  obtain ⟨firstBound, rfl⟩ := digit_of_value? first
  obtain ⟨secondBound, rfl⟩ := digit_of_value? second
  obtain ⟨thirdBound, rfl⟩ := digit_of_value? third
  split at read
  · next clear =>
    cases read
    generalize total : (high * 64 + middle) * 64 + low = bits at *
    have bytes : (UInt8.ofNat (bits / 1024)).toNat = bits / 1024 ∧
        (UInt8.ofNat (bits / 4 % 256)).toNat = bits / 4 % 256 :=
      ⟨Nat.mod_eq_of_lt (by omega), Nat.mod_eq_of_lt (by omega)⟩
    have joined : (bits / 1024 * 256 + bits / 4 % 256) * 4 = bits := by omega
    have digits : bits / 4096 = high ∧ bits / 64 % 64 = middle ∧ bits % 64 = low := by omega
    simp only [encode, bytes, joined, digits]
  · cases read

theorem encode_of_threeBytes? {w x y z : Char} {bytes : Bytes}
    (read : variant.threeBytes? w x y z = some bytes) (more : Bytes) :
    variant.encode (bytes ++ more) = w :: x :: y :: z :: variant.encode more := by
  simp only [threeBytes?, Option.bind_eq_bind, Option.bind_eq_some_iff] at read
  obtain ⟨one, first, two, second, three, third, four, fourth, read⟩ := read
  obtain ⟨firstBound, rfl⟩ := digit_of_value? first
  obtain ⟨secondBound, rfl⟩ := digit_of_value? second
  obtain ⟨thirdBound, rfl⟩ := digit_of_value? third
  obtain ⟨fourthBound, rfl⟩ := digit_of_value? fourth
  cases read
  generalize total : ((one * 64 + two) * 64 + three) * 64 + four = bits at *
  have bytes : (UInt8.ofNat (bits / 65536)).toNat = bits / 65536 ∧
      (UInt8.ofNat (bits / 256 % 256)).toNat = bits / 256 % 256 ∧
      (UInt8.ofNat (bits % 256)).toNat = bits % 256 :=
    ⟨Nat.mod_eq_of_lt (by omega), Nat.mod_eq_of_lt (by omega), Nat.mod_eq_of_lt (by omega)⟩
  have joined : (bits / 65536 * 256 + bits / 256 % 256) * 256 + bits % 256 = bits := by omega
  have digits : bits / 262144 = one ∧ bits / 4096 % 64 = two ∧ bits / 64 % 64 = three ∧ bits % 64 = four := by
    omega
  simp only [List.cons_append, List.nil_append, encode, bytes, joined, digits]

/-- Nothing is read but what is written. -/
theorem encode_of_decode? {text : List Char} {bytes : Bytes} (read : variant.decode? text = some bytes) :
    variant.encode bytes = text := by
  fun_induction variant.decode? text generalizing bytes with
  | case1 =>
    cases read
    rfl
  | case2 | case3 | case5 => cases read
  | case4 w x unpadded =>
    rw [encode_of_oneByte? read, padding, if_neg unpadded, List.append_nil]
  | case6 w x y unpadded =>
    rw [encode_of_twoBytes? read, padding, if_neg unpadded, List.append_nil]
  | case7 w x z marked =>
    rw [encode_of_oneByte? read, padding, if_pos marked.1, marked.2]
    rfl
  | case8 w x y z marked other =>
    rw [encode_of_twoBytes? read, padding, if_pos marked.1, marked.2]
    rfl
  | case9 w x y z unmarked =>
    have written := encode_of_threeBytes? read []
    rwa [List.append_nil] at written
  | case10 w x y z rest more ih =>
    simp only [Option.bind_eq_bind, Option.bind_eq_some_iff] at read
    obtain ⟨group, first, others, later, same⟩ := read
    cases same
    rw [encode_of_threeBytes? first, ih later]

/-! What the texts of the variant for addresses look like. -/

def IsUrlDigit (c : Char) : Prop :=
  'A' ≤ c ∧ c ≤ 'Z' ∨ 'a' ≤ c ∧ c ≤ 'z' ∨ '0' ≤ c ∧ c ≤ '9' ∨ c = '-' ∨ c = '_'

/-- Digits alone, with none left over and no stray bits behind the last byte: a last group of two digits has four bits
to spare, and one of three has two. -/
structure Canonical (text : List Char) : Prop where
  digits : ∀ c ∈ text, IsUrlDigit c
  grouped : text.length % 4 ≠ 1
  two : text.length % 4 = 2 → ∃ last ∈ "AQgw".toList, text.getLast? = some last
  three : text.length % 4 = 3 → ∃ last ∈ "AEIMQUYcgkosw048".toList, text.getLast? = some last

theorem isUrlDigit_iff {c : Char} : IsUrlDigit c ↔ ∃ bits, urlSafe.value? c = some bits := by
  rw [IsUrlDigit, ← Option.isSome_iff_exists, value?, urlSafe]
  grind

/-- The last four bits of a digit are clear. -/
theorem mod_sixteen_of_value? {c : Char} {bits : Nat} (read : urlSafe.value? c = some bits) :
    bits % 16 = 0 ↔ c ∈ "AQgw".toList := by
  obtain ⟨bound, rfl⟩ := digit_of_value? read
  have table : ∀ bits < 64, bits % 16 = 0 ↔ urlSafe.digit bits ∈ "AQgw".toList := by decide
  exact table bits bound

/-- The last two bits of a digit are clear. -/
theorem mod_four_of_value? {c : Char} {bits : Nat} (read : urlSafe.value? c = some bits) :
    bits % 4 = 0 ↔ c ∈ "AEIMQUYcgkosw048".toList := by
  obtain ⟨bound, rfl⟩ := digit_of_value? read
  have table : ∀ bits < 64, bits % 4 = 0 ↔ urlSafe.digit bits ∈ "AEIMQUYcgkosw048".toList := by decide
  exact table bits bound

theorem canonical_pair_iff {w x : Char} :
    Canonical [w, x] ↔ IsUrlDigit w ∧ IsUrlDigit x ∧ x ∈ "AQgw".toList := by
  constructor
  · intro canonical
    obtain ⟨last, listed, same⟩ := canonical.two rfl
    cases same
    exact ⟨canonical.digits w (by simp), canonical.digits _ (by simp), listed⟩
  · rintro ⟨first, second, listed⟩
    exact ⟨by simp [first, second], by simp, fun _ => ⟨x, listed, rfl⟩, by simp⟩

theorem canonical_triple_iff {w x y : Char} :
    Canonical [w, x, y] ↔ IsUrlDigit w ∧ IsUrlDigit x ∧ IsUrlDigit y ∧ y ∈ "AEIMQUYcgkosw048".toList := by
  constructor
  · intro canonical
    obtain ⟨last, listed, same⟩ := canonical.three rfl
    cases same
    exact ⟨canonical.digits w (by simp), canonical.digits x (by simp), canonical.digits _ (by simp), listed⟩
  · rintro ⟨first, second, third, listed⟩
    exact ⟨by simp [first, second, third], by simp, by simp, fun _ => ⟨y, listed, rfl⟩⟩

/-- A whole group in front leaves the rest as it is. -/
theorem canonical_group_iff {w x y z : Char} {rest : List Char} : Canonical (w :: x :: y :: z :: rest) ↔
    (IsUrlDigit w ∧ IsUrlDigit x ∧ IsUrlDigit y ∧ IsUrlDigit z) ∧ Canonical rest := by
  have length : (w :: x :: y :: z :: rest).length % 4 = rest.length % 4 := by
    simp only [List.length_cons]
    omega
  have last : rest.length % 4 ≠ 0 → (w :: x :: y :: z :: rest).getLast? = rest.getLast? := by
    intro more
    cases rest with
    | nil => exact absurd rfl more
    | cons c rest => simp only [List.getLast?_cons_cons]
  constructor
  · intro canonical
    refine ⟨⟨?_, ?_, ?_, ?_⟩, fun c member => canonical.digits c ?_, length ▸ canonical.grouped, ?_, ?_⟩
    any_goals exact canonical.digits _ (by simp)
    · simp [member]
    · intro two
      rw [← last (by omega)]
      exact canonical.two (length.trans two)
    · intro three
      rw [← last (by omega)]
      exact canonical.three (length.trans three)
  · rintro ⟨⟨first, second, third, fourth⟩, canonical⟩
    refine ⟨?_, length ▸ canonical.grouped, ?_, ?_⟩
    · simpa [first, second, third, fourth] using canonical.digits
    · intro two
      rw [last (by omega)]
      exact canonical.two (length ▸ two)
    · intro three
      rw [last (by omega)]
      exact canonical.three (length ▸ three)

theorem exists_oneByte?_iff {w x : Char} : (∃ bytes, urlSafe.oneByte? w x = some bytes) ↔ Canonical [w, x] := by
  rw [canonical_pair_iff, isUrlDigit_iff, isUrlDigit_iff]
  constructor
  · rintro ⟨bytes, read⟩
    simp only [oneByte?, Option.bind_eq_bind, Option.bind_eq_some_iff] at read
    obtain ⟨high, first, low, second, read⟩ := read
    split at read
    · exact ⟨⟨high, first⟩, ⟨low, second⟩, (mod_sixteen_of_value? second).mp (by omega)⟩
    · cases read
  · rintro ⟨⟨high, first⟩, ⟨low, second⟩, listed⟩
    have clear := (mod_sixteen_of_value? second).mpr listed
    have whole : (high * 64 + low) % 16 = 0 := by omega
    simp [oneByte?, first, second, whole]

theorem exists_twoBytes?_iff {w x y : Char} :
    (∃ bytes, urlSafe.twoBytes? w x y = some bytes) ↔ Canonical [w, x, y] := by
  rw [canonical_triple_iff, isUrlDigit_iff, isUrlDigit_iff, isUrlDigit_iff]
  constructor
  · rintro ⟨bytes, read⟩
    simp only [twoBytes?, Option.bind_eq_bind, Option.bind_eq_some_iff] at read
    obtain ⟨high, first, middle, second, low, third, read⟩ := read
    split at read
    · exact ⟨⟨high, first⟩, ⟨middle, second⟩, ⟨low, third⟩, (mod_four_of_value? third).mp (by omega)⟩
    · cases read
  · rintro ⟨⟨high, first⟩, ⟨middle, second⟩, ⟨low, third⟩, listed⟩
    have clear := (mod_four_of_value? third).mpr listed
    have whole : ((high * 64 + middle) * 64 + low) % 4 = 0 := by omega
    simp [twoBytes?, first, second, third, whole]

theorem exists_threeBytes?_iff {w x y z : Char} : (∃ bytes, urlSafe.threeBytes? w x y z = some bytes) ↔
    IsUrlDigit w ∧ IsUrlDigit x ∧ IsUrlDigit y ∧ IsUrlDigit z := by
  simp only [isUrlDigit_iff, threeBytes?, Option.bind_eq_bind, Option.bind_eq_some_iff]
  constructor
  · rintro ⟨bytes, one, first, two, second, three, third, four, fourth, _⟩
    exact ⟨⟨one, first⟩, ⟨two, second⟩, ⟨three, third⟩, ⟨four, fourth⟩⟩
  · rintro ⟨⟨one, first⟩, ⟨two, second⟩, ⟨three, third⟩, ⟨four, fourth⟩⟩
    exact ⟨_, one, first, two, second, three, third, four, fourth, rfl⟩

theorem exists_decode?_iff {text : List Char} : (∃ bytes, urlSafe.decode? text = some bytes) ↔ Canonical text := by
  fun_induction urlSafe.decode? text with
  | case1 => exact ⟨fun _ => by constructor <;> simp, fun _ => ⟨[], rfl⟩⟩
  | case2 c => exact ⟨fun read => by simp at read, fun canonical => absurd rfl canonical.grouped⟩
  | case3 | case5 | case7 | case8 => simp [urlSafe] at *
  | case4 w x => exact exists_oneByte?_iff
  | case6 w x y => exact exists_twoBytes?_iff
  | case9 w x y z =>
    rw [exists_threeBytes?_iff, canonical_group_iff]
    exact ⟨fun digits => ⟨digits, by constructor <;> simp⟩, fun canonical => canonical.1⟩
  | case10 w x y z rest more ih =>
    rw [canonical_group_iff, ← ih, ← exists_threeBytes?_iff]
    simp only [Option.bind_eq_bind, Option.bind_eq_some_iff]
    constructor
    · rintro ⟨bytes, group, first, others, later, _⟩
      exact ⟨⟨group, first⟩, ⟨others, later⟩⟩
    · rintro ⟨⟨group, first⟩, ⟨others, later⟩⟩
      exact ⟨_, group, first, others, later, rfl⟩

theorem canonical_iff {text : List Char} : Canonical text ↔ ∃ bytes, urlSafe.encode bytes = text := by
  rw [← exists_decode?_iff]
  constructor
  · rintro ⟨bytes, read⟩
    exact ⟨bytes, encode_of_decode? read⟩
  · rintro ⟨bytes, rfl⟩
    exact ⟨bytes, lawful_urlSafe.decode?_encode bytes⟩

end TokenServer.Base64
