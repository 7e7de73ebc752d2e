import TokenServer.Text.Utf8

/-! Bytes that can be read are those of the text that is read from them, and the bytes of a text are read as it by
either reader. -/

namespace TokenServer.Utf8

theorem encode_ofList (text : List Char) : encode (String.ofList text) = text.flatMap String.utf8EncodeChar := by
  simp [encode, String.toUTF8, List.utf8Encode]

theorem encode_eq_flatMap (text : String) : encode text = text.toList.flatMap String.utf8EncodeChar := by
  rw [← encode_ofList, String.ofList_toList]

/-- Bytes start with those of their first character. -/
theorem split_of_first? {bytes : Bytes} {c : Char} (read : first? bytes = some c) :
    String.utf8EncodeChar c ++ bytes.drop c.utf8Size = bytes := by
  have taken := String.toByteArray_utf8EncodeChar_of_utf8DecodeChar?_eq_some read
  have front : String.utf8EncodeChar c = bytes.take c.utf8Size := by
    have lists := congrArg (fun bytes => bytes.data.toList) taken
    simpa [List.take_take, c.utf8Size_le_four] using lists
  rw [front, List.take_append_drop]

theorem encode_of_decodeFrom {index : Nat} {bytes : Bytes} {text : List Char}
    (read : decodeFrom index bytes = .ok text) : text.flatMap String.utf8EncodeChar = bytes := by
  fun_induction decodeFrom index bytes generalizing text with
  | case1 =>
    cases read
    rfl
  | case2 index byte rest c first ih =>
    cases later : decodeFrom (index + c.utf8Size) (rest.drop (c.utf8Size - 1)) with
    | error fault =>
      rw [later] at read
      cases read
    | ok characters =>
      rw [later] at read
      cases read
      have split := split_of_first? first
      rw [← Nat.sub_add_cancel c.utf8Size_pos, List.drop_succ_cons] at split
      exact (congrArg _ (ih later)).trans split
  | case3 => cases read

theorem encode_of_decode {bytes : Bytes} {text : String} (read : decode bytes = .ok text) :
    encode text = bytes := by
  rw [decode] at read
  cases characters : decodeFrom 0 bytes with
  | error fault =>
    rw [characters] at read
    cases read
  | ok characters =>
    rw [characters] at read
    cases read
    rw [encode_ofList, encode_of_decodeFrom ‹_›]

/-- The bytes of a character are read as it, whatever follows, and what follows is left. -/
theorem exists_first? (c : Char) (bytes : Bytes) : ∃ byte rest, String.utf8EncodeChar c ++ bytes = byte :: rest ∧
    first? (byte :: rest) = some c ∧ rest.drop (c.utf8Size - 1) = bytes := by
  have length : (String.utf8EncodeChar c).length = c.utf8Size := String.length_utf8EncodeChar c
  have front : (String.utf8EncodeChar c ++ bytes).take 4 =
      String.utf8EncodeChar c ++ bytes.take (4 - c.utf8Size) := by
    rw [List.take_append, length, List.take_of_length_le (length ▸ c.utf8Size_le_four)]
  have read : first? (String.utf8EncodeChar c ++ bytes) = some c := by
    rw [first?, front, List.toByteArray_append]
    exact ByteArray.utf8DecodeChar?_utf8EncodeChar_append
  have left : (String.utf8EncodeChar c ++ bytes).drop c.utf8Size = bytes := List.drop_left' length
  cases written : String.utf8EncodeChar c ++ bytes with
  | nil => exact absurd (List.append_eq_nil_iff.mp written).1 String.utf8EncodeChar_ne_nil
  | cons byte rest =>
    rw [written] at read left
    rw [← Nat.sub_add_cancel c.utf8Size_pos, List.drop_succ_cons] at left
    exact ⟨byte, rest, rfl, read, left⟩

theorem decodeFrom_characters (index : Nat) (text : List Char) :
    decodeFrom index (text.flatMap String.utf8EncodeChar) = .ok text := by
  induction text generalizing index with
  | nil => rw [List.flatMap_nil, decodeFrom]
  | cons c text ih =>
    obtain ⟨byte, rest, written, read, left⟩ := exists_first? c (text.flatMap String.utf8EncodeChar)
    rw [List.flatMap_cons, written, decodeFrom, read]
    simp only [left, ih]
    rfl

theorem decode_encode (text : String) : decode (encode text) = .ok text := by
  rw [encode_eq_flatMap, decode, decodeFrom_characters]
  exact congrArg Except.ok String.ofList_toList

theorem decode_eq_ok_iff {bytes : Bytes} {text : String} : decode bytes = .ok text ↔ encode text = bytes := by
  constructor
  · exact encode_of_decode
  · rintro rfl
    exact decode_encode text

theorem encode_injective : Function.Injective encode := by
  intro text other same
  have read := decode_encode text
  rw [same, decode_encode] at read
  exact (Except.ok.inj read).symm

theorem decodeLossyChars_characters (text : List Char) :
    decodeLossyChars (text.flatMap String.utf8EncodeChar) = text := by
  induction text with
  | nil => rw [List.flatMap_nil, decodeLossyChars]
  | cons c text ih =>
    obtain ⟨byte, rest, written, read, left⟩ := exists_first? c (text.flatMap String.utf8EncodeChar)
    rw [List.flatMap_cons, written, decodeLossyChars, read]
    simp only [left, ih]

theorem decodeLossy_encode (text : String) : decodeLossy (encode text) = text := by
  rw [encode_eq_flatMap, decodeLossy, decodeLossyChars_characters, String.ofList_toList]

/-- A byte that is ASCII is no part of any other character. -/
theorem mem_utf8EncodeChar_iff {c : Char} {byte : UInt8} (ascii : byte < 0x80) :
    byte ∈ String.utf8EncodeChar c ↔ c.toNat = byte.toNat := by
  have small : byte.toNat < 128 := ascii
  have of_eq : ∀ n, byte = UInt8.ofNat n → byte.toNat = n % 256 := by
    rintro n rfl
    rfl
  have size : c.toNat = c.val.toNat := rfl
  rw [String.utf8EncodeChar, size]
  generalize c.val.toNat = code
  split
  · next plain =>
    constructor
    · intro member
      have same := of_eq code (List.mem_singleton.mp member)
      omega
    · rintro rfl
      simp
  · next wide =>
    have differ : code ≠ byte.toNat := by omega
    -- Every byte of a longer character has its highest bit set.
    refine iff_of_false (fun member => ?_) differ
    have high : ∃ n, 128 ≤ n ∧ n < 256 ∧ byte = UInt8.ofNat n := by
      split at member
      · simp only [List.mem_cons, List.not_mem_nil, or_false] at member
        rcases member with same | same <;> exact ⟨_, by omega, by omega, same⟩
      · split at member
        · simp only [List.mem_cons, List.not_mem_nil, or_false] at member
          rcases member with same | same | same <;> exact ⟨_, by omega, by omega, same⟩
        · simp only [List.mem_cons, List.not_mem_nil, or_false] at member
          rcases member with same | same | same | same <;> exact ⟨_, by omega, by omega, same⟩
    obtain ⟨n, low, bound, same⟩ := high
    have value := of_eq n same
    omega

theorem mem_encode_iff {text : String} {c : Char} (ascii : c.toNat < 0x80) :
    UInt8.ofNat c.toNat ∈ encode text ↔ c ∈ text.toList := by
  have same : (UInt8.ofNat c.toNat).toNat = c.toNat := Nat.mod_eq_of_lt (by omega)
  have byte : UInt8.ofNat c.toNat < 0x80 := by
    have bound : (UInt8.ofNat c.toNat).toNat < 128 := by omega
    exact bound
  rw [encode_eq_flatMap, List.mem_flatMap]
  constructor
  · rintro ⟨other, listed, member⟩
    have equal := (mem_utf8EncodeChar_iff byte).mp member
    rw [same] at equal
    exact Char.toNat_inj.mp equal ▸ listed
  · intro listed
    exact ⟨c, listed, (mem_utf8EncodeChar_iff byte).mpr same.symm⟩

def asciiText (bytes : Bytes) : String := String.ofList (bytes.map fun byte => Char.ofNat byte.toNat)

theorem toList_asciiText (bytes : Bytes) :
    (asciiText bytes).toList = bytes.map fun byte => Char.ofNat byte.toNat :=
  String.toList_ofList

theorem utf8EncodeChar_ofNat : ∀ n < 128, String.utf8EncodeChar (Char.ofNat n) = [UInt8.ofNat n] := by decide

theorem encode_asciiText {bytes : Bytes} (ascii : ∀ byte ∈ bytes, byte < 0x80) : encode (asciiText bytes) = bytes := by
  rw [asciiText, encode_ofList]
  induction bytes with
  | nil => rfl
  | cons byte rest ih =>
    obtain ⟨here, later⟩ := List.forall_mem_cons.mp ascii
    rw [List.map_cons, List.flatMap_cons, utf8EncodeChar_ofNat byte.toNat here, UInt8.ofNat_toNat, ih later,
      List.singleton_append]

/-- Text of printable ASCII is read from a header as it was put there. -/
theorem visible?_ascii {text : List Char} (printable : ∀ c ∈ text, 0x20 ≤ c.toNat ∧ c.toNat < 0x7F) :
    visible? (ascii text) = some (String.ofList text) := by
  have visible : ∀ n < 0x7F, 0x20 ≤ n → (decide (0x20 ≤ UInt8.ofNat n) && decide (UInt8.ofNat n < 0x7F)) = true := by
    decide
  have same : ∀ n < 0x7F, (UInt8.ofNat n).toNat = n := by decide
  have all : (ascii text).all (fun byte => (0x20 ≤ byte && byte < 0x7F) || byte == 0x09) = true := by
    rw [List.all_eq_true]
    intro byte member
    obtain ⟨c, listed, rfl⟩ := List.mem_map.mp member
    rw [visible _ (printable c listed).2 (printable c listed).1, Bool.true_or]
  have characters : (ascii text).map (fun byte => Char.ofNat byte.toNat) = text := by
    rw [ascii, List.map_map]
    refine (List.map_congr_left fun c listed => ?_).trans (List.map_id text)
    simp [same _ (printable c listed).2]
  rw [visible?, if_pos all, characters]

end TokenServer.Utf8
