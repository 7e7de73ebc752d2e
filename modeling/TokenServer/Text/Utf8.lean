/-!
UTF-8. Texts become bytes, and bytes become a text again unless a sequence is broken or cut off; the
first such place is reported with the bytes that it takes up (`Utf8.decode`). A lenient reader puts
the replacement character there (`Utf8.decodeLossy`).
-/

namespace TokenServer

abbrev Bytes := List UInt8

namespace Utf8

def encode (text : String) : Bytes := text.toUTF8.data.toList

def ascii (text : List Char) : Bytes := text.map (fun c => UInt8.ofNat c.toNat)

structure Fault where
  index : Nat
  /-- The bytes that no continuation can mend, or none when the input only ends too early. -/
  length : Option Nat
  deriving Repr, DecidableEq

def Fault.message (fault : Fault) : String :=
  match fault.length with
  | some length => s!"invalid utf-8 sequence of {length} bytes from index {fault.index}"
  | none => s!"incomplete utf-8 byte sequence from index {fault.index}"

def first? (bytes : Bytes) : Option Char :=
  (bytes.take 4).toByteArray.utf8DecodeChar? 0

/-- The bounds of the bytes that must follow a first byte, or nothing for a byte that starts no
character. -/
def continuation (first : UInt8) : Option (List (UInt8 × UInt8)) :=
  let tail : UInt8 × UInt8 := (0x80, 0xBF)
  if first < 0x80 then some []
  else if first < 0xC2 then none
  else if first < 0xE0 then some [tail]
  else if first = 0xE0 then some [(0xA0, 0xBF), tail]
  else if first = 0xED then some [(0x80, 0x9F), tail]
  else if first < 0xF0 then some [tail, tail]
  else if first = 0xF0 then some [(0x90, 0xBF), tail, tail]
  else if first < 0xF4 then some [tail, tail, tail]
  else if first = 0xF4 then some [(0x80, 0x8F), tail, tail]
  else none

/-- How many bytes fit before one breaks the bounds, or nothing when all that there are fit. -/
def brokenAfter (fitting : Nat) : List (UInt8 × UInt8) → Bytes → Option Nat
  | [], _ => some fitting
  | _ :: _, [] => none
  | (low, high) :: bounds, byte :: rest =>
    if low ≤ byte ∧ byte ≤ high then brokenAfter (fitting + 1) bounds rest else some fitting

/-- The length of the broken sequence at the front of bytes that start no character. -/
def brokenLength : Bytes → Option Nat
  | [] => none
  | first :: rest =>
    match continuation first with
    | none => some 1
    | some bounds => brokenAfter 1 bounds rest

/-- The characters of the bytes, the first of which has the given index. -/
def decodeFrom (index : Nat) : Bytes → Except Fault (List Char)
  | [] => .ok []
  | byte :: rest =>
    match first? (byte :: rest) with
    | some c => (decodeFrom (index + c.utf8Size) (rest.drop (c.utf8Size - 1))).map (c :: ·)
    | none => .error ⟨index, brokenLength (byte :: rest)⟩
termination_by bytes => bytes.length
decreasing_by
  simp only [List.length_drop, List.length_cons]
  omega

def decode (bytes : Bytes) : Except Fault String := (decodeFrom 0 bytes).map String.ofList

/-- The characters of the bytes, with a replacement character for each broken sequence. -/
def decodeLossyChars : Bytes → List Char
  | [] => []
  | byte :: rest =>
    match first? (byte :: rest) with
    | some c => c :: decodeLossyChars (rest.drop (c.utf8Size - 1))
    | none =>
      match brokenLength (byte :: rest) with
      | some length => '\uFFFD' :: decodeLossyChars (rest.drop (length - 1))
      | none => ['\uFFFD']
termination_by bytes => bytes.length
decreasing_by
  all_goals
    simp only [List.length_drop, List.length_cons]
    omega

def decodeLossy (bytes : Bytes) : String := String.ofList (decodeLossyChars bytes)

/-- The text of bytes that are printable ASCII or tabs. -/
def visible? (bytes : Bytes) : Option String :=
  if bytes.all (fun byte => (0x20 ≤ byte && byte < 0x7F) || byte == 0x09) then
    some (String.ofList (bytes.map (fun byte => Char.ofNat byte.toNat)))
  else none

end Utf8

end TokenServer
