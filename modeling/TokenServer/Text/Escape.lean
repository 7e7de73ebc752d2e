import TokenServer.Text.Utf8

/-!
Percent escapes: a byte is written as a percent sign and two hexadecimal digits. `Escape.unescape`
reads one field of a form, where a plus sign stands for a space, and refuses a broken escape;
`Escape.expand` leaves a broken escape as it is.
-/

namespace TokenServer.Escape

def percent : UInt8 := 0x25

def plus : UInt8 := 0x2B

def space : UInt8 := 0x20

def isDigit (byte : UInt8) : Bool := 0x30 ≤ byte && byte ≤ 0x39

def isLetter (byte : UInt8) : Bool :=
  (0x41 ≤ byte && byte ≤ 0x5A) || (0x61 ≤ byte && byte ≤ 0x7A)

def hexValue? (byte : UInt8) : Option Nat :=
  if isDigit byte then some (byte.toNat - 0x30)
  else if 0x41 ≤ byte ∧ byte ≤ 0x46 then some (byte.toNat - 0x41 + 10)
  else if 0x61 ≤ byte ∧ byte ≤ 0x66 then some (byte.toNat - 0x61 + 10)
  else none

def hexDigit (value : Nat) : UInt8 :=
  if value < 10 then UInt8.ofNat (0x30 + value) else UInt8.ofNat (0x41 + (value - 10))

def escaped (byte : UInt8) : Bytes :=
  [percent, hexDigit (byte.toNat / 16), hexDigit (byte.toNat % 16)]

/-- Letters, digits and the marks `-`, `.`, `_` and `~`. -/
def isUnreserved (byte : UInt8) : Bool :=
  isDigit byte || isLetter byte || byte == 0x2D || byte == 0x2E || byte == 0x5F || byte == 0x7E

def encode (bytes : Bytes) : Bytes :=
  bytes.flatMap (fun byte => if isUnreserved byte then [byte] else escaped byte)

def byteOf? (high low : UInt8) : Option UInt8 := do
  return UInt8.ofNat ((← hexValue? high) * 16 + (← hexValue? low))

/-- Replaces each escape by its byte; a percent sign that starts none stays. -/
def expand : Bytes → Bytes
  | byte :: high :: low :: rest =>
    if byte = percent then
      match byteOf? high low with
      | some value => value :: expand rest
      | none => byte :: expand (high :: low :: rest)
    else byte :: expand (high :: low :: rest)
  | tooShort => tooShort

/-- Where the first percent sign stands that starts no escape; the first byte has the given index. -/
def firstBroken? (index : Nat) : Bytes → Option Nat
  | byte :: high :: low :: rest =>
    if byte = percent then
      if (byteOf? high low).isSome then firstBroken? (index + 3) rest else some index
    else firstBroken? (index + 1) (high :: low :: rest)
  | tooShort => (tooShort.findIdx? (· == percent)).map (index + ·)

def plusToSpace (bytes : Bytes) : Bytes := bytes.map (fun byte => if byte = plus then space else byte)

inductive Fault where
  | brokenEscape (index : Nat)
  | notUtf8 (fault : Utf8.Fault)
  deriving Repr, DecidableEq

def Fault.message : Fault → String
  | .brokenEscape index => s!"invalid percent escape at byte {index}"
  | .notUtf8 fault => s!"unescaped value is not UTF-8: {fault.message}"

def unescape (raw : String) : Except Fault String :=
  let bytes := Utf8.encode raw
  match firstBroken? 0 bytes with
  | some index => .error (.brokenEscape index)
  | none => (Utf8.decode (expand (plusToSpace bytes))).mapError .notUtf8

end TokenServer.Escape
