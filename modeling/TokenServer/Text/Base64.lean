import TokenServer.Text.Utf8

/-!
Base64 in two variants: the common one with padding, and the one for names in addresses without it.
A reader accepts what the writer produces and nothing else: no blanks, no missing or extra padding,
and no stray bits behind the last byte.
-/

namespace TokenServer

/-- The two digits that the variants disagree on, and whether the last group is filled up. -/
structure Base64 where
  plus : Char
  slash : Char
  padded : Bool
  deriving Repr, DecidableEq

namespace Base64

def standard : Base64 := ⟨'+', '/', true⟩

def urlSafe : Base64 := ⟨'-', '_', false⟩

variable (variant : Base64)

def digit (value : Nat) : Char :=
  if value < 26 then Char.ofNat ('A'.toNat + value)
  else if value < 52 then Char.ofNat ('a'.toNat + (value - 26))
  else if value < 62 then Char.ofNat ('0'.toNat + (value - 52))
  else if value = 62 then variant.plus
  else variant.slash

def value? (c : Char) : Option Nat :=
  if 'A' ≤ c ∧ c ≤ 'Z' then some (c.toNat - 'A'.toNat)
  else if 'a' ≤ c ∧ c ≤ 'z' then some (c.toNat - 'a'.toNat + 26)
  else if '0' ≤ c ∧ c ≤ '9' then some (c.toNat - '0'.toNat + 52)
  else if c = variant.plus then some 62
  else if c = variant.slash then some 63
  else none

def padding (missing : Nat) : List Char :=
  if variant.padded then List.replicate missing '=' else []

def encode : Bytes → List Char
  | [] => []
  | [a] =>
    let bits := a.toNat * 16
    [variant.digit (bits / 64), variant.digit (bits % 64)] ++ variant.padding 2
  | [a, b] =>
    let bits := (a.toNat * 256 + b.toNat) * 4
    [variant.digit (bits / 4096), variant.digit (bits / 64 % 64), variant.digit (bits % 64)] ++
      variant.padding 1
  | a :: b :: c :: rest =>
    let bits := (a.toNat * 256 + b.toNat) * 256 + c.toNat
    variant.digit (bits / 262144) :: variant.digit (bits / 4096 % 64) ::
      variant.digit (bits / 64 % 64) :: variant.digit (bits % 64) :: encode rest

/-- One byte from two characters, the last four bits of which are clear. -/
def oneByte? (w x : Char) : Option Bytes := do
  let bits := (← variant.value? w) * 64 + (← variant.value? x)
  if bits % 16 = 0 then some [UInt8.ofNat (bits / 16)] else none

/-- Two bytes from three characters, the last two bits of which are clear. -/
def twoBytes? (w x y : Char) : Option Bytes := do
  let bits := ((← variant.value? w) * 64 + (← variant.value? x)) * 64 + (← variant.value? y)
  if bits % 4 = 0 then some [UInt8.ofNat (bits / 1024), UInt8.ofNat (bits / 4 % 256)] else none

def threeBytes? (w x y z : Char) : Option Bytes := do
  let high := (← variant.value? w) * 64 + (← variant.value? x)
  let bits := (high * 64 + (← variant.value? y)) * 64 + (← variant.value? z)
  some [UInt8.ofNat (bits / 65536), UInt8.ofNat (bits / 256 % 256), UInt8.ofNat (bits % 256)]

def decode? : List Char → Option Bytes
  | [] => some []
  | [_] => none
  | [w, x] => if variant.padded then none else variant.oneByte? w x
  | [w, x, y] => if variant.padded then none else variant.twoBytes? w x y
  | [w, x, y, z] =>
    if variant.padded ∧ z = '=' then
      if y = '=' then variant.oneByte? w x else variant.twoBytes? w x y
    else variant.threeBytes? w x y z
  | w :: x :: y :: z :: rest => do
    let bytes ← variant.threeBytes? w x y z
    return bytes ++ (← decode? rest)

end Base64

end TokenServer
