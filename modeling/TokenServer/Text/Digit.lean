/-!
Digits: decimal ones, and hexadecimal ones of which the letters are read in either case and written in
lower case.
-/

namespace TokenServer.Digit

def isDecimal (c : Char) : Bool := '0' ≤ c && c ≤ '9'

def decimal? (c : Char) : Option Nat :=
  if isDecimal c then some (c.toNat - '0'.toNat) else none

def decimalValue (digits : List Char) : Nat :=
  digits.foldl (fun value c => value * 10 + (c.toNat - '0'.toNat)) 0

def decimals (value : Nat) : List Char := Nat.toDigits 10 value

def hex? (c : Char) : Option Nat :=
  if isDecimal c then some (c.toNat - '0'.toNat)
  else if 'a' ≤ c ∧ c ≤ 'f' then some (c.toNat - 'a'.toNat + 10)
  else if 'A' ≤ c ∧ c ≤ 'F' then some (c.toNat - 'A'.toNat + 10)
  else none

def hex (value : Nat) : Char :=
  if value < 10 then Char.ofNat ('0'.toNat + value) else Char.ofNat ('a'.toNat + (value - 10))

end TokenServer.Digit
