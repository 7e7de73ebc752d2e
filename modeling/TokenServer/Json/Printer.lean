import TokenServer.Json.Basic
import TokenServer.Text.Digit
import TokenServer.Text.Shortest

/-!
Compact JSON text: no blanks, members in the order of the object, and escapes only where the grammar
asks for them.
-/

namespace TokenServer.Json

def printChar (c : Char) : List Char :=
  match c with
  | '"' => ['\\', '"']
  | '\\' => ['\\', '\\']
  | '\x08' => ['\\', 'b']
  | '\x0C' => ['\\', 'f']
  | '\n' => ['\\', 'n']
  | '\r' => ['\\', 'r']
  | '\t' => ['\\', 't']
  | c =>
    if c.toNat < 0x20 then ['\\', 'u', '0', '0', Digit.hex (c.toNat / 16), Digit.hex (c.toNat % 16)]
    else [c]

def printString (text : String) : List Char :=
  '"' :: (text.toList.flatMap printChar ++ ['"'])

def printInt : Int → List Char
  | .ofNat value => Digit.decimals value
  | .negSucc value => '-' :: Digit.decimals (value + 1)

/-- Exponents always carry a sign and have no leading zeros. -/
def printExponent (exponent : Int) : List Char :=
  'e' :: (if exponent < 0 then '-' else '+') :: Digit.decimals exponent.natAbs

/-- Numbers from 10⁻⁵ up to below 10¹⁶ are written positionally and always show a point; others have
one digit before the point and an exponent. -/
def printDecimal (decimal : DecimalFraction) : List Char :=
  let digits := Digit.decimals decimal.digits
  let point := digits.length + decimal.exponent
  if 0 ≤ decimal.exponent ∧ point ≤ 16 then
    digits ++ List.replicate decimal.exponent.toNat '0' ++ ['.', '0']
  else if 0 < point ∧ point ≤ 16 then
    digits.take point.toNat ++ '.' :: digits.drop point.toNat
  else if -5 < point ∧ point ≤ 0 then
    '0' :: '.' :: (List.replicate (-point).toNat '0' ++ digits)
  else
    let fraction := digits.drop 1
    digits.take 1 ++ (if fraction.isEmpty then [] else '.' :: fraction) ++ printExponent (point - 1)

def printFloat (bits : UInt64) : List Char :=
  let magnitude := bits &&& 0x7FFFFFFFFFFFFFFF
  let digits :=
    if magnitude = 0 then ['0', '.', '0'] else printDecimal (BinaryFraction.ofBits magnitude).shortest
  if bits = magnitude then digits else '-' :: digits

mutual

def print : Json → List Char
  | .null => ['n', 'u', 'l', 'l']
  | .bool true => ['t', 'r', 'u', 'e']
  | .bool false => ['f', 'a', 'l', 's', 'e']
  | .int value => printInt value
  | .float bits => printFloat bits
  | .string value => printString value
  | .array [] => ['[', ']']
  | .array (item :: rest) => '[' :: (item.print ++ printItems rest)
  | .object [] => ['\x7b', '\x7d']
  | .object ((key, value) :: rest) =>
    '\x7b' :: (printString key ++ ':' :: (value.print ++ printMembers rest))

def printItems : List Json → List Char
  | [] => [']']
  | item :: rest => ',' :: (item.print ++ printItems rest)

def printMembers : List (String × Json) → List Char
  | [] => ['\x7d']
  | (key, value) :: rest =>
    ',' :: (printString key ++ ':' :: (value.print ++ printMembers rest))

end

def render (value : Json) : String := String.ofList value.print

end TokenServer.Json
