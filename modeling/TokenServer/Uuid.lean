import TokenServer.Text.Digit

/-!
Universally unique identifiers: 128 bits, written as hexadecimal digits in five groups. Identifiers of
version 7 start with the milliseconds of their making, and so increase with time.
-/

namespace TokenServer

structure Uuid where
  value : Nat
  bounded : value < 0x100000000000000000000000000000000 := by decide
  deriving Repr, DecidableEq

namespace Uuid

def hexDigits : Nat → Nat → List Nat
  | 0, _ => []
  | count + 1, value => hexDigits count (value / 16) ++ [value % 16]

def ofDigits (digits : List Nat) : Nat := digits.foldl (fun value digit => value * 16 + digit) 0

/-- Cuts 32 characters into groups of 8, 4, 4, 4 and 12. -/
def hyphenated (digits : List Char) : List Char :=
  digits.take 8 ++ '-' :: ((digits.drop 8).take 4 ++ '-' :: ((digits.drop 12).take 4 ++
    '-' :: ((digits.drop 16).take 4 ++ '-' :: digits.drop 20)))

def render (id : Uuid) : String :=
  String.ofList (hyphenated ((hexDigits 32 id.value).map Digit.hex))

def ofHex? (digits : List Char) : Option Uuid := do
  guard (digits.length = 32)
  let value := ofDigits (← digits.mapM Digit.hex?)
  if bounded : value < 0x100000000000000000000000000000000 then some ⟨value, bounded⟩ else none

def ofHyphenated? (text : List Char) : Option Uuid := do
  let digits := text.take 8 ++ (text.drop 9).take 4 ++ (text.drop 14).take 4 ++
    (text.drop 19).take 4 ++ text.drop 24
  guard (text = hyphenated digits)
  ofHex? digits

def namespaceMark : List Char := ['u', 'r', 'n', ':', 'u', 'u', 'i', 'd', ':']

/-- Reads the form with hyphens behind the mark of resource names, whose case does not count. -/
def ofResourceName? (text : List Char) : Option Uuid := do
  guard ((text.take namespaceMark.length).map Char.toLower = namespaceMark)
  ofHyphenated? (text.drop namespaceMark.length)

/-- Reads the form with hyphens, alone, in braces or as a resource name, and the form without them. -/
def parse? (text : String) : Option Uuid :=
  match text.toList with
  | '\x7b' :: rest =>
    if rest.getLast? = some '\x7d' then ofHyphenated? rest.dropLast else none
  | text =>
    if text.length = 32 then ofHex? text
    else if text.length = 45 then ofResourceName? text
    else ofHyphenated? text

def version (id : Uuid) : Nat := id.value / 0x10000000000000000000 % 16

/-- The identifier of version 7 for a time in milliseconds and 74 random bits. -/
def ofTime (millis random : Nat) : Uuid :=
  let high := millis % 0x1000000000000 * 0x10000 + 0x7000 + random / 0x4000000000000000 % 0x1000
  let low := 0x8000000000000000 + random % 0x4000000000000000
  ⟨high * 0x10000000000000000 + low, by simp only [high, low]; omega⟩

end Uuid

end TokenServer
