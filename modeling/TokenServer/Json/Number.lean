import TokenServer.Json.Basic

/-!
Numbers as they stand in a JSON text, and their values. Integers of up to 64 bits are exact. Any
other number is a binary64 value: as many leading digits as fit a 64-bit word, scaled by one power
of ten. A number too large for binary64 has no value.
-/

namespace TokenServer.Json

/-- The parts of a number text; digits are values below ten, most significant first. -/
structure NumberText where
  negative : Bool := false
  whole : List Nat
  fraction : List Nat := []
  /-- Whether the exponent is negative, and its digits. -/
  exponent : Option (Bool × List Nat) := none
  deriving Repr, DecidableEq

namespace NumberText

/-- Digits gathered into a word, and the power of ten that they still have to be scaled by. -/
structure Gathered where
  word : Nat
  scale : Int
  deriving Repr, DecidableEq

def greatestWord : Nat := 0xFFFFFFFFFFFFFFFF

/-- Gathers digits before the point; once a digit does not fit, each further one only scales. -/
def gatherWhole (gathered : Gathered) : List Nat → Gathered
  | [] => gathered
  | digit :: rest =>
    if gathered.word * 10 + digit ≤ greatestWord then
      gatherWhole ⟨gathered.word * 10 + digit, gathered.scale⟩ rest
    else ⟨gathered.word, gathered.scale + (rest.length + 1)⟩

/-- Gathers digits behind the point; once a digit does not fit, it and the rest are dropped. -/
def gatherFraction (gathered : Gathered) : List Nat → Gathered
  | [] => gathered
  | digit :: rest =>
    if gathered.word * 10 + digit ≤ greatestWord then
      gatherFraction ⟨gathered.word * 10 + digit, gathered.scale - 1⟩ rest
    else gathered

def greatestExponent : Nat := 0x7FFFFFFF

/-- The value of exponent digits, or none when they exceed the greatest exponent. -/
def exponentValue? (value : Nat) : List Nat → Option Nat
  | [] => some value
  | digit :: rest =>
    if value * 10 + digit ≤ greatestExponent then exponentValue? (value * 10 + digit) rest else none

def powerOfTen (exponent : Nat) : Float := Float.ofScientific 1 false exponent

/-- Divides by a power of ten, at most 308 places at a time. -/
def scaleDown (value : Float) (places : Nat) : Float :=
  if places ≤ 308 then value / powerOfTen places
  else if value == 0 then value
  else scaleDown (value / powerOfTen 308) (places - 308)
termination_by places

/-- The number `word * 10 ^ scale`, or none when that is beyond all numbers. -/
def scaled? (gathered : Gathered) : Option Float :=
  let value := (UInt64.ofNat gathered.word).toFloat
  if 0 ≤ gathered.scale then
    if gathered.scale ≤ 308 then
      let product := value * powerOfTen gathered.scale.toNat
      if product.isInf then none else some product
    else if value == 0 then some value
    else none
  else some (scaleDown value (-gathered.scale).toNat)

def float? (number : NumberText) : Option Json :=
  let gathered := gatherFraction (gatherWhole ⟨0, 0⟩ number.whole) number.fraction
  let signed (value : Float) : Json := .float (if number.negative then -value else value).toBits
  match number.exponent with
  | none => (scaled? gathered).map signed
  | some (negative, digits) =>
    match exponentValue? 0 digits with
    | some exponent =>
      let shift : Int := if negative then -exponent else exponent
      (scaled? ⟨gathered.word, gathered.scale + shift⟩).map signed
    | none => if gathered.word ≠ 0 ∧ !negative then none else some (signed 0)

/-- The value of a number text. A minus sign before zero is kept, so that value is no integer. -/
def value? (number : NumberText) : Option Json :=
  if number.fraction.isEmpty ∧ number.exponent = none then
    let gathered := gatherWhole ⟨0, 0⟩ number.whole
    if gathered.scale ≠ 0 then number.float?
    else if !number.negative then some (.int gathered.word)
    else if 0 < gathered.word ∧ gathered.word ≤ 0x8000000000000000 then
      some (.int (-(gathered.word : Int)))
    else number.float?
  else number.float?

end NumberText

end TokenServer.Json
