/-!
The shortest decimal text of a binary floating-point number. A finite number `m * 2 ^ q` stands for
every real that rounds to it. Among the decimals in that interval the one with the fewest digits is
written, and of those the one nearest to the number.
-/

namespace TokenServer

/-- A positive number `significand * 2 ^ exponent` and the reals that round to it. -/
structure BinaryFraction where
  significand : Nat
  exponent : Int
  /-- The next smaller number is only half as far away as the next larger one. -/
  closerBelow : Bool
  deriving Repr, DecidableEq

/-- The number `digits * 10 ^ exponent`. -/
structure DecimalFraction where
  digits : Nat
  exponent : Int
  deriving Repr, DecidableEq

/-- The same decimal without zeros at the end of its digits. -/
def DecimalFraction.reduced (decimal : DecimalFraction) : DecimalFraction :=
  if 0 < decimal.digits ∧ decimal.digits % 10 = 0 then
    DecimalFraction.reduced ⟨decimal.digits / 10, decimal.exponent + 1⟩
  else decimal
termination_by decimal.digits

structure Ratio where
  num : Nat
  den : Nat
  deriving Repr, DecidableEq

namespace Ratio

def scaled (value base : Nat) (exponent : Int) : Ratio :=
  if 0 ≤ exponent then ⟨value * Nat.pow base exponent.toNat, 1⟩
  else ⟨value, Nat.pow base (-exponent).toNat⟩

def le (a b : Ratio) : Bool := a.num * b.den ≤ b.num * a.den

def lt (a b : Ratio) : Bool := a.num * b.den < b.num * a.den

end Ratio

namespace BinaryFraction

variable (number : BinaryFraction)

/-- The number, counted in quarters of its last place. -/
def quarters (offset : Int) : Ratio :=
  Ratio.scaled (4 * number.significand + offset).toNat 2 (number.exponent - 2)

def value : Ratio := number.quarters 0

def lowest : Ratio := number.quarters (if number.closerBelow then -1 else -2)

def highest : Ratio := number.quarters 2

/-- The ratio rounds to the number; the ends of the interval do so when the significand is even. -/
def accepts (ratio : Ratio) : Bool :=
  if number.significand % 2 = 0 then number.lowest.le ratio && ratio.le number.highest
  else number.lowest.lt ratio && ratio.lt number.highest

def decimalExponent : Int :=
  let digits (n : Nat) : Int := (Nat.toDigits 10 n).length
  let guess := digits number.value.num - digits number.value.den
  if (Ratio.scaled 1 10 guess).le number.value then guess else guess - 1

/-- The decimals on both sides of the number that have this many digits. -/
def neighbours (places : Nat) : DecimalFraction × DecimalFraction :=
  let exponent := number.decimalExponent - places + 1
  let unit := Ratio.scaled 1 10 exponent
  let below := number.value.num * unit.den / (number.value.den * unit.num)
  (⟨below, exponent⟩, ⟨below + 1, exponent⟩)

/-- Of two decimals around the number the nearer; of two equally near ones that with even digits. -/
def nearer (below above : DecimalFraction) : DecimalFraction :=
  let middle := Ratio.scaled (2 * below.digits + 1) 10 below.exponent
  let twice : Ratio := ⟨2 * number.value.num, number.value.den⟩
  if twice.lt middle then below
  else if middle.lt twice then above
  else if below.digits % 2 = 0 then below
  else above

/-- A decimal with this many digits that rounds to the number. -/
def withPlaces? (places : Nat) : Option DecimalFraction :=
  let (below, above) := number.neighbours places
  let fits (decimal : DecimalFraction) := number.accepts (.scaled decimal.digits 10 decimal.exponent)
  match fits below, fits above with
  | true, true => some (number.nearer below above)
  | true, false => some below
  | false, true => some above
  | false, false => none

/-- Seventeen digits always suffice, so the last alternative is never needed. -/
def shortest : DecimalFraction :=
  (((List.range' 1 17).findSome? number.withPlaces?).getD (number.neighbours 17).1).reduced

end BinaryFraction

def BinaryFraction.ofBits (bits : UInt64) : BinaryFraction :=
  let exponent := (bits >>> 52 &&& 0x7FF).toNat
  let fraction := (bits &&& 0xFFFFFFFFFFFFF).toNat
  if exponent = 0 then ⟨fraction, -1074, false⟩
  else ⟨fraction + 0x10000000000000, exponent - 1075, fraction = 0 && 1 < exponent⟩

end TokenServer
