import TokenServer.Text.Digit

/-!
Integers in decimal text. A reader knows the bounds of the values that it may give; the first
character that is no digit, or that takes the value out of bounds, decides the fault.
-/

namespace TokenServer

structure IntegerBounds where
  low : Int
  high : Int
  deriving Repr, DecidableEq

namespace IntegerBounds

def int64 : IntegerBounds := ⟨-0x8000000000000000, 0x7FFFFFFFFFFFFFFF⟩

def nat64 : IntegerBounds := ⟨0, 0xFFFFFFFFFFFFFFFF⟩

def nat32 : IntegerBounds := ⟨0, 0xFFFFFFFF⟩

def contains (bounds : IntegerBounds) (value : Int) : Bool :=
  bounds.low ≤ value && value ≤ bounds.high

end IntegerBounds

inductive IntegerFault where
  | empty
  | badDigit
  | tooLarge
  | tooSmall
  deriving Repr, DecidableEq

def IntegerFault.message : IntegerFault → String
  | .empty => "cannot parse integer from empty string"
  | .badDigit => "invalid digit found in string"
  | .tooLarge => "number too large to fit in target type"
  | .tooSmall => "number too small to fit in target type"

namespace IntegerBounds

/-- Reads on behind digits worth `value`; `sign` is 1 or -1. -/
def readDigits (bounds : IntegerBounds) (sign value : Int) : List Char → Except IntegerFault Int
  | [] => .ok value
  | c :: rest =>
    match Digit.decimal? c with
    | none => .error .badDigit
    | some digit =>
      let next := value * 10 + sign * digit
      if bounds.high < next then .error .tooLarge
      else if next < bounds.low then .error .tooSmall
      else readDigits bounds sign next rest

/-- Reads an integer with an optional sign; a minus is no part of a number that cannot be negative. -/
def read (bounds : IntegerBounds) : List Char → Except IntegerFault Int
  | [] => .error .empty
  | ['+'] => .error .badDigit
  | ['-'] => .error .badDigit
  | '+' :: digits => bounds.readDigits 1 0 digits
  | '-' :: digits =>
    if bounds.low < 0 then bounds.readDigits (-1) 0 digits else .error .badDigit
  | digits => bounds.readDigits 1 0 digits

end IntegerBounds

end TokenServer
