import TokenServer.Text.Blank
import TokenServer.Text.Digit
import TokenServer.Time.Instant

/-!
Instants as text. They are written in the profile of RFC 3339 with as many groups of three fraction
digits as are exact. A reader is more lenient: blanks may stand between the parts, fields may lack
leading zeros, and the offset may be any below a day.
-/

namespace TokenServer

def paddedDigits (width value : Nat) : List Char :=
  let digits := Digit.decimals value
  List.replicate (width - digits.length) '0' ++ digits

/-- Years of other than four digits carry a sign. -/
def yearDigits (year : Int) : List Char :=
  if 0 ≤ year ∧ year ≤ 9999 then paddedDigits 4 year.toNat
  else (if year < 0 then '-' else '+') :: paddedDigits 4 year.natAbs

namespace Date

def text (date : Date) : List Char :=
  yearDigits date.year ++ '-' :: (paddedDigits 2 date.month ++ '-' :: paddedDigits 2 date.day)

end Date

namespace Instant

def fractionText (nanos : Nat) : List Char :=
  if nanos = 0 then []
  else if nanos % 1000000 = 0 then '.' :: paddedDigits 3 (nanos / 1000000)
  else if nanos % 1000 = 0 then '.' :: paddedDigits 6 (nanos / 1000)
  else '.' :: paddedDigits 9 nanos

/-- The time of day; a leap second is numbered 60. -/
def timeText (instant : Instant) : List Char :=
  let seconds := instant.secondOfDay.toNat
  let leap := if instant.inLeapSecond then 1 else 0
  paddedDigits 2 (seconds / 3600) ++ ':' :: (paddedDigits 2 (seconds / 60 % 60) ++
    ':' :: (paddedDigits 2 (seconds % 60 + leap) ++
      fractionText (instant.nanosecond - leap * nanosPerSecond)))

def render (instant : Instant) : String :=
  String.ofList (instant.date.text ++ 'T' :: (instant.timeText ++ ['Z']))

def describe (instant : Instant) : String :=
  String.ofList (instant.date.text ++ ' ' :: (instant.timeText ++ [' ', 'U', 'T', 'C']))

end Instant

namespace Instant.Reading

/-- A number of at least one and at most `width` digits, behind blanks, and what follows it. -/
def number? (width : Nat) (text : List Char) : Option (Nat × List Char) :=
  let text := trimStart text
  let digits := (text.take width).takeWhile Digit.isDecimal
  if digits.isEmpty then none else some (Digit.decimalValue digits, text.drop digits.length)

/-- A year: up to four digits, or any number of digits behind a sign. -/
def year? (text : List Char) : Option (Int × List Char) :=
  match trimStart text with
  | '-' :: rest => (signed? rest).map (fun (value, rest) => (-(value : Int), rest))
  | '+' :: rest => (signed? rest).map (fun (value, rest) => ((value : Int), rest))
  | text => (number? 4 text).map (fun (value, rest) => ((value : Int), rest))
where
  signed? (text : List Char) : Option (Nat × List Char) :=
    let digits := text.takeWhile Digit.isDecimal
    if digits.isEmpty then none else some (Digit.decimalValue digits, text.dropWhile Digit.isDecimal)

def mark? (mark : Char) (text : List Char) : Option (List Char) :=
  match trimStart text with
  | c :: rest => if c = mark then some rest else none
  | [] => none

/-- The nanoseconds behind the point, if there is one; digits past the ninth are passed over. -/
def fraction? : List Char → Option (Nat × List Char)
  | '.' :: rest =>
    let digits := rest.takeWhile Digit.isDecimal
    if digits.isEmpty then none
    else
      let kept := digits.take 9
      some (Digit.decimalValue kept * Nat.pow 10 (9 - kept.length), rest.dropWhile Digit.isDecimal)
  | text => some (0, text)

def isColonOrBlank (c : Char) : Bool := c == ':' || isBlank c

/-- Two digits, the first of them at most `greatest`. -/
def twoDigits? (greatest : Char) : List Char → Option (Nat × List Char)
  | tens :: ones :: rest =>
    if '0' ≤ tens ∧ tens ≤ greatest ∧ Digit.isDecimal ones then
      some (Digit.decimalValue [tens, ones], rest)
    else none
  | _ => none

def signedOffset? (text : List Char) : Option (Int × List Char) := do
  let (negative, rest) ← match text with
    | '+' :: rest => some (false, rest)
    | '-' :: rest | '−' :: rest => some (true, rest)
    | _ => none
  let (hours, rest) ← twoDigits? '9' rest
  let (minutes, rest) ← twoDigits? '5' (rest.dropWhile isColonOrBlank)
  let seconds : Int := hours * 3600 + minutes * 60
  return (if negative then -seconds else seconds, rest)

def offset? (text : List Char) : Option (Int × List Char) :=
  match trimStart text with
  | u :: t :: c :: rest =>
    if u.toUpper = 'U' ∧ t.toUpper = 'T' ∧ c.toUpper = 'C' then some (0, rest)
    else zulu? (u :: t :: c :: rest)
  | text => zulu? text
where
  zulu? : List Char → Option (Int × List Char)
    | 'Z' :: rest | 'z' :: rest => some (0, rest)
    | text => signedOffset? text

/-- The instant of local date and time fields; second 60 is a leap second behind second 59. -/
def instant? (date : Date) (hour minute second nanos : Nat) (offset : Int) : Option Instant := do
  guard (Date.yearIsKnown date.year ∧ date.isValid ∧ hour < 24 ∧ minute < 60 ∧ second ≤ 60)
  guard (offset.natAbs < 86400)
  let (second, nanos) := if second = 60 then (59, nanos + nanosPerSecond) else (second, nanos)
  let total := date.dayNumber * secondsPerDay + (hour * 3600 + minute * 60 + second : Nat) - offset
  (⟨total, nanos⟩ : Instant).inCalendar?

end Reading

open Reading in
def parse? (text : String) : Option Instant := do
  let (year, rest) ← year? text.toList
  let rest ← mark? '-' rest
  let (month, rest) ← number? 2 rest
  let rest ← mark? '-' rest
  let (day, rest) ← number? 2 rest
  let rest ← match rest with
    | 't' :: rest | 'T' :: rest | ' ' :: rest => some rest
    | _ => none
  let (hour, rest) ← number? 2 rest
  let rest ← mark? ':' rest
  let (minute, rest) ← number? 2 rest
  let rest ← mark? ':' rest
  let (second, rest) ← number? 2 rest
  let (nanos, rest) ← fraction? rest
  let (offset, rest) ← offset? rest
  guard (trimStart rest).isEmpty
  instant? ⟨year, month, day⟩ hour minute second nanos offset

end Instant

end TokenServer
