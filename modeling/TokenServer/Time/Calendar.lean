/-!
The proleptic Gregorian calendar. Days are numbered from 1 January 1970. Four hundred years always
have the same number of days, so both directions work inside one such cycle, with years that begin
in March: the leap day is then the last day of its year.
-/

namespace TokenServer

structure Date where
  year : Int
  month : Nat
  day : Nat
  deriving Repr, DecidableEq

namespace Date

def isLeapYear (year : Int) : Bool := year % 4 == 0 && (year % 100 != 0 || year % 400 == 0)

def daysInMonth (year : Int) (month : Nat) : Nat :=
  if month = 2 then if isLeapYear year then 29 else 28
  else if month = 4 ∨ month = 6 ∨ month = 9 ∨ month = 11 then 30
  else 31

def yearIsKnown (year : Int) : Bool := -262143 ≤ year && year ≤ 262142

def isValid (date : Date) : Bool :=
  1 ≤ date.month && date.month ≤ 12 && 1 ≤ date.day && date.day ≤ daysInMonth date.year date.month

/-- Days in four hundred years. -/
def cycleDays : Int := 146097

/-- Days from 1 March of year 0 to 1 January 1970. -/
def epochOffset : Int := 719468

def marchMonth (month : Nat) : Int := (month + 9) % 12

def dayNumber (date : Date) : Int :=
  let year := if date.month ≤ 2 then date.year - 1 else date.year
  let yearOfCycle := year % 400
  let dayOfYear := (153 * marchMonth date.month + 2) / 5 + date.day - 1
  let dayOfCycle := yearOfCycle * 365 + yearOfCycle / 4 - yearOfCycle / 100 + dayOfYear
  year / 400 * cycleDays + dayOfCycle - epochOffset

def ofDayNumber (number : Int) : Date :=
  let shifted := number + epochOffset
  let dayOfCycle := shifted % cycleDays
  let yearOfCycle :=
    (dayOfCycle - dayOfCycle / 1460 + dayOfCycle / 36524 - dayOfCycle / 146096) / 365
  let dayOfYear := dayOfCycle - (365 * yearOfCycle + yearOfCycle / 4 - yearOfCycle / 100)
  let month := (5 * dayOfYear + 2) / 153
  let day := dayOfYear - (153 * month + 2) / 5 + 1
  let year := shifted / cycleDays * 400 + yearOfCycle
  if month < 10 then ⟨year, (month + 3).toNat, day.toNat⟩
  else ⟨year + 1, (month - 9).toNat, day.toNat⟩

end Date

end TokenServer
