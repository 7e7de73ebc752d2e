import TokenServer.Time.Calendar

/-!
Instants of universal time, with nanoseconds. A leap second is written behind the second that it
prolongs: its nanoseconds start at 10⁹. Instants are ordered by second and then nanosecond, so a leap
second lies behind its second and before the next.
-/

namespace TokenServer

structure Instant where
  /-- Seconds since the start of 1970, leap seconds not counted. -/
  second : Int
  /-- Nanoseconds into the second, or into the leap second behind it when 10⁹ or more. -/
  nanosecond : Nat
  deriving Repr, DecidableEq

namespace Instant

def nanosPerSecond : Nat := 1000000000

def secondsPerDay : Int := 86400

def inLeapSecond (instant : Instant) : Bool := nanosPerSecond ≤ instant.nanosecond

instance : LT Instant where
  lt a b := a.second < b.second ∨ a.second = b.second ∧ a.nanosecond < b.nanosecond

instance : LE Instant where
  le a b := a.second < b.second ∨ a.second = b.second ∧ a.nanosecond ≤ b.nanosecond

instance (a b : Instant) : Decidable (a < b) := inferInstanceAs (Decidable (_ ∨ _))

instance (a b : Instant) : Decidable (a ≤ b) := inferInstanceAs (Decidable (_ ∨ _))

theorem lt_iff {a b : Instant} :
    a < b ↔ a.second < b.second ∨ a.second = b.second ∧ a.nanosecond < b.nanosecond := .rfl

theorem le_iff {a b : Instant} :
    a ≤ b ↔ a.second < b.second ∨ a.second = b.second ∧ a.nanosecond ≤ b.nanosecond := .rfl

theorem not_lt {a b : Instant} : ¬ a < b ↔ b ≤ a := by
  rw [lt_iff, le_iff]
  omega

def secondOfDay (instant : Instant) : Int := instant.second % secondsPerDay

def date (instant : Instant) : Date := .ofDayNumber (instant.second / secondsPerDay)

def inCalendar? (instant : Instant) : Option Instant :=
  if Date.yearIsKnown instant.date.year then some instant else none

/-- Moves by whole seconds. A move from inside a leap second leaves it: forwards as if from the same
fraction of the second before, backwards as if from that of the second after. -/
def plusSeconds (instant : Instant) (seconds : Int) : Instant :=
  if instant.inLeapSecond then
    if 0 < seconds then ⟨instant.second + seconds, instant.nanosecond - nanosPerSecond⟩
    else if seconds < 0 then ⟨instant.second + 1 + seconds, instant.nanosecond - nanosPerSecond⟩
    else instant
  else ⟨instant.second + seconds, instant.nanosecond⟩

def plusSeconds? (instant : Instant) (seconds : Int) : Option Instant :=
  (instant.plusSeconds seconds).inCalendar?

/-- The leap second that counts between two times of day: that of the earlier time, if it has one. -/
def leapBetween (later earlier : Instant) : Int :=
  if earlier.secondOfDay < later.secondOfDay then if earlier.inLeapSecond then 1 else 0
  else if later.secondOfDay < earlier.secondOfDay then if later.inLeapSecond then -1 else 0
  else 0

def nanosSince (later earlier : Instant) : Int :=
  (later.second - earlier.second + leapBetween later earlier) * nanosPerSecond +
    (later.nanosecond - earlier.nanosecond)

/-- The whole seconds from one instant to another, rounded toward zero. -/
def secondsSince (later earlier : Instant) : Int :=
  (later.nanosSince earlier).tdiv nanosPerSecond

def plusNanos (instant : Instant) (nanos : Int) : Instant :=
  let total := instant.nanosecond + nanos
  ⟨instant.second + total / nanosPerSecond, (total % nanosPerSecond).toNat⟩

end Instant

end TokenServer
