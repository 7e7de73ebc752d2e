import Mathlib.Data.Option.Basic
import TokenServer.Proofs.Calendar
import TokenServer.Proofs.Digit
import TokenServer.Time.Text

/-! The written form of instants. What is written for an instant in a year of four digits is read as the same instant,
to the nanosecond: numbers fill their width, and the fraction shows as many digits as are needed. -/

namespace TokenServer

theorem isDecimal_of_mem_paddedDigits {width value : Nat} {c : Char} (member : c ∈ paddedDigits width value) :
    Digit.isDecimal c = true := by
  rcases List.mem_append.mp member with zero | digit
  · rw [(List.mem_replicate.mp zero).2]
    rfl
  · exact Digit.isDecimal_of_mem_decimals digit

theorem length_paddedDigits {width value : Nat} (positive : 0 < width) (bound : value < 10 ^ width) :
    (paddedDigits width value).length = width := by
  have length := Digit.length_decimals positive bound
  simp only [paddedDigits, List.length_append, List.length_replicate]
  omega

theorem isEmpty_paddedDigits {width value : Nat} (positive : 0 < width) (bound : value < 10 ^ width) :
    (paddedDigits width value).isEmpty = false := by
  rw [List.isEmpty_eq_false_iff]
  exact List.ne_nil_of_length_pos (by rwa [length_paddedDigits positive bound])

theorem decimalValue_paddedDigits (width value : Nat) : Digit.decimalValue (paddedDigits width value) = value := by
  have zeros : ∀ count, (List.replicate count '0').foldl
      (fun value c => value * 10 + (c.toNat - '0'.toNat)) 0 = 0 := by
    intro count
    induction count with
    | zero => rfl
    | succ count ih => exact ih
  rw [paddedDigits, Digit.decimalValue, List.foldl_append, zeros]
  exact Digit.decimalValue_decimals

namespace Instant.Reading

theorem unblank_of_isDecimal {c : Char} (digit : Digit.isDecimal c = true) : isBlank c = false := by
  simp only [Digit.isDecimal, Bool.and_eq_true, decide_eq_true_eq] at digit
  have bounds : 48 ≤ c.toNat ∧ c.toNat ≤ 57 := ⟨digit.1, digit.2⟩
  simp only [isBlank]
  grind

theorem mark?_self {mark : Char} (unblank : isBlank mark = false) (rest : List Char) :
    mark? mark (mark :: rest) = some rest := by
  rw [mark?, trimStart_of_unblank (by simpa using unblank)]
  exact if_pos rfl

theorem exists_paddedDigits {width value : Nat} (positive : 0 < width) (bound : value < 10 ^ width) :
    ∃ c more, paddedDigits width value = c :: more ∧ Digit.isDecimal c = true := by
  have given := isEmpty_paddedDigits positive bound
  cases written : paddedDigits width value with
  | nil =>
    rw [written] at given
    cases given
  | cons c more => exact ⟨c, more, rfl, isDecimal_of_mem_paddedDigits (written ▸ List.mem_cons_self)⟩

theorem trimStart_paddedDigits {width value : Nat} (positive : 0 < width) (bound : value < 10 ^ width)
    (rest : List Char) : trimStart (paddedDigits width value ++ rest) = paddedDigits width value ++ rest := by
  obtain ⟨c, more, written, digit⟩ := exists_paddedDigits positive bound
  rw [written]
  exact trimStart_of_unblank (by simpa using unblank_of_isDecimal digit)

/-- A number that fills its width is read, whatever follows. -/
theorem number?_paddedDigits {width value : Nat} (positive : 0 < width) (bound : value < 10 ^ width)
    (rest : List Char) : number? width (paddedDigits width value ++ rest) = some (value, rest) := by
  have digits : ∀ c ∈ paddedDigits width value, Digit.isDecimal c = true :=
    fun _ => isDecimal_of_mem_paddedDigits
  have length := length_paddedDigits positive bound
  have given := isEmpty_paddedDigits positive bound
  have run := Digit.span_digits digits [] nofun
  have taken : (paddedDigits width value ++ rest).take width = paddedDigits width value := List.take_left' length
  rw [List.append_nil] at run
  simp only [number?, trimStart_paddedDigits positive bound rest, taken, run.1, given, decimalValue_paddedDigits,
    List.drop_left]
  rfl

theorem fraction?_digits {width value : Nat} (positive : 0 < width) (short : width ≤ 9) (bound : value < 10 ^ width)
    (rest : List Char) : fraction? ('.' :: (paddedDigits width value ++ 'Z' :: rest)) =
      some (value * 10 ^ (9 - width), 'Z' :: rest) := by
  have digits : ∀ c ∈ paddedDigits width value, Digit.isDecimal c = true :=
    fun _ => isDecimal_of_mem_paddedDigits
  have length := length_paddedDigits positive bound
  have given := isEmpty_paddedDigits positive bound
  have run := Digit.span_digits digits ('Z' :: rest) (by rintro c ⟨⟩; rfl)
  have kept : (paddedDigits width value).take 9 = paddedDigits width value := List.take_of_length_le (by omega)
  simp [fraction?, run, given, kept, length, decimalValue_paddedDigits]

/-- However many groups of digits are written, they say the same number of nanoseconds. -/
theorem fraction?_fractionText {nanos : Nat} (bound : nanos < nanosPerSecond) (rest : List Char) :
    fraction? (fractionText nanos ++ 'Z' :: rest) = some (nanos, 'Z' :: rest) := by
  rw [nanosPerSecond] at bound
  rw [fractionText]
  split
  · next none =>
    rw [none]
    rfl
  · split
    · next millis =>
      have whole : nanos / 1000000 * 10 ^ (9 - 3) = nanos := by omega
      rw [List.cons_append, fraction?_digits (by decide) (by decide) (by omega), whole]
    · split
      · next micros =>
        have whole : nanos / 1000 * 10 ^ (9 - 6) = nanos := by omega
        rw [List.cons_append, fraction?_digits (by decide) (by decide) (by omega), whole]
      · rw [List.cons_append, fraction?_digits (by decide) (by decide) (by omega), Nat.sub_self, Nat.pow_zero,
          Nat.mul_one]

theorem year?_yearDigits {year : Int} (known : 0 ≤ year ∧ year ≤ 9999) (rest : List Char) :
    year? (yearDigits year ++ rest) = some (year, rest) := by
  have bound : year.toNat < 10 ^ 4 := by omega
  have back : (year.toNat : Int) = year := Int.toNat_of_nonneg known.1
  obtain ⟨c, more, written, digit⟩ := exists_paddedDigits (show 0 < 4 by decide) bound
  have unsigned : c ≠ '-' ∧ c ≠ '+' := by
    constructor <;> rintro rfl <;> cases digit
  have read := number?_paddedDigits (by decide) bound rest
  rw [yearDigits, if_pos known, year?, trimStart_paddedDigits (by decide) bound]
  rw [written] at read ⊢
  split
  · next same => exact absurd (List.cons.inj same).1 unsigned.1
  · next same => exact absurd (List.cons.inj same).1 unsigned.2
  · rw [read]
    simp [back]

theorem instant?_fields {instant : Instant} (year : Date.yearIsKnown instant.date.year = true) :
    instant? instant.date (instant.secondOfDay.toNat / 3600) (instant.secondOfDay.toNat / 60 % 60)
      (instant.secondOfDay.toNat % 60) instant.nanosecond 0 = some instant := by
  have valid : instant.date.isValid = true := Date.isValid_ofDayNumber _
  have number : instant.date.dayNumber = instant.second / secondsPerDay := Date.dayNumber_ofDayNumber _
  have day : secondsPerDay = 86400 := rfl
  have within : instant.secondOfDay = instant.second % 86400 := rfl
  have fields : instant.secondOfDay.toNat / 3600 < 24 ∧ instant.secondOfDay.toNat / 60 % 60 < 60 ∧
      instant.secondOfDay.toNat % 60 < 60 := by omega
  have second : instant.date.dayNumber * secondsPerDay + (instant.secondOfDay.toNat / 3600 * 3600 +
      instant.secondOfDay.toNat / 60 % 60 * 60 + instant.secondOfDay.toNat % 60 : Nat) - 0 = instant.second := by
    rw [number, day]
    omega
  have same : (⟨instant.second, instant.nanosecond⟩ : Instant).inCalendar? = some instant := if_pos year
  rw [instant?, if_neg (Nat.ne_of_lt fields.2.2)]
  simp only [year, valid, fields, second, same, Nat.le_of_lt fields.2.2]
  rfl

theorem parse?_of_fields {text : String} {year : Int} {month day hour minute second nanos : Nat}
    {afterYear afterMonth afterDay afterHour afterMinute afterSecond : List Char}
    (years : year? text.toList = some (year, '-' :: afterYear))
    (months : number? 2 afterYear = some (month, '-' :: afterMonth))
    (days : number? 2 afterMonth = some (day, 'T' :: afterDay))
    (hours : number? 2 afterDay = some (hour, ':' :: afterHour))
    (minutes : number? 2 afterHour = some (minute, ':' :: afterMinute))
    (seconds : number? 2 afterMinute = some (second, afterSecond))
    (fraction : fraction? afterSecond = some (nanos, ['Z'])) :
    parse? text = instant? ⟨year, month, day⟩ hour minute second nanos 0 := by
  have hyphen : isBlank '-' = false := rfl
  have colon : isBlank ':' = false := rfl
  rw [parse?, years]
  simp only [Option.bind_eq_bind, Option.bind_some]
  -- The date comes first, so that the mark behind it decides how to go on.
  rw [mark?_self hyphen, Option.bind_some, months, Option.bind_some, mark?_self hyphen, Option.bind_some, days,
    Option.bind_some]
  simp only [hours, minutes, seconds, fraction, mark?_self colon, Option.bind_some]
  rfl

end Instant.Reading

/-- An instant that is written with four digits for its year, and that is not inside a leap second. -/
structure Instant.Writable (instant : Instant) : Prop where
  year : 0 ≤ instant.date.year ∧ instant.date.year ≤ 9999
  nanosecond : instant.nanosecond < nanosPerSecond

open Instant.Reading in
theorem Instant.parse?_render {instant : Instant} (writable : instant.Writable) :
    parse? instant.render = some instant := by
  have known : Date.yearIsKnown instant.date.year = true := by
    have year := writable.year
    simp only [Date.yearIsKnown, Bool.and_eq_true, decide_eq_true_eq]
    omega
  have date : instant.date.month < 10 ^ 2 ∧ instant.date.day < 10 ^ 2 :=
    Date.bounds_of_isValid (Date.isValid_ofDayNumber _)
  have time : instant.secondOfDay.toNat / 3600 < 10 ^ 2 ∧ instant.secondOfDay.toNat / 60 % 60 < 10 ^ 2 ∧
      instant.secondOfDay.toNat % 60 < 10 ^ 2 := by
    have within : instant.secondOfDay = instant.second % 86400 := rfl
    omega
  have steady : instant.inLeapSecond = false := decide_eq_false (Nat.not_le.mpr writable.nanosecond)
  have text : instant.render.toList = yearDigits instant.date.year ++ '-' :: (paddedDigits 2 instant.date.month ++
      '-' :: (paddedDigits 2 instant.date.day ++ 'T' :: (paddedDigits 2 (instant.secondOfDay.toNat / 3600) ++
        ':' :: (paddedDigits 2 (instant.secondOfDay.toNat / 60 % 60) ++
          ':' :: (paddedDigits 2 (instant.secondOfDay.toNat % 60) ++
            (fractionText instant.nanosecond ++ ['Z'])))))) := by
    simp [render, Date.text, timeText, steady]
  exact (parse?_of_fields (text ▸ year?_yearDigits writable.year _) (number?_paddedDigits (by decide) date.1 _)
    (number?_paddedDigits (by decide) date.2 _) (number?_paddedDigits (by decide) time.1 _)
    (number?_paddedDigits (by decide) time.2.1 _) (number?_paddedDigits (by decide) time.2.2 _)
    (fraction?_fractionText writable.nanosecond [])).trans (instant?_fields known)

end TokenServer
