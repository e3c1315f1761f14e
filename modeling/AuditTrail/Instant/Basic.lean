/-!
# Dates and instants

* `Date`: a date of the Gregorian calendar, carried on into all years. `Date.dayNumber` is the
  number of days since 1970-01-01, `Date.ofDayNumber` the date of such a number, and `Date.IsValid`
  says that the month exists and has that day.
* `Instant`: a second of universal time and the nanoseconds after its start. In a leap second the
  nanoseconds run on past 1 000 000 000 while the second stays the last one of its minute.
* `Instant.micros`: the microseconds since 1970, a leap second counted as the next second;
  `Instant.ofMicros?` is the instant of such a number.
* `Instant.truncated`: the instant cut to whole microseconds, toward the past.
-/

namespace AuditTrail

/-! ## The calendar -/

-- Sums start from the zero of the core library.
attribute [local instance (high)] Zero.ofOfNat0

/-- A year, a month from 1 to 12, and a day of the month from 1. -/
structure Date where
  year : Int
  month : Nat
  day : Nat
  deriving DecidableEq, Repr

namespace Date

/-- Every fourth year is a leap year, but of the full centuries only every fourth. -/
def isLeap (year : Int) : Bool := year % 4 = 0 && (year % 100 ≠ 0 || year % 400 = 0)

/-- The lengths of the months of a year. -/
def monthLengths (leap : Bool) : List Nat :=
  [31, if leap then 29 else 28, 31, 30, 31, 30, 31, 31, 30, 31, 30, 31]

/-- The number of days before the year, counted from the start of the year 0. -/
def yearStart (year : Int) : Int :=
  365 * year + (year + 3) / 4 - (year + 99) / 100 + (year + 399) / 400

/-- The day on which counting starts, in days from the start of the year 0. -/
def epoch : Int := yearStart 1970

/-- The month exists and has that day. -/
def IsValid (d : Date) : Prop :=
  1 ≤ d.month ∧ 1 ≤ d.day ∧ d.day ≤ (monthLengths (isLeap d.year)).getD (d.month - 1) 0

instance (d : Date) : Decidable d.IsValid := by unfold IsValid; infer_instance

/-- The number of days since 1970-01-01. -/
def dayNumber (d : Date) : Int :=
  yearStart d.year - epoch + ((monthLengths (isLeap d.year)).take (d.month - 1)).sum + d.day - 1

/-- The year that holds the day, counted from the start of the year 0. -/
def yearOfDay (day : Int) : Int :=
  let guess := day * 400 / 146097
  if day < yearStart guess then guess - 1
  else if day < yearStart (guess + 1) then guess
  else guess + 1

/-- The month and the day of the month, from the lengths of the months that are left. -/
def monthOfDay : List Nat → Nat → Nat → Nat × Nat
  | [], month, rest => (month, rest + 1)
  | length :: more, month, rest =>
    if rest < length then (month, rest + 1) else monthOfDay more (month + 1) (rest - length)

/-- The date of a number of days since 1970-01-01. -/
def ofDayNumber (n : Int) : Date :=
  let day := n + epoch
  let year := yearOfDay day
  let (month, dayOfMonth) := monthOfDay (monthLengths (isLeap year)) 1 (day - yearStart year).toNat
  ⟨year, month, dayOfMonth⟩

end Date

/-! ## Instants -/

/-- A point in time between the years -262143 and 262142. -/
structure Instant where
  second : Int
  nano : Nat
  first_le : -8334601228800 ≤ second
  le_last : second ≤ 8210266876799
  nano_lt : nano < 2000000000
  /-- A leap second is the last one of its minute. Dates and times as such could carry its
  nanoseconds behind any second; no text, number of microseconds or clock gives one that does. -/
  leap_last : 1000000000 ≤ nano → second % 60 = 59
  deriving DecidableEq

namespace Instant

/-- The start of 1970. -/
def epoch : Instant := ⟨0, 0, by decide, by decide, by decide, by decide⟩

instance : Inhabited Instant := ⟨epoch⟩

/-- The instant of these parts, if they are in range. -/
def ofParts? (second : Int) (nano : Nat) : Option Instant :=
  if h : -8334601228800 ≤ second ∧ second ≤ 8210266876799 ∧ nano < 2000000000 ∧
      (1000000000 ≤ nano → second % 60 = 59) then
    some ⟨second, nano, h.1, h.2.1, h.2.2.1, h.2.2.2⟩
  else none

/-- Is it inside a leap second? -/
def isLeap (t : Instant) : Bool := 1000000000 ≤ t.nano

/-- The microseconds since the start of 1970. -/
def micros (t : Instant) : Int := t.second * 1000000 + (t.nano / 1000 : Nat)

/-- The instant of a number of microseconds, if it is in range. -/
def ofMicros? (n : Int) : Option Instant :=
  ofParts? (n / 1000000) ((n % 1000000).toNat * 1000)

/-- The instant without what is finer than a microsecond. -/
def truncated (t : Instant) : Instant :=
  ⟨t.second, t.nano - t.nano % 1000, t.first_le, t.le_last,
    Nat.lt_of_le_of_lt (Nat.sub_le _ _) t.nano_lt,
    fun h => t.leap_last (Nat.le_trans h (Nat.sub_le _ _))⟩

/-- Earlier or the same: by the second, then by the nanoseconds. -/
def le (a b : Instant) : Bool :=
  a.second < b.second || (a.second = b.second && a.nano ≤ b.nano)

/-- The instant of a local date and time at an offset from universal time, in seconds. -/
def ofLocal? (date : Date) (hour minute second nano : Nat) (offset : Int) : Option Instant :=
  ofParts? (date.dayNumber * 86400 + (hour * 3600 + minute * 60 + second : Nat) - offset) nano

end Instant

end AuditTrail
