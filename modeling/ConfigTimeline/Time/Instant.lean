/-!
Points in time as the calendar writes them: a date of the proleptic Gregorian calendar and a time
of day in UTC, to the nanosecond. A second may be a leap second; it is the second before, with a
billion or more nanoseconds.
-/

namespace ConfigTimeline

/-- A year divisible by four, but by a hundred only if also by four hundred. -/
def isLeapYear (year : Int) : Bool :=
  year % 4 == 0 && (year % 100 != 0 || year % 400 == 0)

/-- The number of days of a month, for months 1 to 12. -/
def daysInMonth (year : Int) (month : Nat) : Nat :=
  if month = 2 then (if isLeapYear year then 29 else 28)
  else if month = 4 ∨ month = 6 ∨ month = 9 ∨ month = 11 then 30
  else 31

theorem daysInMonth_pos (year : Int) (month : Nat) : 1 ≤ daysInMonth year month := by
  unfold daysInMonth
  split
  · split <;> omega
  · split <;> omega

structure Date where
  year : Int
  month : Nat
  day : Nat
  month_pos : 1 ≤ month
  month_le : month ≤ 12
  day_pos : 1 ≤ day
  day_le : day ≤ daysInMonth year month
deriving DecidableEq

namespace Date

def of? (year : Int) (month day : Nat) : Option Date :=
  if h : (1 ≤ month ∧ month ≤ 12) ∧ 1 ≤ day ∧ day ≤ daysInMonth year month then
    some ⟨year, month, day, h.1.1, h.1.2, h.2.1, h.2.2⟩
  else none

def next (d : Date) : Date :=
  if h : d.day < daysInMonth d.year d.month then
    ⟨d.year, d.month, d.day + 1, d.month_pos, d.month_le, by omega, h⟩
  else if hm : d.month < 12 then
    ⟨d.year, d.month + 1, 1, by omega, hm, by omega, daysInMonth_pos _ _⟩
  else ⟨d.year + 1, 1, 1, by omega, by omega, by omega, daysInMonth_pos _ _⟩

def previous (d : Date) : Date :=
  if h : 1 < d.day then
    ⟨d.year, d.month, d.day - 1, d.month_pos, d.month_le, by omega,
      by have := d.day_le; omega⟩
  else if hm : 1 < d.month then
    ⟨d.year, d.month - 1, daysInMonth d.year (d.month - 1), by omega,
      by have := d.month_le; omega, daysInMonth_pos _ _, Nat.le_refl _⟩
  else ⟨d.year - 1, 12, 31, by omega, by omega, by omega, by simp [daysInMonth]⟩

/-- The number of days since 1 January 1970. Years are counted from March, so that the leap day is
the last of its year, in eras of four hundred years. -/
def daysSinceEpoch (d : Date) : Int :=
  let year := if d.month ≤ 2 then d.year - 1 else d.year
  let era := year / 400
  let yearOfEra := year % 400
  let shifted : Int := if d.month ≤ 2 then d.month + 9 else d.month - 3
  let dayOfYear := (153 * shifted + 2) / 5 + d.day - 1
  let dayOfEra := yearOfEra * 365 + yearOfEra / 4 - yearOfEra / 100 + dayOfYear
  era * 146097 + dayOfEra - 719468

def epoch : Date := ⟨1970, 1, 1, by decide, by decide, by decide, by decide⟩

/-- The date a number of days after 1 January 1970. -/
def ofDaysSinceEpoch (days : Int) : Date :=
  let shifted := days + 719468
  let era := shifted / 146097
  let dayOfEra := shifted % 146097
  let yearOfEra := (dayOfEra - dayOfEra / 1460 + dayOfEra / 36524 - dayOfEra / 146096) / 365
  let dayOfYear := dayOfEra - (365 * yearOfEra + yearOfEra / 4 - yearOfEra / 100)
  let month := (5 * dayOfYear + 2) / 153
  let day := dayOfYear - (153 * month + 2) / 5 + 1
  let year := yearOfEra + era * 400
  let date :=
    if month < 10 then of? year (month + 3).toNat day.toNat
    else of? (year + 1) (month - 9).toNat day.toNat
  date.getD epoch

end Date

/-- A time of day to the nanosecond. A billion nanoseconds or more mark a leap second, which can
only follow the last second of a minute. -/
structure TimeOfDay where
  hour : Nat
  minute : Nat
  second : Nat
  nano : Nat
  hour_lt : hour < 24
  minute_lt : minute < 60
  second_lt : second < 60
  nano_lt : nano < 2000000000
  leap : 1000000000 ≤ nano → second = 59
deriving DecidableEq

namespace TimeOfDay

/-- The time of day with the given fields, if there is one. -/
def of? (hour minute second nano : Nat) : Option TimeOfDay :=
  if h : ((hour < 24 ∧ minute < 60) ∧ second < 60) ∧ nano < 2000000000 ∧
      (1000000000 ≤ nano → second = 59) then
    some ⟨hour, minute, second, nano, h.1.1.1, h.1.1.2, h.1.2, h.2.1, h.2.2⟩
  else none

/-- The time of day as a clock shows it, where second 60 is the leap second. -/
def ofShown? (hour minute second nano : Nat) : Option TimeOfDay :=
  if second = 60 then of? hour minute 59 (nano + 1000000000) else of? hour minute second nano

/-- The second a clock shows: 60 in a leap second. -/
def shownSecond (t : TimeOfDay) : Nat := if 1000000000 ≤ t.nano then t.second + 1 else t.second

def shownNano (t : TimeOfDay) : Nat := t.nano % 1000000000

end TimeOfDay

/-- A point in time, in UTC. -/
structure Instant where
  date : Date
  time : TimeOfDay
deriving DecidableEq

namespace Instant

/-- The point in time at which a clock `offset` minutes ahead of UTC shows a date and a time, for
offsets of less than a day. -/
def ofLocal (date : Date) (time : TimeOfDay) (offset : Int) : Instant :=
  let minutes : Int := time.hour * 60 + time.minute - offset
  let shift (m : Nat) : TimeOfDay :=
    { time with
      hour := m / 60 % 24
      minute := m % 60
      hour_lt := Nat.mod_lt _ (by decide)
      minute_lt := Nat.mod_lt _ (by decide) }
  if minutes < 0 then ⟨date.previous, shift (minutes + 1440).toNat⟩
  else if minutes < 1440 then ⟨date, shift minutes.toNat⟩
  else ⟨date.next, shift (minutes - 1440).toNat⟩

/-- The point in time a number of seconds and nanoseconds after the Unix epoch. -/
def ofUnix (seconds : Int) (nano : Nat) : Instant :=
  let ofDay := (seconds % 86400).toNat
  ⟨.ofDaysSinceEpoch (seconds / 86400), {
    hour := ofDay / 3600 % 24
    minute := ofDay / 60 % 60
    second := ofDay % 60
    nano := nano % 1000000000
    hour_lt := Nat.mod_lt _ (by decide)
    minute_lt := Nat.mod_lt _ (by decide)
    second_lt := Nat.mod_lt _ (by decide)
    nano_lt := Nat.lt_trans (Nat.mod_lt _ (by decide)) (by decide)
    leap := fun h => absurd (Nat.mod_lt nano (by decide : 0 < 1000000000)) (by omega) }⟩

def unixMillis (t : Instant) : Int :=
  (t.date.daysSinceEpoch * 86400 + t.time.hour * 3600 + t.time.minute * 60 + t.time.second) * 1000 +
    t.time.nano / 1000000

end Instant

end ConfigTimeline
