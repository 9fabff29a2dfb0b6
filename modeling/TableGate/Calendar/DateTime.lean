import TableGate.Text.Basic

/-! Points in time of the Gregorian calendar, with an optional offset from UTC. Every value
is a real date: the bounds are part of the type. -/

namespace TableGate

/-- Years divisible by four are leap years, except full centuries not divisible by four
hundred. -/
def isLeapYear (year : Nat) : Bool := year % 4 == 0 && (year % 100 != 0 || year % 400 == 0)

/-- The number of days of a month. -/
def daysInMonth (year month : Nat) : Nat :=
  if month = 2 then (if isLeapYear year then 29 else 28)
  else if month = 4 ∨ month = 6 ∨ month = 9 ∨ month = 11 then 30
  else 31

/-- The number of days of a year. -/
def daysInYear (year : Nat) : Nat := if isLeapYear year then 366 else 365

/-- A day in the years 1 to 9999. -/
def isDate (year month day : Nat) : Bool :=
  1 ≤ year && year ≤ 9999 && 1 ≤ month && month ≤ 12 && 1 ≤ day && day ≤ daysInMonth year month

/-- A time of day. -/
def isTime (hour minute second micro : Nat) : Bool :=
  hour < 24 && minute < 60 && second < 60 && micro < 1000000

/-- The microseconds of a day. -/
def microsPerDay : Nat := 86400000000

/-- An offset of less than a day, in microseconds east of UTC. -/
def isOffset (offset : Option Int) : Bool :=
  match offset with
  | some micros => micros.natAbs < microsPerDay
  | none => true

/-- A date and a time of day; `offset` counts microseconds east of UTC and is missing in
local times. -/
structure DateTime where
  year : Nat
  month : Nat
  day : Nat
  hour : Nat
  minute : Nat
  second : Nat
  micro : Nat
  offset : Option Int
  date_valid : isDate year month day = true
  time_valid : isTime hour minute second micro = true
  offset_valid : isOffset offset = true
  deriving DecidableEq, Repr

namespace DateTime

/-- The point in time with these parts, if they are in range. -/
def ofParts? (year month day hour minute second micro : Nat) (offset : Option Int) :
    Option DateTime :=
  if date : isDate year month day = true then
    if time : isTime hour minute second micro = true then
      if off : isOffset offset = true then
        some ⟨year, month, day, hour, minute, second, micro, offset, date, time, off⟩
      else none
    else none
  else none

/-- A point in time with its microseconds cut to whole milliseconds. -/
def toMillis (d : DateTime) : DateTime :=
  { d with
    micro := d.micro / 1000 * 1000
    time_valid := by
      have := d.time_valid
      simp only [isTime, Bool.and_eq_true, decide_eq_true_eq] at this ⊢
      omega }

/-- The parts of a point in time, read again, give it back. -/
theorem ofParts?_self (d : DateTime) :
    ofParts? d.year d.month d.day d.hour d.minute d.second d.micro d.offset = some d := by
  simp [ofParts?, d.date_valid, d.time_valid, d.offset_valid]

end DateTime

/-- The day of the week of the first of January, counted from Monday as zero. -/
def firstWeekday (year : Nat) : Nat :=
  let past := year - 1
  (365 * past + past / 4 - past / 100 + past / 400) % 7

/-- A year has 53 weeks if it starts on a Thursday, or on a Wednesday in a leap year. -/
def weeksInYear (year : Nat) : Nat :=
  if firstWeekday year = 3 ∨ (firstWeekday year = 2 ∧ isLeapYear year) then 53 else 52

/-- The month and day of the day of a year that `index` days precede, from a month on. -/
def monthDay (year : Nat) : Nat → Nat → Nat → Nat × Nat
  | 0, month, index => (month, index + 1)
  | months + 1, month, index =>
    if index < daysInMonth year month then (month, index + 1)
    else monthDay year months (month + 1) (index - daysInMonth year month)

/-- The calendar date of a day of a week, with weeks counted from the one that holds the
first Thursday of the year. -/
def dateOfWeek? (year week day : Nat) : Option (Nat × Nat × Nat) :=
  if 1 ≤ year ∧ year ≤ 9999 ∧ 1 ≤ week ∧ week ≤ weeksInYear year ∧ 1 ≤ day ∧ day ≤ 7 then
    let first := firstWeekday year
    let monday : Int := if first ≤ 3 then -(first : Int) else 7 - first
    let index : Int := monday + 7 * (week - 1) + (day - 1)
    if index < 0 then
      let (month, day) := monthDay (year - 1) 11 1 (index + daysInYear (year - 1)).toNat
      some (year - 1, month, day)
    else if index < daysInYear year then
      let (month, day) := monthDay year 11 1 index.toNat
      some (year, month, day)
    else
      let (month, day) := monthDay (year + 1) 11 1 (index - daysInYear year).toNat
      some (year + 1, month, day)
  else none

end TableGate
