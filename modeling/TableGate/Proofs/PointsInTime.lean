import Mathlib.Tactic.SplitIfs
import TableGate.Calendar.DateTime

/-! The calendar as a count. Days are counted from the first of January of the year 1, and
microseconds from the start of that day; where an offset is known, the count in UTC is the point in
time. Each date and each time of day has its own count, so that the local time and the offset are all
there is to a point in time. -/
namespace TableGate.PointsInTime

/-- The days from the first of January of the year 1 to that of a year. -/
def daysBeforeYear (year : Nat) : Nat :=
  let past := year - 1
  365 * past + past / 4 - past / 100 + past / 400

-- Weekdays are told from the same days.
example (year : Nat) : firstWeekday year = daysBeforeYear year % 7 := rfl

/-- The days of the first months of a year. -/
def daysOfMonths (year : Nat) : Nat → Nat
  | 0 => 0
  | months + 1 => daysOfMonths year months + daysInMonth year (months + 1)

/-- The days from the first of January of the year 1 to a date. -/
def dayCount (year month day : Nat) : Nat :=
  daysBeforeYear year + (daysOfMonths year (month - 1) + (day - 1))

/-- The microseconds from the start of a day to a time of day. -/
def timeCount (hour minute second micro : Nat) : Nat :=
  1000000 * (3600 * hour + 60 * minute + second) + micro

/-- The microseconds from the start of the year 1 to a local time. -/
def localMicros (d : DateTime) : Nat :=
  microsPerDay * dayCount d.year d.month d.day + timeCount d.hour d.minute d.second d.micro

/-- The microseconds from the start of the year 1 to a point in time, both in UTC. A local time
without an offset is not known to be any point in time. -/
def instant? (d : DateTime) : Option Int := d.offset.map fun micros => localMicros d - micros

variable {a b year month day : Nat} {d e : DateTime}

/-! ### Days -/

/-- Where blocks follow each other, a number is in one of them only, and at one place of it. -/
private theorem block_unique (start size : Nat → Nat) (step : ∀ n, start n + size n ≤ start (n + 1))
    {r s : Nat} (first : r < size a) (second : s < size b) (same : start a + r = start b + s) :
    a = b ∧ r = s := by
  have grows {n m : Nat} (less : n < m) : start n + size n ≤ start m := by
    induction less with
    | refl => exact step n
    | @step m _ ih => exact Nat.le_trans ih (Nat.le_trans (Nat.le_add_right _ _) (step m))
  rcases Nat.lt_trichotomy a b with less | rfl | more
  · have := grows less
    omega
  · exact ⟨rfl, Nat.add_left_cancel same⟩
  · have := grows more
    omega

private theorem leap_iff (year : Nat) :
    isLeapYear year = true ↔ year % 4 = 0 ∧ (year % 100 ≠ 0 ∨ year % 400 = 0) := by
  simp [isLeapYear]

private theorem quotient_step (k n : Nat) :
    (n + 1) / k = n / k + if (n + 1) % k = 0 then 1 else 0 := by
  rw [Nat.succ_div]
  simp only [Nat.dvd_iff_mod_eq_zero]

private theorem year_step (past : Nat) :
    daysBeforeYear (past + 1) + daysInYear (past + 1) = daysBeforeYear (past + 1 + 1) := by
  have centuries : past / 100 ≤ past / 4 := by omega
  have hundred : (past + 1) % 400 = 0 → (past + 1) % 100 = 0 := by omega
  have four : (past + 1) % 100 = 0 → (past + 1) % 4 = 0 := by omega
  simp only [daysBeforeYear, daysInYear, leap_iff, Nat.add_sub_cancel, quotient_step]
  split_ifs <;> omega

private theorem months_of_year (year : Nat) : daysOfMonths year 12 = daysInYear year := by
  cases leap : isLeapYear year <;> simp [daysInYear, daysOfMonths, daysInMonth, leap]

private theorem months_mono (year : Nat) (less : a ≤ b) : daysOfMonths year a ≤ daysOfMonths year b := by
  induction less with
  | refl => exact Nat.le_refl _
  | step _ ih => exact Nat.le_trans ih (Nat.le_add_right _ _)

/-- A date is a day of a month of its year, and so one of its days. -/
private theorem date_places (valid : isDate year month day = true) :
    1 ≤ year ∧ 1 ≤ month ∧ 1 ≤ day ∧ day - 1 < daysInMonth year (month - 1 + 1) ∧
      daysOfMonths year (month - 1) + (day - 1) < daysInYear year := by
  simp only [isDate, Bool.and_eq_true, decide_eq_true_eq] at valid
  obtain ⟨⟨⟨⟨⟨years, -⟩, months⟩, bound⟩, days⟩, inside⟩ := valid
  have own : month - 1 + 1 = month := Nat.sub_add_cancel months
  have place : day - 1 < daysInMonth year (month - 1 + 1) := by
    rw [own]
    omega
  have whole : daysOfMonths year (month - 1 + 1) ≤ daysOfMonths year 12 := months_mono year (by omega)
  rw [months_of_year, daysOfMonths] at whole
  exact ⟨years, months, days, place, by omega⟩

/-- Different dates have different counts. -/
private theorem dayCount_injective {year' month' day' : Nat} (valid : isDate year month day = true)
    (valid' : isDate year' month' day' = true)
    (same : dayCount year month day = dayCount year' month' day') :
    year = year' ∧ month = month' ∧ day = day' := by
  obtain ⟨y, m, d, inMonth, inYear⟩ := date_places valid
  obtain ⟨y', m', d', inMonth', inYear'⟩ := date_places valid'
  obtain ⟨past, rfl⟩ := Nat.exists_eq_add_of_le' y
  obtain ⟨past', rfl⟩ := Nat.exists_eq_add_of_le' y'
  obtain ⟨rfl, inside⟩ := block_unique (fun n => daysBeforeYear (n + 1))
    (fun n => daysInYear (n + 1)) (fun n => Nat.le_of_eq (year_step n)) inYear inYear' same
  obtain ⟨months, days⟩ := block_unique (daysOfMonths (past + 1))
    (fun n => daysInMonth (past + 1) (n + 1)) (fun _ => Nat.le_refl _) inMonth inMonth' inside
  exact ⟨rfl, by omega, by omega⟩

/-! ### Points in time -/

/-- Local times with the same count agree in every part. -/
theorem parts_of_localMicros (same : localMicros d = localMicros e) :
    (d.year = e.year ∧ d.month = e.month ∧ d.day = e.day) ∧
      d.hour = e.hour ∧ d.minute = e.minute ∧ d.second = e.second ∧ d.micro = e.micro := by
  have time := d.time_valid
  have time' := e.time_valid
  simp only [isTime, Bool.and_eq_true, decide_eq_true_eq] at time time'
  simp only [localMicros, timeCount, microsPerDay] at same
  have days : dayCount d.year d.month d.day = dayCount e.year e.month e.day := by omega
  refine ⟨dayCount_injective d.date_valid e.date_valid days, ?_⟩
  omega

/-- A point in time is its local time and its offset. -/
theorem eq_of_localMicros (same : localMicros d = localMicros e) (offset : d.offset = e.offset) : d = e := by
  obtain ⟨⟨year, month, day⟩, hour, minute, second, micro⟩ := parts_of_localMicros same
  cases d
  cases e
  simp_all

end TableGate.PointsInTime
