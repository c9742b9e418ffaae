/-!
# Timestamps

A point in time, given by its calendar date and its time of day in UTC, to the nanosecond.  The
fields of a timestamp are always valid: the day exists in the proleptic Gregorian calendar, the
year lies in the supported range, and the second is at most 60, which stands for a leap second.
-/

namespace Psychometrics

/-! ### The calendar -/

/-- The fields of a date and a time of day, valid or not. -/
structure Timestamp.Fields where
  year : Int
  month : Nat
  day : Nat
  hour : Nat
  minute : Nat
  second : Nat
  nanos : Nat
  deriving DecidableEq

namespace Timestamp

/-- Leap years of the Gregorian calendar. -/
def isLeapYear (year : Int) : Bool :=
  year % 4 == 0 && (year % 100 != 0 || year % 400 == 0)

/-- The number of days of a month. -/
def daysIn (year : Int) (month : Nat) : Nat :=
  if month == 2 then (if isLeapYear year then 29 else 28)
  else if month == 4 || month == 6 || month == 9 || month == 11 then 30
  else 31

namespace Fields

/-- The fields name an existing day in a supported year, and a time of that day. -/
def isValid (f : Fields) : Bool :=
  -262143 ≤ f.year && f.year ≤ 262142 && 1 ≤ f.month && f.month ≤ 12 && 1 ≤ f.day &&
    f.day ≤ daysIn f.year f.month && f.hour < 24 && f.minute < 60 && f.second ≤ 60 &&
    f.nanos < 1000000000

/-- The same time on the day before. -/
def dayBefore (f : Fields) : Fields :=
  if 1 < f.day then { f with day := f.day - 1 }
  else if 1 < f.month then { f with month := f.month - 1, day := daysIn f.year (f.month - 1) }
  else { f with year := f.year - 1, month := 12, day := 31 }

/-- The same time on the day after. -/
def dayAfter (f : Fields) : Fields :=
  if f.day < daysIn f.year f.month then { f with day := f.day + 1 }
  else if f.month < 12 then { f with month := f.month + 1, day := 1 }
  else { f with year := f.year + 1, month := 1, day := 1 }

/-- Sets the time of day to a number of minutes after midnight, keeping the seconds. -/
def atMinute (f : Fields) (minutes : Nat) : Fields :=
  { f with hour := minutes / 60, minute := minutes % 60 }

/-- The time in UTC of a local time that is ahead of it by `offset` minutes, less than a day in
either direction. -/
def toUtc (f : Fields) (offset : Int) : Fields :=
  let minutes : Int := 60 * f.hour + f.minute - offset
  if minutes < 0 then f.dayBefore.atMinute (minutes + 1440).toNat
  else if minutes < 1440 then f.atMinute minutes.toNat
  else f.dayAfter.atMinute (minutes - 1440).toNat

/-- A time without offset is already in UTC. -/
theorem toUtc_zero {f : Fields} (h : f.isValid = true) : f.toUtc 0 = f := by
  simp only [isValid, Bool.and_eq_true, decide_eq_true_eq] at h
  obtain ⟨⟨⟨⟨-, hh⟩, hm⟩, -⟩, -⟩ := h
  have h₁ : ¬ (60 * (f.hour : Int) + f.minute - 0 < 0) := by omega
  have h₂ : 60 * (f.hour : Int) + f.minute - 0 < 1440 := by omega
  have h₃ : (60 * (f.hour : Int) + f.minute - 0).toNat = 60 * f.hour + f.minute := by omega
  have h₄ : (60 * f.hour + f.minute) / 60 = f.hour := by omega
  have h₅ : (60 * f.hour + f.minute) % 60 = f.minute := by omega
  simp only [toUtc, if_neg h₁, if_pos h₂, atMinute, h₃, h₄, h₅]

end Fields

end Timestamp

/-! ### Timestamps -/

/-- A point in time, by its fields in UTC. -/
structure Timestamp where
  fields : Timestamp.Fields
  valid : fields.isValid = true
  deriving DecidableEq

end Psychometrics
