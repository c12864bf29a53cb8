import Footage.Calendar.Date

namespace Footage.Date

open Calendar

-- Days since the last Sunday, and since the last Monday.
def fromSunday (d : Date) : Nat := ((d.dayNumber + 4) % 7).toNat

def fromMonday (d : Date) : Nat := ((d.dayNumber + 3) % 7).toNat

-- The weeks of a year are counted from its first Sunday or its first Monday, and
-- the days before that day are in week 0.
def weekFromSunday (d : Date) : Nat := (d.ordinal + 6 - d.fromSunday) / 7

def weekFromMonday (d : Date) : Nat := (d.ordinal + 6 - d.fromMonday) / 7

-- A year has a week 53 if it begins on a Thursday, or on a Wednesday as a leap year.
def isoWeeksIn (year : Int) : Nat :=
  let first := (daysToYear year - epochDays + 3) % 7
  if first = 3 ∨ (first = 2 ∧ isLeap year) then 53 else 52

-- The year and number of the week from Monday to Sunday that a date is in. A week
-- belongs to the year its Thursday is in.
def isoWeek (d : Date) : Int × Nat :=
  let week := (d.ordinal + 9 - d.fromMonday) / 7
  if week = 0 then (d.year - 1, isoWeeksIn (d.year - 1))
  else if isoWeeksIn d.year < week then (d.year + 1, 1)
  else (d.year, week)

def quarter (d : Date) : Nat := (d.month - 1) / 3 + 1

end Footage.Date
