import Footage.Decimal

namespace Footage

namespace Calendar

-- The Gregorian rules, for all years, before their introduction as well.
def isLeap (year : Int) : Bool := year % 4 = 0 && (year % 100 ≠ 0 || year % 400 = 0)

def daysInYear (year : Int) : Nat := if isLeap year then 366 else 365

def daysInMonth (year : Int) (month : Nat) : Nat :=
  if month = 2 then (if isLeap year then 29 else 28)
  else if month = 4 ∨ month = 6 ∨ month = 9 ∨ month = 11 then 30
  else 31

-- The days of a year before the first of a month.
def daysBefore (year : Int) : Nat → Nat
  | 0 => 0
  | 1 => 0
  | month + 2 => daysBefore year (month + 1) + daysInMonth year (month + 1)

-- The days from the first of January of the year 1 to the one of another year.
def daysToYear (year : Int) : Int :=
  365 * (year - 1) + (year - 1) / 4 - (year - 1) / 100 + (year - 1) / 400

-- The days from the first of January of the year 1 to the one of 1970.
def epochDays : Int := 719162

end Calendar

open Calendar

structure Date where
  year : Int
  month : Nat
  day : Nat
  month_pos : 1 ≤ month
  month_le : month ≤ 12
  day_pos : 1 ≤ day
  day_le : day ≤ daysInMonth year month
deriving DecidableEq, Repr

namespace Date

def of? (year : Int) (month day : Nat) : Option Date :=
  if h : 1 ≤ month ∧ month ≤ 12 ∧ 1 ≤ day ∧ day ≤ daysInMonth year month then
    some ⟨year, month, day, h.1, h.2.1, h.2.2.1, h.2.2.2⟩
  else none

theorem year_of? {year : Int} {month day : Nat} {d : Date} (h : of? year month day = some d) :
    d.year = year := by
  unfold of? at h
  split at h
  · simp only [Option.some.injEq] at h
    rw [← h]
  · simp at h

-- The number of a day within its year, from 1 on.
def ordinal (d : Date) : Nat := daysBefore d.year d.month + d.day

-- The number of a day, counted from the first of January 1970.
def dayNumber (d : Date) : Int := daysToYear d.year + d.ordinal - 1 - epochDays

-- A date of the years 0 to 9999 has ten characters.
def text (d : Date) : String :=
  Decimal.zeros 4 d.year.toNat ++ "-" ++ Decimal.zeros 2 d.month ++ "-" ++ Decimal.zeros 2 d.day

end Date

namespace Calendar

-- A year and the days of it that have passed.
structure YearDay where
  year : Int
  passed : Nat
  passed_lt : passed < daysInYear year

-- The last year of four is a leap year, if it is not the last year of a century
-- that is none of the fourth ones.
theorem isLeap_of_parts (era century four single : Int) (hc : 0 ≤ century ∧ century ≤ 3)
    (hf : 0 ≤ four ∧ four ≤ 24) (hs : 0 ≤ single ∧ single ≤ 3) :
    isLeap (400 * era + 100 * century + 4 * four + single + 1) = true ↔
      single = 3 ∧ (four ≠ 24 ∨ century = 3) := by
  have h4 : (400 * era + 100 * century + 4 * four + single + 1) % 4 = (single + 1) % 4 := by omega
  have h100 : (400 * era + 100 * century + 4 * four + single + 1) % 100
      = (4 * four + single + 1) % 100 := by omega
  have h400 : (400 * era + 100 * century + 4 * four + single + 1) % 400
      = (100 * century + 4 * four + single + 1) % 400 := by omega
  simp only [isLeap, h4, h100, h400, Bool.and_eq_true, Bool.or_eq_true, decide_eq_true_eq]
  omega

-- Every 400 years have 146097 days, a century has 36524 and four years have
-- 1461, if they do not end a larger period, which may have one more.
def yearDay (days : Int) : YearDay :=
  let era := days / 146097
  let inEra := days % 146097
  let century := min (inEra / 36524) 3
  let inCentury := inEra - century * 36524
  let four := inCentury / 1461
  let inFour := inCentury % 1461
  let single := min (inFour / 365) 3
  { year := 400 * era + 100 * century + 4 * four + single + 1
    passed := (inFour - single * 365).toNat
    passed_lt := by
      have hl := isLeap_of_parts era century four single (by omega) (by omega) (by omega)
      unfold daysInYear
      split
      · omega
      · rename_i h
        rw [hl] at h
        omega }

-- The last of the first `months` months that begins no later than a day of the year.
def monthOf (year : Int) (passed : Nat) : (months : Nat) → Nat
  | 0 => 1
  | month + 1 =>
    if daysBefore year (month + 1) ≤ passed then month + 1 else monthOf year passed month

theorem daysBefore_succ (year : Int) {month : Nat} (h : 1 ≤ month) :
    daysBefore year (month + 1) = daysBefore year month + daysInMonth year month := by
  obtain ⟨m, rfl⟩ : ∃ m, month = m + 1 := ⟨month - 1, by omega⟩
  rfl

theorem daysBefore_thirteen (year : Int) : daysBefore year 13 = daysInYear year := by
  cases h : isLeap year <;> simp [daysBefore, daysInMonth, daysInYear, h]

theorem monthOf_bounds {year : Int} {passed months : Nat} (hm : 1 ≤ months)
    (h : passed < daysBefore year (months + 1)) :
    1 ≤ monthOf year passed months ∧ monthOf year passed months ≤ months ∧
      daysBefore year (monthOf year passed months) ≤ passed ∧
      passed < daysBefore year (monthOf year passed months) +
        daysInMonth year (monthOf year passed months) := by
  induction months with
  | zero => omega
  | succ month ih =>
    unfold monthOf
    split
    · rename_i hb
      rw [daysBefore_succ year (by omega)] at h
      exact ⟨by omega, by omega, hb, h⟩
    · rename_i hb
      have h1 : 1 ≤ month := by
        cases month with
        | zero => simp [daysBefore] at hb
        | succ => omega
      have := ih h1 (by omega)
      omega

namespace YearDay

def month (y : YearDay) : Nat := monthOf y.year y.passed 12

def day (y : YearDay) : Nat := y.passed - daysBefore y.year y.month + 1

theorem month_bounds (y : YearDay) :
    1 ≤ y.month ∧ y.month ≤ 12 ∧ daysBefore y.year y.month ≤ y.passed ∧
      y.passed < daysBefore y.year y.month + daysInMonth y.year y.month :=
  monthOf_bounds (by omega) (daysBefore_thirteen y.year ▸ y.passed_lt)

theorem day_bounds (y : YearDay) : 1 ≤ y.day ∧ y.day ≤ daysInMonth y.year y.month := by
  have := y.month_bounds
  unfold day
  omega

def date (y : YearDay) : Date :=
  ⟨y.year, y.month, y.day, y.month_bounds.1, y.month_bounds.2.1, y.day_bounds.1, y.day_bounds.2⟩

end YearDay

end Calendar

-- The date with a given day number.
def Date.ofDayNumber (n : Int) : Date := (yearDay (n + epochDays)).date

end Footage
