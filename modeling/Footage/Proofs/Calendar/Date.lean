import Mathlib.Data.Nat.Init
import Mathlib.Logic.Function.Iterate
import Footage.Calendar.Date

namespace Footage

namespace Calendar

theorem isLeap_iff {year : Int} :
    isLeap year = true ↔ year % 4 = 0 ∧ (year % 100 ≠ 0 ∨ year % 400 = 0) := by
  simp [isLeap]

theorem daysToYear_succ (year : Int) :
    daysToYear (year + 1) = daysToYear year + daysInYear year := by
  unfold daysInYear daysToYear
  by_cases h : isLeap year = true
  · rw [if_pos h]
    rw [isLeap_iff] at h
    omega
  · rw [if_neg h]
    rw [isLeap_iff] at h
    omega

theorem daysToYear_le {a b : Int} (h : a ≤ b) : daysToYear a ≤ daysToYear b := by
  unfold daysToYear
  omega

theorem daysBefore_le (year : Int) {a b : Nat} (ha : 1 ≤ a) (h : a ≤ b) :
    daysBefore year a ≤ daysBefore year b := by
  induction b, h using Nat.le_induction with
  | base => exact Nat.le_refl _
  | succ b hb ih =>
      rw [daysBefore_succ year (by omega)]
      omega

-- The years before one, by the periods that they fall into.
theorem daysToYear_of_parts (era century four single : Int) (hc : 0 ≤ century ∧ century ≤ 3)
    (hf : 0 ≤ four ∧ four ≤ 24) (hs : 0 ≤ single ∧ single ≤ 3) :
    daysToYear (400 * era + 100 * century + 4 * four + single + 1) =
      146097 * era + 36524 * century + 1461 * four + 365 * single := by
  unfold daysToYear
  omega

theorem daysToYear_add_passed (days : Int) :
    daysToYear (yearDay days).year + (yearDay days).passed = days := by
  simp only [yearDay]
  rw [daysToYear_of_parts _ _ _ _ (by omega) (by omega) (by omega)]
  omega

-- The lengths of the twelve months.
def monthLengths (year : Int) : List Nat :=
  [31, if year % 4 = 0 ∧ (year % 100 ≠ 0 ∨ year % 400 = 0) then 29 else 28, 31, 30, 31, 30, 31, 31,
    30, 31, 30, 31]

-- Whether a year has a day.
def Real (year : Int) (month day : Nat) : Prop :=
  1 ≤ month ∧ 1 ≤ day ∧ ∃ length, (monthLengths year)[month - 1]? = some length ∧ day ≤ length

theorem getElem?_monthLengths (year : Int) {month : Nat} (h1 : 1 ≤ month) (h12 : month ≤ 12) :
    (monthLengths year)[month - 1]? = some (daysInMonth year month) := by
  simp only [monthLengths, ← isLeap_iff]
  match month, h1, h12 with
  | 1, _, _ | 2, _, _ | 3, _, _ | 4, _, _ | 5, _, _ | 6, _, _ | 7, _, _ | 8, _, _ | 9, _, _
  | 10, _, _ | 11, _, _ | 12, _, _ => rfl

theorem real_iff {year : Int} {month day : Nat} :
    Real year month day ↔ 1 ≤ month ∧ month ≤ 12 ∧ 1 ≤ day ∧ day ≤ daysInMonth year month := by
  constructor
  · rintro ⟨hm, hd, length, hl, hle⟩
    obtain ⟨hlt, -⟩ := List.getElem?_eq_some_iff.mp hl
    have h12 : month ≤ 12 := by
      simp only [monthLengths, List.length_cons, List.length_nil] at hlt
      omega
    rw [getElem?_monthLengths year hm h12] at hl
    cases hl
    exact ⟨hm, h12, hd, hle⟩
  · rintro ⟨hm, h12, hd, hle⟩
    exact ⟨hm, hd, _, getElem?_monthLengths year hm h12, hle⟩

theorem daysInMonth_pos (year : Int) (month : Nat) : 1 ≤ daysInMonth year month := by
  unfold daysInMonth
  repeat' split
  all_goals omega

theorem YearDay.ordinal_date (y : YearDay) : y.date.ordinal = y.passed + 1 := by
  have hb := y.month_bounds
  show daysBefore y.year y.month + (y.passed - daysBefore y.year y.month + 1) = y.passed + 1
  omega

end Calendar

open Calendar

namespace Date

theorem ext {a b : Date} (hy : a.year = b.year) (hm : a.month = b.month) (hd : a.day = b.day) :
    a = b := by
  cases a
  cases b
  cases hy
  cases hm
  cases hd
  rfl

theorem dayNumber_ofDayNumber (n : Int) : (ofDayNumber n).dayNumber = n := by
  have hsum := daysToYear_add_passed (n + epochDays)
  have hordinal := (yearDay (n + epochDays)).ordinal_date
  show daysToYear (yearDay (n + epochDays)).year +
    (yearDay (n + epochDays)).date.ordinal - 1 - epochDays = n
  omega

theorem ofDayNumber_inj {m n : Int} : ofDayNumber m = ofDayNumber n ↔ m = n := by
  constructor
  · intro h
    rw [← dayNumber_ofDayNumber m, h, dayNumber_ofDayNumber]
  · exact congrArg ofDayNumber

-- Dates are in order by year, then month, then day of the month.
def Earlier (a b : Date) : Prop :=
  a.year < b.year ∨
    (a.year = b.year ∧ (a.month < b.month ∨ (a.month = b.month ∧ a.day < b.day)))

theorem earlier_or_eq_or_earlier (a b : Date) : a.Earlier b ∨ a = b ∨ b.Earlier a := by
  by_cases he : a.year = b.year ∧ a.month = b.month ∧ a.day = b.day
  · exact Or.inr (Or.inl (ext he.1 he.2.1 he.2.2))
  · unfold Earlier
    omega

theorem ordinal_bounds (d : Date) :
    daysBefore d.year d.month < d.ordinal ∧ d.ordinal ≤ daysBefore d.year (d.month + 1) := by
  have hp := d.day_pos
  have hl := d.day_le
  rw [daysBefore_succ d.year d.month_pos]
  unfold ordinal
  omega

theorem ordinal_le (d : Date) : d.ordinal ≤ daysInYear d.year := by
  have hb := d.ordinal_bounds
  have hm := d.month_le
  have hle := daysBefore_le d.year (by omega) (by omega : d.month + 1 ≤ 13)
  rw [daysBefore_thirteen] at hle
  omega

theorem dayNumber_lt_of_earlier {a b : Date} (h : a.Earlier b) : a.dayNumber < b.dayNumber := by
  have ha := a.ordinal_bounds
  have hb := b.ordinal_bounds
  unfold dayNumber
  rcases h with hy | ⟨hy, hm | ⟨hm, hd⟩⟩
  · have hle := daysToYear_le (by omega : a.year + 1 ≤ b.year)
    have hyear := a.ordinal_le
    rw [daysToYear_succ] at hle
    omega
  · have hle := daysBefore_le a.year (by omega) (by omega : a.month + 1 ≤ b.month)
    rw [← hy] at hb ⊢
    omega
  · have ho : a.ordinal < b.ordinal := by
      unfold ordinal
      rw [hy, hm]
      omega
    rw [hy]
    omega

theorem dayNumber_lt_iff {a b : Date} : a.dayNumber < b.dayNumber ↔ a.Earlier b := by
  constructor
  · intro h
    rcases earlier_or_eq_or_earlier a b with hab | rfl | hba
    · exact hab
    · omega
    · have := dayNumber_lt_of_earlier hba
      omega
  · exact dayNumber_lt_of_earlier

theorem dayNumber_injective : Function.Injective dayNumber := by
  intro a b h
  rcases earlier_or_eq_or_earlier a b with hab | he | hba
  · have := dayNumber_lt_of_earlier hab
    omega
  · exact he
  · have := dayNumber_lt_of_earlier hba
    omega

-- The day after a date. The first of a month comes after the last of the one before.
def next (d : Date) : Date :=
  if hd : d.day < daysInMonth d.year d.month then
    ⟨d.year, d.month, d.day + 1, d.month_pos, d.month_le, by omega, hd⟩
  else if hm : d.month < 12 then
    ⟨d.year, d.month + 1, 1, by omega, hm, Nat.le_add_left 1 0, daysInMonth_pos _ _⟩
  else
    ⟨d.year + 1, 1, 1, Nat.le_add_left 1 0, Nat.le_add_left 1 11, Nat.le_add_left 1 0,
      daysInMonth_pos _ _⟩

theorem dayNumber_next (d : Date) : d.next.dayNumber = d.dayNumber + 1 := by
  have hl := d.day_le
  have hdays := daysBefore_succ d.year d.month_pos
  unfold next
  split
  · simp only [dayNumber, ordinal]
    omega
  · split
    · simp only [dayNumber, ordinal]
      omega
    · -- the month is the last one, and the days before the one after it make a year
      have hmonth : d.month + 1 = 13 := by
        have hle := d.month_le
        omega
      have hyear := daysToYear_succ d.year
      have hfirst : daysBefore (d.year + 1) 1 = 0 := rfl
      rw [hmonth, daysBefore_thirteen] at hdays
      simp only [dayNumber, ordinal]
      omega

theorem dayNumber_iterate_next (d : Date) (n : Nat) : (next^[n] d).dayNumber = d.dayNumber + n := by
  induction n with
  | zero => simp
  | succ n ih =>
      rw [Function.iterate_succ_apply', dayNumber_next, ih]
      omega

-- The day with number 0.
def epoch : Date :=
  ⟨1970, 1, 1, Nat.le_add_left 1 0, Nat.le_add_left 1 11, Nat.le_add_left 1 0,
    daysInMonth_pos _ _⟩

theorem dayNumber_epoch : epoch.dayNumber = 0 := by decide

-- The date with a number is as many days after the one with number 0.
theorem ofDayNumber_eq_iterate_next (n : Nat) : ofDayNumber n = next^[n] epoch := by
  apply dayNumber_injective
  rw [dayNumber_ofDayNumber, dayNumber_iterate_next, dayNumber_epoch, Int.zero_add]

-- Every year begins after the ones before it and ends before the ones after it.
theorem dayNumber_bounds (d : Date) :
    daysToYear d.year - epochDays ≤ d.dayNumber ∧
      d.dayNumber < daysToYear (d.year + 1) - epochDays := by
  have ho := d.ordinal_bounds
  have hle := d.ordinal_le
  rw [daysToYear_succ]
  unfold dayNumber
  omega

theorem year_le_of_dayNumber_lt {d : Date} {year : Int}
    (h : d.dayNumber < daysToYear (year + 1) - epochDays) : d.year ≤ year := by
  by_contra hlt
  have hb := d.dayNumber_bounds
  have hle := daysToYear_le (by omega : year + 1 ≤ d.year)
  omega

theorem le_year_of_le_dayNumber {d : Date} {year : Int}
    (h : daysToYear year - epochDays ≤ d.dayNumber) : year ≤ d.year := by
  by_contra hlt
  have hb := d.dayNumber_bounds
  have hle := daysToYear_le (by omega : d.year + 1 ≤ year)
  omega

end Date

end Footage
