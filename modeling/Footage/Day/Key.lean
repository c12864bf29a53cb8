import Footage.Calendar.Date

namespace Footage

-- A day by which recorded stretches are listed.
structure DayKey where
  date : Date
  year_nonneg : 0 ≤ date.year
  year_lt : date.year < 10000
deriving DecidableEq

namespace DayKey

inductive Fault
  | shape
  | calendar
deriving DecidableEq, Repr

def Fault.reason : Fault → String
  | .shape => "expected YYYY-MM-DD"
  | .calendar => "not a calendar date"

-- The numbers of a text with four, two and two digits between two hyphens.
def numbers? : List Char → Option (Nat × Nat × Nat)
  | [y1, y2, y3, y4, '-', m1, m2, '-', d1, d2] =>
    match Decimal.read? [y1, y2, y3, y4], Decimal.read? [m1, m2], Decimal.read? [d1, d2] with
    | some year, some month, some day => some (year, month, day)
    | _, _, _ => none
  | _ => none

theorem year_lt_of_numbers? {cs : List Char} {year month day : Nat}
    (h : numbers? cs = some (year, month, day)) : year < 10000 := by
  unfold numbers? at h
  split at h
  · split at h
    · rename_i hy _ _
      simp only [Option.some.injEq, Prod.mk.injEq] at h
      have hl : Decimal.tenTo 4 = 10000 := by decide
      have := Decimal.read?_lt hy
      simp only [List.length_cons, List.length_nil, Nat.reduceAdd, hl] at this
      omega
    · simp at h
  · simp at h

-- The shape is looked at before the calendar.
def parse (text : String) : Except Fault DayKey :=
  match hn : numbers? text.toList with
  | none => .error .shape
  | some (year, month, day) =>
    match hd : Date.of? year month day with
    | none => .error .calendar
    | some date =>
      have hy := Date.year_of? hd
      have hl := year_lt_of_numbers? hn
      .ok ⟨date, by omega, by omega⟩

def text (k : DayKey) : String := k.date.text

-- Days are in order by year, then month, then day of the month.
def order (a b : DayKey) : Ordering :=
  (compare a.date.year b.date.year).then
    ((compare a.date.month b.date.month).then (compare a.date.day b.date.day))

instance : Ord DayKey := ⟨order⟩

def sort (keys : List DayKey) : List DayKey := keys.mergeSort fun a b => order a b != .gt

end DayKey

end Footage
