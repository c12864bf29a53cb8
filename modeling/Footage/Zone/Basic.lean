import Footage.Calendar.Date

namespace Footage

-- What a zone adds to UTC for some time, in seconds, and what it is called then.
structure ZoneForm where
  offset : Int
  abbreviation : String
deriving DecidableEq, Repr

-- The history of a place's clocks: the form they began with, and every later
-- form with the second of its start, in order.
structure Zone where
  name : String
  first : ZoneForm
  changes : List (Int × ZoneForm)
deriving DecidableEq, Repr

-- The zones that are known, by their names.
abbrev Zone.Directory := String → Option Zone

namespace Zone

-- The form that has begun by a second, if `form` is the one before all changes.
def latest (form : ZoneForm) (seconds : Int) : List (Int × ZoneForm) → ZoneForm
  | [] => form
  | (start, next) :: rest => if start ≤ seconds then latest next seconds rest else form

def formAt (z : Zone) (seconds : Int) : ZoneForm := latest z.first seconds z.changes

-- Two forms that start in turn.
def alternate (a b : ZoneForm) : List Int → List (Int × ZoneForm)
  | [] => []
  | start :: rest => (start, a) :: alternate b a rest

-- A change on the first Sunday from a day of the year on, some seconds after its
-- midnight in UTC.
structure Yearly where
  month : Nat
  day : Nat
  second : Int
  form : ZoneForm

open Calendar

def Yearly.start (r : Yearly) (year : Int) : Int :=
  let day := daysToYear year + daysBefore year r.month + r.day - 1 - epochDays
  (day + -(day + 4) % 7) * 86400 + r.second

-- The rules of all years from one on, up to 2099.
def yearly (since : Nat) (rules : List Yearly) : List (Int × ZoneForm) :=
  (List.range' since (2100 - since)).flatMap fun year => rules.map fun r => (r.start year, r.form)

end Zone

end Footage
