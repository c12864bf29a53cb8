import Footage.Calendar.Week
import Footage.Pattern.Item
import Footage.Zone.Time

namespace Footage.Pattern

-- One digit, whatever it is to be filled up to.
def oneDigit (n : Nat) : String := String.ofList [Nat.digitChar n]

-- Two digits for a number below 100. What is more than nine tens is written by
-- the characters that come after the nine.
def twoDigits (pad : Pad) (n : Nat) : String :=
  let tens := if n / 10 = 0 then
      match pad with
      | .none => []
      | .zeros => ['0']
      | .spaces => [' ']
    else [Char.ofNat ('0'.toNat + n / 10)]
  String.ofList (tens ++ [Nat.digitChar (n % 10)])

-- A number with its sign, filled up to a width that the sign counts in. Zeros
-- come after the sign, and spaces in front of it.
def signed (pad : Pad) (width : Nat) (sign : List Char) (size : Nat) : String :=
  let number := Decimal.digits size
  match pad with
  | .none => String.ofList (sign ++ number)
  | .zeros => String.ofList (sign ++ List.leftpad (width - sign.length) '0' number)
  | .spaces => String.ofList (List.leftpad width ' ' (sign ++ number))

def minusOf (n : Int) : List Char := if n < 0 then ['-'] else []

def plain (pad : Pad) (width : Nat) (n : Int) : String := signed pad width (minusOf n) n.natAbs

-- Years that do not have four digits, or are before the year 0, have a sign.
def year (pad : Pad) (y : Int) : String :=
  if 0 ≤ y ∧ y ≤ 9999 then plain pad 4 y
  else signed pad 5 (if y < 0 then ['-'] else ['+']) y.natAbs

def numeric (t : ZonedTime) (pad : Pad) : Numeric → String
  | .year => year pad t.date.year
  | .century => twoDigits pad (t.date.year / 100 % 256).toNat
  | .yearOfCentury => twoDigits pad (t.date.year % 100).toNat
  | .isoYear => year pad t.date.isoWeek.1
  | .isoYearOfCentury => twoDigits pad (t.date.isoWeek.1 % 100).toNat
  | .quarter => oneDigit t.date.quarter
  | .month => twoDigits pad t.date.month
  | .day => twoDigits pad t.date.day
  | .weekFromSunday => twoDigits pad t.date.weekFromSunday
  | .weekFromMonday => twoDigits pad t.date.weekFromMonday
  | .isoWeek => twoDigits pad t.date.isoWeek.2
  | .daysFromSunday => oneDigit t.date.fromSunday
  | .weekday => oneDigit (t.date.fromMonday + 1)
  | .ordinal => plain pad 3 t.date.ordinal
  | .hour => twoDigits pad t.clock.hour
  | .hour12 => twoDigits pad (if t.clock.hour % 12 = 0 then 12 else t.clock.hour % 12)
  | .minute => twoDigits pad t.clock.minute
  | .second => twoDigits pad t.clock.secondOfMinute
  | .nanosecond => plain pad 9 t.clock.fraction
  | .timestamp => plain pad 9 t.instant.seconds

def longMonths : List String :=
  ["January", "February", "March", "April", "May", "June", "July", "August", "September",
   "October", "November", "December"]

def shortMonths : List String :=
  ["Jan", "Feb", "Mar", "Apr", "May", "Jun", "Jul", "Aug", "Sep", "Oct", "Nov", "Dec"]

def longWeekdays : List String :=
  ["Sunday", "Monday", "Tuesday", "Wednesday", "Thursday", "Friday", "Saturday"]

def shortWeekdays : List String := ["Sun", "Mon", "Tue", "Wed", "Thu", "Fri", "Sat"]

-- The first places of a fraction of a second.
def places (n nanos : Nat) : String := Decimal.zeros n (nanos / Decimal.tenTo (9 - n))

-- Minutes are rounded, a half away from zero, and hours are cut off.
def offset (style : OffsetStyle) (seconds : Int) : String :=
  let size := seconds.natAbs
  let minutes := (size + 30) / 60
  let two := Decimal.zeros 2
  (if seconds < 0 then "-" else "+") ++ match style with
    | .plain => two (minutes / 60) ++ two (minutes % 60)
    | .minutes => two (minutes / 60) ++ ":" ++ two (minutes % 60)
    | .seconds => two (size / 3600) ++ ":" ++ two (size / 60 % 60) ++ ":" ++ two (size % 60)
    | .hours => two (size / 3600)

def dateTime (t : ZonedTime) : String :=
  year .zeros t.date.year ++ "-" ++ Decimal.zeros 2 t.date.month ++ "-"
    ++ Decimal.zeros 2 t.date.day ++ "T" ++ Decimal.zeros 2 t.clock.hour ++ ":"
    ++ Decimal.zeros 2 t.clock.minute ++ ":" ++ Decimal.zeros 2 t.clock.secondOfMinute
    ++ fractionText t.clock.fraction ++ offset .minutes t.form.offset

def fixed (t : ZonedTime) : Fixed → Option String
  | .shortMonth => shortMonths[t.date.month - 1]?
  | .longMonth => longMonths[t.date.month - 1]?
  | .shortWeekday => shortWeekdays[t.date.fromSunday]?
  | .longWeekday => longWeekdays[t.date.fromSunday]?
  | .lowerHalfDay => some (if t.clock.hour < 12 then "am" else "pm")
  | .upperHalfDay => some (if t.clock.hour < 12 then "AM" else "PM")
  | .fraction => some (fractionText t.clock.fraction)
  | .pointed n => some ("." ++ places n t.clock.fraction)
  | .places n => some (places n t.clock.fraction)
  | .zoneName => some t.form.abbreviation
  | .offset style => some (offset style t.form.offset)
  | .dateTime => some (dateTime t)
  | .lenientOffset => none

def item (t : ZonedTime) : Item → Option String
  | .literal c => some (String.singleton c)
  | .numeric n pad => some (numeric t pad n)
  | .fixed f => fixed t f

-- The time in the form of a pattern. There is none if an item cannot be written.
def render? (t : ZonedTime) : Pattern → Option String
  | [] => some ""
  | i :: rest =>
    match item t i, render? t rest with
    | some a, some b => some (a ++ b)
    | _, _ => none

end Footage.Pattern
