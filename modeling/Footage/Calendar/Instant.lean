import Footage.Calendar.Date
import Footage.Tick

namespace Footage

-- A moment in seconds from the start of 1970 in UTC and nanoseconds from there
-- on. In a leap second the nanoseconds go on past the second.
structure Instant where
  seconds : Int
  nanos : Nat
deriving DecidableEq, Repr

namespace Instant

def epoch : Instant := ⟨0, 0⟩

-- The first and the last second that the calendar has a date for.
def firstSecond : Int := -8334601228800

def lastSecond : Int := 8210266876799

-- Only the last second of a minute can be a leap second.
def ofUnix? (seconds : Int) (nanos : Nat) : Option Instant :=
  if firstSecond ≤ seconds ∧ seconds ≤ lastSecond ∧
      (nanos < 1000000000 ∨ (nanos < 2000000000 ∧ seconds % 60 = 59)) then
    some ⟨seconds, nanos⟩
  else none

def ofTick (tick : Int) : Instant := (ofUnix? (Tick.seconds tick) (Tick.nanos tick)).getD epoch

-- All nanoseconds since the start of 1970.
def total (i : Instant) : Int := i.seconds * 1000000000 + i.nanos

end Instant

-- What clocks and calendars show.
structure ClockTime where
  date : Date
  second : Nat
  nanos : Nat
deriving DecidableEq, Repr

namespace ClockTime

def secondsPerDay : Int := 86400

-- The clock of a place that is ahead of UTC by an offset in seconds.
def ofInstant (i : Instant) (offset : Int) : ClockTime where
  date := Date.ofDayNumber ((i.seconds + offset) / secondsPerDay)
  second := ((i.seconds + offset) % secondsPerDay).toNat
  nanos := i.nanos

def hour (t : ClockTime) : Nat := t.second / 3600

def minute (t : ClockTime) : Nat := t.second / 60 % 60

-- The seconds of a minute go up to 60, the leap second.
def secondOfMinute (t : ClockTime) : Nat := t.second % 60 + t.nanos / 1000000000

def fraction (t : ClockTime) : Nat := t.nanos % 1000000000

end ClockTime

-- The fewest of three, six or nine places that are exact, and none for a zero.
def fractionText (nanos : Nat) : String :=
  if nanos = 0 then ""
  else if nanos % 1000000 = 0 then "." ++ Decimal.zeros 3 (nanos / 1000000)
  else if nanos % 1000 = 0 then "." ++ Decimal.zeros 6 (nanos / 1000)
  else "." ++ Decimal.zeros 9 nanos

-- A moment of the years 0 to 9999 in UTC.
def Instant.text (i : Instant) : String :=
  let t := ClockTime.ofInstant i 0
  t.date.text ++ "T" ++ Decimal.zeros 2 t.hour ++ ":" ++ Decimal.zeros 2 t.minute ++ ":"
    ++ Decimal.zeros 2 t.secondOfMinute ++ fractionText t.fraction ++ "+00:00"

end Footage
