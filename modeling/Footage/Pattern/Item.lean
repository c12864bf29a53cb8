namespace Footage

namespace Pattern

-- How a number is filled up to its width.
inductive Pad
  | none
  | zeros
  | spaces
deriving DecidableEq, Repr

inductive Numeric
  | year
  | century
  | yearOfCentury
  | isoYear
  | isoYearOfCentury
  | quarter
  | month
  | day
  | weekFromSunday
  | weekFromMonday
  | isoWeek
  | daysFromSunday
  | weekday
  | ordinal
  | hour
  | hour12
  | minute
  | second
  | nanosecond
  | timestamp
deriving DecidableEq, Repr

-- How finely the offset from UTC is written.
inductive OffsetStyle
  | plain
  | minutes
  | seconds
  | hours
deriving DecidableEq, Repr

inductive Fixed
  | shortMonth
  | longMonth
  | shortWeekday
  | longWeekday
  | lowerHalfDay
  | upperHalfDay
  | fraction
  | pointed (places : Nat)
  | places (places : Nat)
  | zoneName
  | offset (style : OffsetStyle)
  | dateTime
  -- An offset that can be read in several ways and so cannot be written.
  | lenientOffset
deriving DecidableEq, Repr

inductive Item
  | literal (c : Char)
  | numeric (n : Numeric) (pad : Pad)
  | fixed (f : Fixed)
deriving DecidableEq, Repr

end Pattern

-- A time format, as the items it consists of.
abbrev Pattern := List Pattern.Item

end Footage
