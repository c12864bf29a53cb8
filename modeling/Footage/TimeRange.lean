import Footage.Decimal
import Footage.Tick

namespace Footage

-- A stretch of ticks, open at its end, of which `present` ticks were recorded.
structure TimeRange where
  start : Int
  stop : Int
  present : Int
  start_nonneg : 0 ≤ start
  start_le_stop : start ≤ stop
  stop_le_last : stop ≤ Tick.last
  present_nonneg : 0 ≤ present
  present_le_span : present ≤ stop - start
deriving DecidableEq

namespace TimeRange

inductive Mark
  | start
  | stop
  | present
deriving DecidableEq, Repr

def Mark.label : Mark → String
  | .start => "start"
  | .stop => "end"
  | .present => "present duration"

-- Why three numbers are no range.
inductive Fault
  | negative (mark : Mark) (tick : Int)
  | pastLast (stop : Int)
  | inverted (start stop : Int)
  | excess (present span : Int)
deriving DecidableEq, Repr

def Fault.message : Fault → String
  | .negative mark tick => mark.label ++ " tick " ++ Decimal.ofInt tick ++ " is negative"
  | .pastLast stop => "end tick " ++ Decimal.ofInt stop
      ++ " is past the last representable tick " ++ Decimal.ofInt Tick.last
  | .inverted start stop => "start tick " ++ Decimal.ofInt start
      ++ " is after end tick " ++ Decimal.ofInt stop
  | .excess present span => "present duration " ++ Decimal.ofInt present
      ++ " exceeds span " ++ Decimal.ofInt span

-- The rules are tried in this order, and the first broken one is reported.
def make (start stop present : Int) : Except Fault TimeRange :=
  if hs : start < 0 then .error (.negative .start start)
  else if stop < 0 then .error (.negative .stop stop)
  else if hp : present < 0 then .error (.negative .present present)
  else if hl : Tick.last < stop then .error (.pastLast stop)
  else if hss : stop < start then .error (.inverted start stop)
  else if he : stop - start < present then .error (.excess present (stop - start))
  else .ok
    { start, stop, present
      start_nonneg := by omega
      start_le_stop := by omega
      stop_le_last := by omega
      present_nonneg := by omega
      present_le_span := by omega }

-- A range without gaps. The length is taken within a word and at least 0.
def contiguous (start stop : Int) : Except Fault TimeRange :=
  make start stop (max (Word.clamp (stop - start)) 0)

def span (r : TimeRange) : Int := r.stop - r.start

def gap (r : TimeRange) : Int := r.span - r.present

def hasGaps (r : TimeRange) : Bool := r.present < r.span

def contains (a b : TimeRange) : Bool := a.start ≤ b.start && b.stop ≤ a.stop

end TimeRange

end Footage
