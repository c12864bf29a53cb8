import Footage.Decimal

namespace Footage

-- A part of a run of recordings: the run, from its first to its last number, the
-- opening of the storage that it was made in, and ticks from its start.
structure Segment where
  startId : Int
  endId : Option Int
  openId : Int
  relStart : Option Int
  relEnd : Option Int
deriving DecidableEq, Repr

namespace Segment

def optional (n : Option Int) : String := (n.map Decimal.ofInt).getD ""

-- The form is `START_ID[-END_ID]@OPEN_ID[.[REL_START]-[REL_END]]`.
def text (s : Segment) : String :=
  Decimal.ofInt s.startId
    ++ (match s.endId with
      | some n => "-" ++ Decimal.ofInt n
      | none => "")
    ++ "@" ++ Decimal.ofInt s.openId
    ++ (if s.relStart.isSome || s.relEnd.isSome then
        "." ++ optional s.relStart ++ "-" ++ optional s.relEnd
      else "")

end Segment

end Footage
