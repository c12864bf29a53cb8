import Footage.Error
import Footage.Pattern.Parser
import Footage.Pattern.Render

namespace Footage

-- Shows times in a zone and a format.
structure TimeFormatter where
  zone : Zone
  pattern : Pattern
deriving DecidableEq

namespace TimeFormatter

-- The zone is looked up before the format is read. Which zones there are is left open.
def make (zones : Zone.Directory) (zoneName format : String) : Except ViewError TimeFormatter :=
  match zones zoneName with
  | none => .error (.request (.unknownZone zoneName))
  | some zone =>
    match Pattern.parse? format with
    | none => .error (.request (.badTimeFormat format))
    | some pattern => .ok ⟨zone, pattern⟩

def instant? (f : TimeFormatter) (i : Instant) : Option String :=
  Pattern.render? (i.inZone f.zone) f.pattern

-- Ticks before 1970 and past the last one are refused.
def tick? (f : TimeFormatter) (tick : Int) : Except ViewError (Option String) :=
  if 0 ≤ tick ∧ tick ≤ Tick.last then .ok (f.instant? (.ofTick tick))
  else .error (.request (.tickOutside tick))

def range? (f : TimeFormatter) (r : TimeRange) : Option String :=
  match f.instant? (.ofTick r.start), f.instant? (.ofTick r.stop) with
  | some start, some stop => some (start ++ " to " ++ stop)
  | _, _ => none

end TimeFormatter

namespace Duration

-- Whole seconds as `1h 02m 03s`, `4m 05s` or `7s`. Less than nothing is shown as nothing.
def label (ticks : Int) : String :=
  let total := (max ticks 0 / Tick.perSecond).toNat
  let hours := total / 3600
  let minutes := total / 60 % 60
  let seconds := total % 60
  if 0 < hours then
    Decimal.ofNat hours ++ "h " ++ Decimal.zeros 2 minutes ++ "m " ++ Decimal.zeros 2 seconds ++ "s"
  else if 0 < minutes then Decimal.ofNat minutes ++ "m " ++ Decimal.zeros 2 seconds ++ "s"
  else Decimal.ofNat seconds ++ "s"

end Duration

end Footage
