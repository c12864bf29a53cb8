import Footage.Json.Record
import Footage.Payload

namespace Footage.TimeRange

-- The names of a range that stands for itself, as that of a day does.
def names : Payload.RangeNames := ⟨"startTime90k", "endTime90k", "totalDuration90k"⟩

def members (r : TimeRange) : List (String × Json) :=
  [(names.start, .int r.start), (names.stop, .int r.stop), (names.present, .int r.present)]

def toJson (r : TimeRange) : Json := .object r.members

def tick? : Json → Option Int
  | .number (.integer n) => if Word.Fits n then some n else none
  | _ => none

def ofNumbers (start stop present : Option Json) : Except (Json.RecordError Fault) TimeRange :=
  match start.bind tick?, stop.bind tick?, present.bind tick? with
  | some start, some stop, some present => (make start stop present).mapError .refused
  | _, _, _ => .error .mismatch

-- A range is an object with its three names, or an array of the three numbers.
def ofJson : Json → Except (Json.RecordError Fault) TimeRange
  | .object ms => ofNumbers (ms.lookup names.start) (ms.lookup names.stop) (ms.lookup names.present)
  | .array [start, stop, present] => ofNumbers (some start) (some stop) (some present)
  | _ => .error .mismatch

def shape : Json.Record.Shape :=
  [names.start, names.stop, names.present].map fun name => (name, fun v => (tick? v).isSome)

def readText (text : String) : Except (Json.RecordError Fault) TimeRange :=
  Json.Record.readText shape ofJson text

end Footage.TimeRange
