import Footage.Json.Record

namespace Footage

-- How payloads are viewed. With strict days a camera may not list a day that
-- reaches out of its overall range.
structure Config where
  strictDays : Bool
  timeFormat : String
deriving DecidableEq, Repr

namespace Config

def standard : Config := ⟨false, "%Y-%m-%d %H:%M:%S"⟩

def strictName : String := "strictDayContainment"

def formatName : String := "timeFormat"

def toJson (c : Config) : Json :=
  .object [(strictName, .bool c.strictDays), (formatName, .string c.timeFormat)]

def flag? : Json → Option Bool
  | .bool b => some b
  | _ => none

def format? : Json → Option String
  | .string s => some s
  | _ => none

-- Values that are not given are the standard ones.
def ofValues (strict format : Option Json) : Except (Json.RecordError Empty) Config :=
  match (strict.map flag?).getD (some standard.strictDays),
      (format.map format?).getD (some standard.timeFormat) with
  | some strict, some format => .ok ⟨strict, format⟩
  | _, _ => .error .mismatch

-- A configuration is an object with its two names, or an array with up to two values.
def ofJson : Json → Except (Json.RecordError Empty) Config
  | .object ms => ofValues (ms.lookup strictName) (ms.lookup formatName)
  | .array [] => .ok standard
  | .array [strict] => ofValues (some strict) none
  | .array [strict, format] => ofValues (some strict) (some format)
  | _ => .error .mismatch

def shape : Json.Record.Shape :=
  [(strictName, fun v => (flag? v).isSome), (formatName, fun v => (format? v).isSome)]

def readText (text : String) : Except (Json.RecordError Empty) Config :=
  Json.Record.readText shape ofJson text

end Config

end Footage
