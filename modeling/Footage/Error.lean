import Footage.Day.Key
import Footage.Json.Printer
import Footage.Path
import Footage.Text.Quoted
import Footage.TimeRange

namespace Footage

-- What is wrong with one field of an object.
inductive FieldFault
  | missing
  | notString (got : Json.Kind)
  | notInteger (got : Json.Kind)
  | outsideWord (n : Number)
  | negative (n : Int)
  | notBoolean (got : Json.Kind)
  | notArray
deriving DecidableEq, Repr

def FieldFault.message : FieldFault → String
  | .missing => "is missing"
  | .notString got => "must be a string, got " ++ got.name
  | .notInteger got => "must be an integer, got " ++ got.name
  | .outsideWord n => "must be an integer in i64 range, got " ++ n.text
  | .negative n => "contains negative value " ++ Decimal.ofInt n
  | .notBoolean got => "must be a boolean, got " ++ got.name
  | .notArray => "must be an array"

-- What is wrong with a request, apart from any payload.
inductive RequestFault
  | unknownZone (name : String)
  | badTimeFormat (format : String)
  | tickOutside (tick : Int)
  | notUuid (id : String)
  | splitNotPositive (split : Int)
  | notSha1 (text : String)
  | relativeStart (start span : Int)
  | relativeEnd (stop start span : Int)
deriving DecidableEq, Repr

def RequestFault.message : RequestFault → String
  | .unknownZone name => "unknown time zone " ++ Text.quoted name
  | .badTimeFormat format => "invalid time format " ++ Text.quoted format
  | .tickOutside tick => "tick " ++ Decimal.ofInt tick ++ " is outside 0..="
      ++ Decimal.ofInt Tick.last
  | .notUuid id => "camera id " ++ Text.quoted id ++ " is not a UUID"
  | .splitNotPositive split => "split90k must be positive, got " ++ Decimal.ofInt split
  | .notSha1 text => Text.quoted text ++ " is not a 40-digit hex SHA-1"
  | .relativeStart start span => "relative start " ++ Decimal.ofInt start
      ++ " is outside 0..=" ++ Decimal.ofInt span
  | .relativeEnd stop start span => "relative end " ++ Decimal.ofInt stop
      ++ " must be after " ++ Decimal.ofInt start ++ " and at most " ++ Decimal.ofInt span

-- Why there is no view. What stands in a payload is named with its place, seen
-- from the document that was read.
inductive ViewError
  | malformedText
  | notObject (place : Path) (got : Json.Kind)
  | field (place : Path) (fault : FieldFault)
  | range (place : Path) (fault : TimeRange.Fault)
  | idsInverted (place : Path) (startId endId : Int)
  | daysOutside (place : Path) (days : List DayKey)
  | malformedDay (place : Path) (key : String) (fault : DayKey.Fault)
  | request (fault : RequestFault)
deriving DecidableEq

namespace ViewError

-- Days by their keys, such as `2024-01-01, 2024-01-02`.
def listed (days : List DayKey) : String := ", ".intercalate (days.map DayKey.text)

-- A rule about a value as a whole is named after the place of the value.
def placed (place : Path) (rule : String) : String :=
  if place.isEmpty then rule else place.text ++ ": " ++ rule

def detail : ViewError → String
  | .malformedText => "Invalid JSON"
  | .notObject place got =>
    (if place.isEmpty then "payload" else place.text) ++ " must be a JSON object, got " ++ got.name
  | .field place fault => place.text ++ " " ++ fault.message
  | .range place fault => placed place fault.message
  | .idsInverted place startId endId =>
    placed place ("endId " ++ Decimal.ofInt endId ++ " is before startId " ++ Decimal.ofInt startId)
  | .daysOutside place days =>
    placed place ("day(s) " ++ listed days ++ " fall outside the overall range")
  | .malformedDay place key fault =>
    "Malformed day key " ++ Text.quoted key
      ++ (if place.isEmpty then "" else " in " ++ place.text) ++ ": " ++ fault.reason
  | .request fault => fault.message

def isMalformedDay : ViewError → Bool
  | .malformedDay _ _ _ => true
  | _ => false

-- All errors but those of a text that is no JSON and of a day key.
def isValidation : ViewError → Bool
  | .malformedText => false
  | .malformedDay _ _ _ => false
  | _ => true

def message (e : ViewError) : String :=
  if e.isValidation then "Validation error: " ++ e.detail else e.detail

end ViewError

end Footage
