import Footage.Config
import Footage.Day.Days
import Footage.Json.View
import Footage.Route

namespace Footage

-- What is known of a camera.
structure Camera where
  id : String
  shortName : String
  description : String
  retainBytes : Int
  usedBytes : Int
  overall : TimeRange
  days : Days
deriving DecidableEq

namespace Camera

-- The days that reach out of the overall range.
def divergent (c : Camera) : List DayKey :=
  (c.days.entries.filter fun (_, r) => !c.overall.contains r).map (·.1)

def toJson (c : Camera) : Json :=
  .object
    [("id", .string c.id),
     ("shortName", .string c.shortName),
     ("description", .string c.description),
     ("retainBytes", .int c.retainBytes),
     ("totalSampleFileBytes", .int c.usedBytes),
     ("overallRange", c.overall.toJson),
     ("days", c.days.toJson)]

open Payload

def overallNames : RangeNames := ⟨"minStartTime90k", "maxEndTime90k", "totalDuration90k"⟩

-- A camera may be listed without any days.
def readDays (place : Path) (ms : Members) : Read Days :=
  match find? ms "days" with
  | none => .ok .empty
  | some v => Days.read (place ++ [.field "days"]) v

-- The days are not held against the overall range here.
def read (place : Path) (v : Json) : Read Camera := do
  let ms ← members place v
  let id ← string place ms "id"
  let shortName ← string place ms "shortName"
  let description ← string place ms "description"
  let retainBytes ← natural place ms "retainBytes"
  let usedBytes ← natural place ms "totalSampleFileBytes"
  let overall ← range place ms overallNames
  let days ← readDays place ms
  return { id, shortName, description, retainBytes, usedBytes, overall, days }

def uuid (c : Camera) : Except ViewError Uuid :=
  match Uuid.parse? c.id with
  | some u => .ok u
  | none => .error (.request (.notUuid c.id))

def route (c : Camera) : Except ViewError Route := c.uuid.map .camera

-- Runs are not split into parts without any length.
def checkSplit : Option Int → Except ViewError Unit
  | some split => if split ≤ 0 then .error (.request (.splitNotPositive split)) else .ok ()
  | none => .ok ()

-- A split is looked at before the identifier of the camera.
def recordings (c : Camera) (stream : StreamType) (limits : Option TimeRange)
    (split : Option Int) : Except ViewError Route := do
  checkSplit split
  let id ← c.uuid
  return .recordings id stream (limits.map fun r => (r.start, r.stop)) split

def viewMp4 (c : Camera) (stream : StreamType) (segment : String) : Except ViewError Route :=
  c.uuid.map fun id => .viewMp4 id stream segment

def viewM4s (c : Camera) (stream : StreamType) (segment : String) : Except ViewError Route :=
  c.uuid.map fun id => .viewM4s id stream segment

end Camera

end Footage
