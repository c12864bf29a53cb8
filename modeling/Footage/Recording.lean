import Footage.Json.View
import Footage.Route
import Footage.Segment
import Footage.TimeRange.Json

namespace Footage

-- A run of recordings without any gap between them. The last number is left out
-- when there is only one.
structure Recording where
  startId : Int
  endId : Option Int
  openId : Int
  firstUncommitted : Option Int
  range : TimeRange
  sampleFileBytes : Int
  videoSamples : Int
  width : Int
  height : Int
  sha1 : String
  growing : Bool
deriving DecidableEq

namespace Recording

-- A member that is left out when there is no number.
def optionalMember (name : String) : Option Int → List (String × Json)
  | some n => [(name, .int n)]
  | none => []

def toJson (r : Recording) : Json :=
  .object
    ([("startId", .int r.startId)] ++ optionalMember "endId" r.endId
      ++ [("openId", .int r.openId)] ++ optionalMember "firstUncommitted" r.firstUncommitted
      ++ r.range.members
      ++ [("sampleFileBytes", .int r.sampleFileBytes),
          ("videoSamples", .int r.videoSamples),
          ("videoSampleEntryWidth", .int r.width),
          ("videoSampleEntryHeight", .int r.height),
          ("videoSampleEntrySha1", .string r.sha1),
          ("growing", .bool r.growing)])

open Payload

-- The last number of a run is no less than its first.
def checkIds (place : Path) (startId : Int) : Option Int → Read Unit
  | some endId => if endId < startId then .error (.idsInverted place startId endId) else .ok ()
  | none => .ok ()

def read (place : Path) (v : Json) : Read Recording := do
  let ms ← members place v
  let startId ← natural place ms "startId"
  let endId ← optionalInt place ms "endId"
  checkIds place startId endId
  let start ← natural place ms "startTime90k"
  let stop ← natural place ms "endTime90k"
  let range ← (TimeRange.contiguous start stop).mapError (.range place)
  let openId ← natural place ms "openId"
  let firstUncommitted ← optionalInt place ms "firstUncommitted"
  let sampleFileBytes ← natural place ms "sampleFileBytes"
  let videoSamples ← natural place ms "videoSamples"
  let width ← natural place ms "videoSampleEntryWidth"
  let height ← natural place ms "videoSampleEntryHeight"
  let sha1 ← string place ms "videoSampleEntrySha1"
  let growing ← flag place ms "growing"
  return { startId, endId, openId, firstUncommitted, range, sampleFileBytes, videoSamples, width,
           height, sha1, growing }

-- The part of the run between two ticks from its start, of which each may be left
-- out. The part is not empty if its end is given, and stays within the run.
def segment (r : Recording) (relStart relEnd : Option Int) : Except ViewError Segment :=
  let start := relStart.getD 0
  let span := r.range.span
  if start < 0 ∨ span < start then .error (.request (.relativeStart start span))
  else match relEnd with
    | some stop =>
      if stop ≤ start ∨ span < stop then .error (.request (.relativeEnd stop start span))
      else .ok ⟨r.startId, r.endId, r.openId, relStart, relEnd⟩
    | none => .ok ⟨r.startId, r.endId, r.openId, relStart, relEnd⟩

def initSegment (r : Recording) : Except ViewError Route := Route.ofSha1 r.sha1

end Recording

-- The recordings of a stream, as they were listed.
structure RecordingList where
  recordings : List Recording
  source : Json.View
deriving DecidableEq

namespace RecordingList

open Payload

def readItems (i : Nat) : List Json → Read (List Recording)
  | [] => .ok []
  | v :: rest => do
    let first ← Recording.read [.field "recordings", .index i] v
    let others ← readItems (i + 1) rest
    return first :: others

def ofJson (payload : Json) : Except ViewError RecordingList := do
  let ms ← members [] payload
  let items ← array [] ms "recordings"
  let recordings ← readItems 0 items
  return ⟨recordings, .ofJson payload⟩

def ofText (text : String) : Except ViewError RecordingList :=
  match Json.read? text with
  | some payload => ofJson payload
  | none => .error .malformedText

def toJson (l : RecordingList) : Json :=
  .object [("recordings", .array (l.recordings.map Recording.toJson))]

end RecordingList

end Footage
