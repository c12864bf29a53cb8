import Footage.CameraView
import Footage.TimeFormatter

namespace Footage

-- A recorder with its cameras, and times as its own clock shows them.
structure Recorder where
  timeZoneName : String
  formatter : TimeFormatter
  cameras : List CameraView
  source : Json.View
deriving DecidableEq

namespace Recorder

-- The view of one camera in a document.
def cameraAt? (document : Json.View) (i : Nat) : Option Json.View :=
  document.child? ("/cameras/" ++ Decimal.ofNat i)

-- Reads the camera with a number.
def loadCamera (config : Config) (document : Json.View) (i : Nat) : Logged CameraView :=
  match cameraAt? document i with
  | none => .fail (.field [.field "cameras", .index i] .missing)
  | some source => CameraView.load config [.field "cameras", .index i] source

-- Reads cameras one after the other, from a number on, up to the first that is
-- refused.
def loadCameras (config : Config) (document : Json.View) :
    (first count : Nat) → Logged (List CameraView)
  | _, 0 => return []
  | i, count + 1 => do
    let camera ← loadCamera config document i
    let cameras ← loadCameras config document (i + 1) count
    return camera :: cameras

-- What is read of a document before its cameras.
def readHead (zones : Zone.Directory) (config : Config) (payload : Json) :
    Except ViewError (String × TimeFormatter × List Json) := do
  let ms ← Payload.members [] payload
  let timeZoneName ← Payload.string [] ms "timeZoneName"
  let formatter ← TimeFormatter.make zones timeZoneName config.timeFormat
  let cameras ← Payload.array [] ms "cameras"
  return (timeZoneName, formatter, cameras)

def ofJson (zones : Zone.Directory) (config : Config) (payload : Json) : Logged Recorder := do
  let document := Json.View.ofJson payload
  let (timeZoneName, formatter, items) ← Logged.ofExcept (readHead zones config payload)
  let cameras ← loadCameras config document 0 items.length
  return ⟨timeZoneName, formatter, cameras, document⟩

def ofText (zones : Zone.Directory) (config : Config) (text : String) : Logged Recorder :=
  match Json.read? text with
  | some payload => ofJson zones config payload
  | none => .fail .malformedText

-- The first camera with an identifier.
def camera? (r : Recorder) (id : String) : Option CameraView :=
  r.cameras.find? fun v => v.camera.id == id

def toJson (r : Recorder) : Json :=
  .object
    [("timeZoneName", .string r.timeZoneName),
     ("cameras", .array (r.cameras.map fun v => v.camera.toJson))]

end Recorder

end Footage
