import Footage.Camera
import Footage.Log

namespace Footage

-- A camera with the place in a document that it was read from.
structure CameraView where
  camera : Camera
  source : Json.View
deriving DecidableEq

namespace CameraView

def json (v : CameraView) : Json := v.source.json

-- Days that reach out of the overall range are refused when days are strict, and only
-- noted otherwise.
def checkContainment (strict : Bool) (place : Path) (c : Camera) : Logged Unit :=
  if c.divergent.isEmpty then pure ()
  else if strict then .fail (.daysOutside (place ++ [.field "days"]) c.divergent)
  else .note (.daysOutside c.id c.divergent)

-- Containment is looked at after all else was found right.
def read (config : Config) (place : Path) (source : Json.View) : Logged CameraView := do
  let camera ← Logged.ofExcept (Camera.read place source.json)
  checkContainment config.strictDays place camera
  return ⟨camera, source⟩

-- What is noted of an outcome.
def event : Except ViewError CameraView → Log.Event
  | .ok v => .loaded v.camera.shortName v.camera.id v.camera.days.entries.length
  | .error e => .rejected e

-- Reads the camera that stands at a place of a document.
def load (config : Config) (place : Path) (source : Json.View) : Logged CameraView :=
  (read config place source).report event

def ofJson (config : Config) (payload : Json) : Logged CameraView :=
  load config [] (.ofJson payload)

-- A text that is no JSON is refused before there is anything to note.
def ofText (config : Config) (text : String) : Logged CameraView :=
  match Json.read? text with
  | some payload => ofJson config payload
  | none => .fail .malformedText

end CameraView

end Footage
