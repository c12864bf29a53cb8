import Footage.Error
import Footage.StreamType
import Footage.Uuid

namespace Footage

-- A SHA-1 digest, by its hexadecimal digits.
structure Sha1 where
  digits : List (Fin 16)
  length_eq : digits.length = 40
deriving DecidableEq

def Sha1.parse? (text : String) : Option Sha1 :=
  match Hex.read? text.toList with
  | some ds => if h : ds.length = 40 then some ⟨ds, h⟩ else none
  | none => none

def Sha1.text (s : Sha1) : String := String.ofList (Hex.write s.digits)

-- What can be asked for under the address of the recorder.
inductive Route
  | camera (id : Uuid)
  | recordings (id : Uuid) (stream : StreamType) (limits : Option (Int × Int))
      (split : Option Int)
  | viewMp4 (id : Uuid) (stream : StreamType) (segment : String)
  | viewM4s (id : Uuid) (stream : StreamType) (segment : String)
  | initSegment (sha1 : Sha1)
deriving DecidableEq

namespace Route

def cameraPath (id : Uuid) : String := "/api/cameras/" ++ id.text ++ "/"

-- The terms of a listing, of which each may be left out.
def terms (limits : Option (Int × Int)) (split : Option Int) : List String :=
  (match limits with
    | some (start, stop) =>
      ["startTime90k=" ++ Decimal.ofInt start, "endTime90k=" ++ Decimal.ofInt stop]
    | none => [])
  ++ (match split with
    | some split => ["split90k=" ++ Decimal.ofInt split]
    | none => [])

def query (terms : List String) : String :=
  if terms.isEmpty then "" else "?" ++ "&".intercalate terms

def path : Route → String
  | .camera id => cameraPath id
  | .recordings id stream limits split =>
    cameraPath id ++ stream.name ++ "/recordings" ++ query (terms limits split)
  | .viewMp4 id stream segment => cameraPath id ++ stream.name ++ "/view.mp4?s=" ++ segment
  | .viewM4s id stream segment => cameraPath id ++ stream.name ++ "/view.m4s?s=" ++ segment
  | .initSegment sha1 => "/api/init/" ++ sha1.text ++ ".mp4"

-- The start of a file whose video has a format with this digest.
def ofSha1 (text : String) : Except ViewError Route :=
  match Sha1.parse? text with
  | some sha1 => .ok (.initSegment sha1)
  | none => .error (.request (.notSha1 text))

end Route

end Footage
