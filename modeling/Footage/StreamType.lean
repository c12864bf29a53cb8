import Footage.Json.Basic

namespace Footage

-- A camera records in full quality and in a smaller copy.
inductive StreamType
  | main
  | sub
deriving DecidableEq, Repr

namespace StreamType

def name : StreamType → String
  | .main => "main"
  | .sub => "sub"

def ofName? (name : String) : Option StreamType :=
  if name = "main" then some .main
  else if name = "sub" then some .sub
  else none

def toJson (s : StreamType) : Json := .string s.name

-- A stream is its name, or an object with the name alone, which holds nothing.
def ofJson? : Json → Option StreamType
  | .string name => ofName? name
  | .object [(name, .null)] => ofName? name
  | _ => none

end StreamType

end Footage
