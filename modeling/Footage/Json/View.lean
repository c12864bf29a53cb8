import Footage.Json.Pointer

namespace Footage.Json

-- A place in a document, kept as a pointer from its root.
structure View where
  root : Json
  pointer : String
deriving DecidableEq

namespace View

def ofJson (root : Json) : View := ⟨root, ""⟩

-- The value at the place.
def json (v : View) : Json := (v.root.resolve v.pointer.toList).getD .null

-- The place reached by a pointer that is put after the one of this place. There
-- is such a view only if a value stands there.
def child? (v : View) (pointer : String) : Option View :=
  let pointer := v.pointer ++ pointer
  if (v.root.resolve pointer.toList).isSome then some ⟨v.root, pointer⟩ else none

end View

end Footage.Json
