import Footage.Decimal

namespace Footage

-- Where something stands in a document, from the outside to the inside.
inductive Step
  | field (name : String)
  | index (i : Nat)
deriving DecidableEq, Repr

abbrev Path := List Step

namespace Path

-- Steps that go on from a place.
def onward : Path → String
  | [] => ""
  | .field name :: rest => "." ++ name ++ onward rest
  | .index i :: rest => "[" ++ Decimal.ofNat i ++ "]" ++ onward rest

-- The place as it is named in messages, such as `cameras[2].days`.
def text : Path → String
  | .field name :: rest => name ++ onward rest
  | path => onward path

end Path

end Footage
