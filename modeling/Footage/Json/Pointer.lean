import Footage.Json.Basic

namespace Footage.Json

namespace Pointer

-- The steps of a pointer, which are set apart by slashes.
def steps : List Char → List (List Char)
  | [] => [[]]
  | c :: cs =>
    if c = '/' then [] :: steps cs
    else match steps cs with
      | s :: ss => (c :: s) :: ss
      | [] => [[c]]

-- In a step `~1` stands for a slash and `~0` for a tilde. Any other tilde stays.
def unescape : List Char → List Char
  | '~' :: '1' :: cs => '/' :: unescape cs
  | '~' :: '0' :: cs => '~' :: unescape cs
  | c :: cs => c :: unescape cs
  | [] => []

-- An index is a row of digits, with a zero in front only if it is zero itself.
def index? (s : List Char) : Option Nat :=
  if s.isEmpty || (s.head? == some '0' && s.length != 1) then none else Decimal.read? s

-- Goes one step down from a value.
def step? (v : Json) (s : List Char) : Option Json :=
  match v with
  | .object members => members.lookup (String.ofList s)
  | .array items => (index? s).bind fun i => items[i]?
  | _ => none

def walk (v : Json) : List (List Char) → Option Json
  | [] => some v
  | s :: ss => (step? v (unescape s)).bind (walk · ss)

end Pointer

-- The value a pointer leads to. The empty pointer stays where it is, and every
-- other starts with a slash.
def resolve (v : Json) : List Char → Option Json
  | [] => some v
  | '/' :: cs => Pointer.walk v (Pointer.steps cs)
  | _ => none

end Footage.Json
