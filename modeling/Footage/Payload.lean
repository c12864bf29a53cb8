import Footage.Error

namespace Footage.Payload

-- A reader is told the place of what it reads, as errors are named after it.
abbrev Read (α : Type) := Except ViewError α

abbrev Members := List (String × Json)

def members (place : Path) : Json → Read Members
  | .object ms => .ok ms
  | v => .error (.notObject place v.kind)

-- A member that is null counts as absent.
def find? (ms : Members) (name : String) : Option Json :=
  match ms.lookup name with
  | some .null => none
  | found => found

def faulty {α : Type} (place : Path) (name : String) (fault : FieldFault) : Read α :=
  .error (.field (place ++ [.field name]) fault)

def required (place : Path) (ms : Members) (name : String) : Read Json :=
  match find? ms name with
  | some v => .ok v
  | none => faulty place name .missing

def string (place : Path) (ms : Members) (name : String) : Read String := do
  match ← required place ms name with
  | .string s => .ok s
  | v => faulty place name (.notString v.kind)

def array (place : Path) (ms : Members) (name : String) : Read (List Json) := do
  match ← required place ms name with
  | .array items => .ok items
  | _ => faulty place name .notArray

-- A number of a 64-bit word. A floating-point number is none, however whole it is.
def word (place : Path) (name : String) : Json → Read Int
  | .number (.integer n) =>
    if Word.Fits n then .ok n else faulty place name (.outsideWord (.integer n))
  | .number (.real x) => faulty place name (.outsideWord (.real x))
  | v => faulty place name (.notInteger v.kind)

def natural (place : Path) (ms : Members) (name : String) : Read Int := do
  let n ← word place name (← required place ms name)
  if n < 0 then faulty place name (.negative n) else .ok n

def optionalInt (place : Path) (ms : Members) (name : String) : Read (Option Int) :=
  match find? ms name with
  | none => .ok none
  | some v => (word place name v).map some

-- An absent flag is not set.
def flag (place : Path) (ms : Members) (name : String) : Read Bool :=
  match find? ms name with
  | none => .ok false
  | some (.bool b) => .ok b
  | some v => faulty place name (.notBoolean v.kind)

-- The names that a range has in an object.
structure RangeNames where
  start : String
  stop : String
  present : String

def range (place : Path) (ms : Members) (names : RangeNames) : Read TimeRange := do
  let start ← natural place ms names.start
  let stop ← natural place ms names.stop
  let present ← natural place ms names.present
  (TimeRange.make start stop present).mapError (.range place)

end Footage.Payload
