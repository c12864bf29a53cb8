import Footage.TimeRange.Json

namespace Footage

-- Days with what was recorded on them, in the order they were listed in.
structure Days where
  entries : List (DayKey × TimeRange)
deriving DecidableEq

namespace Days

def empty : Days := ⟨[]⟩

def keys (d : Days) : List DayKey := d.entries.map (·.1)

def find? (d : Days) (key : String) : Option TimeRange :=
  (d.entries.find? fun (k, _) => k.text == key).map (·.2)

-- The recorded ticks, added up day by day in a word. There is no total once a sum
-- leaves the word.
def totalPresent (d : Days) : Option Int :=
  d.entries.foldlM (fun total (_, r) => Word.add? total r.present) 0

def toJson (d : Days) : Json := .object (d.entries.map fun (k, r) => (k.text, r.toJson))

open Payload

-- One day: first its key is looked at, then what it is the key of. An error of the
-- key is placed at the list of days, all others at the day.
def readEntry (place : Path) (entry : String × Json) : Read (DayKey × TimeRange) := do
  let key ← (DayKey.parse entry.1).mapError (.malformedDay place entry.1)
  let ms ← members (place ++ [.field entry.1]) entry.2
  let r ← range (place ++ [.field entry.1]) ms TimeRange.names
  return (key, r)

def readEntries (place : Path) : Members → Read (List (DayKey × TimeRange))
  | [] => .ok []
  | entry :: rest => do
    let first ← readEntry place entry
    let others ← readEntries place rest
    return first :: others

def read (place : Path) (v : Json) : Read Days := do
  let ms ← members place v
  let entries ← readEntries place ms
  return ⟨entries⟩

end Days

end Footage
