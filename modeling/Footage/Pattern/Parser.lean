import Footage.Pattern.Item

namespace Footage.Pattern

-- Numbers and how they are filled up if the pattern does not say it.
def numeric? (c : Char) : Option (Numeric × Pad) :=
  if c = 'Y' then some (.year, .zeros)
  else if c = 'C' then some (.century, .zeros)
  else if c = 'y' then some (.yearOfCentury, .zeros)
  else if c = 'G' then some (.isoYear, .zeros)
  else if c = 'g' then some (.isoYearOfCentury, .zeros)
  else if c = 'q' then some (.quarter, .none)
  else if c = 'm' then some (.month, .zeros)
  else if c = 'd' then some (.day, .zeros)
  else if c = 'e' then some (.day, .spaces)
  else if c = 'U' then some (.weekFromSunday, .zeros)
  else if c = 'W' then some (.weekFromMonday, .zeros)
  else if c = 'V' then some (.isoWeek, .zeros)
  else if c = 'w' then some (.daysFromSunday, .none)
  else if c = 'u' then some (.weekday, .none)
  else if c = 'j' then some (.ordinal, .zeros)
  else if c = 'H' then some (.hour, .zeros)
  else if c = 'k' then some (.hour, .spaces)
  else if c = 'I' then some (.hour12, .zeros)
  else if c = 'l' then some (.hour12, .spaces)
  else if c = 'M' then some (.minute, .zeros)
  else if c = 'S' then some (.second, .zeros)
  else if c = 'f' then some (.nanosecond, .zeros)
  else if c = 's' then some (.timestamp, .none)
  else none

def fixed? (c : Char) : Option Fixed :=
  if c = 'b' ∨ c = 'h' then some .shortMonth
  else if c = 'B' then some .longMonth
  else if c = 'a' then some .shortWeekday
  else if c = 'A' then some .longWeekday
  else if c = 'P' then some .lowerHalfDay
  else if c = 'p' then some .upperHalfDay
  else if c = 'Z' then some .zoneName
  else if c = 'z' then some (.offset .plain)
  else if c = '+' then some .dateTime
  else none

def zeroed (n : Numeric) : Item := .numeric n .zeros

def slashedDate : List Item :=
  [zeroed .month, .literal '/', zeroed .day, .literal '/', zeroed .yearOfCentury]

def hyphenDate : List Item :=
  [zeroed .year, .literal '-', zeroed .month, .literal '-', zeroed .day]

def namedDate : List Item :=
  [.numeric .day .spaces, .literal '-', .fixed .shortMonth, .literal '-', zeroed .year]

def hourMinute : List Item := [zeroed .hour, .literal ':', zeroed .minute]

def clock : List Item := hourMinute ++ [.literal ':', zeroed .second]

def halfDayClock : List Item :=
  [zeroed .hour12, .literal ':', zeroed .minute, .literal ':', zeroed .second, .literal ' ',
   .fixed .upperHalfDay]

def dateAndClock : List Item :=
  [.fixed .shortWeekday, .literal ' ', .fixed .shortMonth, .literal ' ', .numeric .day .spaces,
   .literal ' '] ++ clock ++ [.literal ' ', zeroed .year]

-- Letters that stand for several items, or for one character.
def several? (c : Char) : Option (List Item) :=
  if c = 'D' ∨ c = 'x' then some slashedDate
  else if c = 'F' then some hyphenDate
  else if c = 'v' then some namedDate
  else if c = 'R' then some hourMinute
  else if c = 'T' ∨ c = 'X' then some clock
  else if c = 'r' then some halfDayClock
  else if c = 'c' then some dateAndClock
  else if c = 't' then some [.literal '\t']
  else if c = 'n' then some [.literal '\n']
  else if c = '%' then some [.literal '%']
  else none

def pad? (c : Char) : Option Pad :=
  if c = '-' then some .none
  else if c = '0' then some .zeros
  else if c = '_' then some .spaces
  else none

-- What one letter after the percent sign stands for.
def letter? (c : Char) : Option (List Item) :=
  match numeric? c with
  | some (n, pad) => some [.numeric n pad]
  | none =>
    match fixed? c with
    | some f => some [.fixed f]
    | none => several? c

def places? (c : Char) : Option Nat :=
  if c = '3' then some 3
  else if c = '6' then some 6
  else if c = '9' then some 9
  else none

-- The items that take more than a letter.
def marked? : List Char → Option (Fixed × List Char)
  | '#' :: 'z' :: rest => some (.lenientOffset, rest)
  | ':' :: 'z' :: rest => some (.offset .minutes, rest)
  | ':' :: ':' :: 'z' :: rest => some (.offset .seconds, rest)
  | ':' :: ':' :: ':' :: 'z' :: rest => some (.offset .hours, rest)
  | '.' :: 'f' :: rest => some (.fraction, rest)
  | '.' :: d :: 'f' :: rest => (places? d).map fun n => (.pointed n, rest)
  | d :: 'f' :: rest => (places? d).map fun n => (.places n, rest)
  | _ => none

-- A letter, after a sign that says how a number is to be filled up. Nothing but
-- a number may have such a sign.
def lettered? : List Char → Option (List Item × List Char)
  | [] => none
  | c :: rest =>
    match pad? c with
    | none => (letter? c).map fun items => (items, rest)
    | some pad =>
      match rest with
      | [] => none
      | d :: rest => (numeric? d).map fun (n, _) => ([.numeric n pad], rest)

-- The items after a percent sign, and what follows them.
def directive? (cs : List Char) : Option (List Item × List Char) :=
  match marked? cs with
  | some (f, rest) => some ([.fixed f], rest)
  | none => lettered? cs

theorem marked?_shorter {cs rest : List Char} {f : Fixed}
    (h : marked? cs = some (f, rest)) : rest.length < cs.length := by
  unfold marked? at h
  split at h <;>
    simp only [Option.some.injEq, Option.map_eq_some_iff, Prod.mk.injEq, reduceCtorEq] at h
  all_goals grind

theorem lettered?_shorter {cs rest : List Char} {items : List Item}
    (h : lettered? cs = some (items, rest)) : rest.length < cs.length := by
  unfold lettered? at h
  split at h
  · simp at h
  · split at h
    · obtain ⟨_, -, he⟩ := Option.map_eq_some_iff.1 h
      obtain ⟨-, rfl⟩ := by simpa using he
      simp
    · split at h
      · simp at h
      · obtain ⟨_, -, he⟩ := Option.map_eq_some_iff.1 h
        obtain ⟨-, rfl⟩ := by simpa using he
        simp only [List.length_cons]
        omega

theorem directive?_shorter {cs rest : List Char} {items : List Item}
    (h : directive? cs = some (items, rest)) : rest.length < cs.length := by
  unfold directive? at h
  split at h
  · rename_i hm
    simp only [Option.some.injEq, Prod.mk.injEq] at h
    exact h.2 ▸ marked?_shorter hm
  · exact lettered?_shorter h

def parseChars? : List Char → Option Pattern
  | [] => some []
  | c :: cs =>
    if c = '%' then
      match _h : directive? cs with
      | none => none
      | some (items, rest) => (parseChars? rest).map (items ++ ·)
    else (parseChars? cs).map (.literal c :: ·)
termination_by cs => cs.length
decreasing_by
  · have := directive?_shorter _h
    simp only [List.length_cons]
    omega
  · simp

-- A pattern is plain text with directives, each after a percent sign.
def parse? (text : String) : Option Pattern := parseChars? text.toList

end Footage.Pattern
