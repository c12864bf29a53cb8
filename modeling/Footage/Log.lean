import Footage.Error

namespace Footage

namespace Log

inductive Level
  | error
  | warn
  | info
  | debug
deriving DecidableEq, Repr

def Level.name : Level → String
  | .error => "ERROR"
  | .warn => "WARN"
  | .info => "INFO"
  | .debug => "DEBUG"

-- What is noted while payloads are read.
inductive Event
  | loaded (shortName id : String) (days : Nat)
  | rejected (error : ViewError)
  | daysOutside (id : String) (days : List DayKey)
deriving DecidableEq

def Event.level : Event → Level
  | .loaded _ _ _ => .debug
  | .rejected _ => .warn
  | .daysOutside _ _ => .warn

def Event.message : Event → String
  | .loaded shortName id days =>
    "loaded camera " ++ shortName ++ " (" ++ id ++ ") with " ++ Decimal.ofNat days ++ " day(s)"
  | .rejected error => "rejected camera payload: " ++ error.message
  | .daysOutside id days =>
    "camera " ++ id ++ ": day(s) " ++ ViewError.listed days ++ " fall outside the overall range"

-- Sets up the log for a process. The first set-up stays, and without one only
-- what is at least worth an information is kept.
def setUp (current : Option Level) : Option Level := some (current.getD .info)

end Log

-- What came of reading, with what was noted on the way.
structure Logged (α : Type) where
  outcome : Except ViewError α
  log : List Log.Event

namespace Logged

variable {α β : Type}

-- Reading by itself leaves no note.
def ofExcept (r : Except ViewError α) : Logged α := ⟨r, []⟩

def fail (e : ViewError) : Logged α := ⟨.error e, []⟩

def note (event : Log.Event) : Logged Unit := ⟨.ok (), [event]⟩

-- What comes next is done only if all went well so far, and is noted behind it.
def andThen (x : Logged α) (next : α → Logged β) : Logged β :=
  match x.outcome with
  | .error e => ⟨.error e, x.log⟩
  | .ok a =>
    let y := next a
    ⟨y.outcome, x.log ++ y.log⟩

instance : Monad Logged where
  pure a := ⟨.ok a, []⟩
  bind := andThen

-- In the end the outcome itself is noted, whichever it is.
def report (x : Logged α) (event : Except ViewError α → Log.Event) : Logged α :=
  ⟨x.outcome, x.log ++ [event x.outcome]⟩

theorem outcome_bind (x : Logged α) (next : α → Logged β) :
    (x >>= next).outcome = x.outcome >>= fun a => (next a).outcome := by
  obtain ⟨_ | a, log⟩ := x <;> rfl

theorem bind_of_ok {x : Logged α} {a : α} (h : x.outcome = .ok a) (next : α → Logged β) :
    x >>= next = ⟨(next a).outcome, x.log ++ (next a).log⟩ := by
  obtain ⟨_, log⟩ := x
  cases h
  rfl

theorem bind_of_error {x : Logged α} {e : ViewError} (h : x.outcome = .error e)
    (next : α → Logged β) : x >>= next = ⟨.error e, x.log⟩ := by
  obtain ⟨_, log⟩ := x
  cases h
  rfl

theorem ofExcept_ok_bind (a : α) (next : α → Logged β) : ofExcept (.ok a) >>= next = next a := rfl

theorem ofExcept_error_bind (e : ViewError) (next : α → Logged β) :
    ofExcept (.error e) >>= next = .fail e := rfl

theorem bind_pure_eq (x : Logged α) (f : α → β) :
    (x >>= fun a => pure (f a)) = ⟨x.outcome.map f, x.log⟩ := by
  obtain ⟨_ | a, log⟩ := x
  · rfl
  · exact congrArg (Logged.mk _) (List.append_nil log)

end Logged

end Footage
