import Footage.Calendar.Instant
import Footage.Zone.Basic

namespace Footage

-- A moment as it is shown in a zone.
structure ZonedTime where
  instant : Instant
  form : ZoneForm
deriving DecidableEq, Repr

namespace ZonedTime

def clock (t : ZonedTime) : ClockTime := ClockTime.ofInstant t.instant t.form.offset

def date (t : ZonedTime) : Date := t.clock.date

end ZonedTime

def Instant.inZone (i : Instant) (z : Zone) : ZonedTime := ⟨i, z.formAt i.seconds⟩

end Footage
