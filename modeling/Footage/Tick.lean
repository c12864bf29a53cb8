import Footage.Word

namespace Footage.Tick

-- Ticks count the ninety-thousandths of a second since the start of 1970.
def perSecond : Int := 90000

-- The last tick of the year 9999.
def last : Int := 253402300800 * perSecond - 1

-- Whole seconds up to a tick, and the nanoseconds from there on, cut off.
def seconds (tick : Int) : Int := tick / perSecond

def nanos (tick : Int) : Nat := ((tick % perSecond) * 1000000000 / perSecond).toNat

end Footage.Tick

namespace Footage

-- A length of time in nanoseconds, of either sign.
structure Duration where
  nanos : Int
deriving DecidableEq, Repr

namespace Duration

-- Seconds and what is left are taken over apart, both cut off toward zero.
def ofTicks (ticks : Int) : Duration :=
  ⟨ticks.tdiv Tick.perSecond * 1000000000
    + (ticks.tmod Tick.perSecond * 1000000000).tdiv Tick.perSecond⟩

def seconds (d : Duration) : Int := d.nanos.tdiv 1000000000

def subsecond (d : Duration) : Int := d.nanos.tmod 1000000000

end Duration

end Footage
