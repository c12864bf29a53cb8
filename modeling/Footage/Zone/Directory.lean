import Footage.Zone.Fixed
import Footage.Zone.America
import Footage.Zone.Europe
import Footage.Zone.Asia
import Footage.Zone.Pacific
import Footage.Zone.Africa

namespace Footage.Zone

-- Some zones of all kinds: with and without changes, on both sides of UTC, and off it by
-- parts of an hour.
def samples : List Zone :=
  [utc, gmt, fiveBehind, fourteenAhead, newYork, pacific, losAngeles, stJohns, saoPaulo, london,
   berlin, dublin, moscow, monrovia, kolkata, kathmandu, tokyo, lordHowe, sydney, apia, chatham,
   tehran, kiritimati]

-- A directory of them. Names are told apart by case.
def Directory.samples : Directory := fun name => Zone.samples.find? fun z => z.name == name

end Footage.Zone
