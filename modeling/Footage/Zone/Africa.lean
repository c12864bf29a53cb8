import Footage.Zone.Basic

namespace Footage.Zone

def monrovia : Zone :=
  let a : ZoneForm := ⟨-2670, "MMT"⟩
  let b : ZoneForm := ⟨0, "GMT"⟩
  { name := "Africa/Monrovia"
    first := a
    changes :=
      [(63593070, b)] }

end Footage.Zone
