import Footage.Zone.Basic

namespace Footage.Zone

def utc : Zone := ⟨"UTC", ⟨0, "UTC"⟩, []⟩

def gmt : Zone := ⟨"GMT", ⟨0, "GMT"⟩, []⟩

def fiveBehind : Zone := ⟨"Etc/GMT+5", ⟨-18000, "-05"⟩, []⟩

def fourteenAhead : Zone := ⟨"Etc/GMT-14", ⟨50400, "+14"⟩, []⟩

def kolkata : Zone := ⟨"Asia/Kolkata", ⟨19800, "IST"⟩, []⟩

def tokyo : Zone := ⟨"Asia/Tokyo", ⟨32400, "JST"⟩, []⟩

end Footage.Zone
