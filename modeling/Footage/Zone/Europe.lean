import Footage.Zone.Basic

namespace Footage.Zone

-- The clocks of the British Isles, where the summer has names of its own.
def britishIsles (name summer : String) : Zone :=
  let a : ZoneForm := ⟨3600, summer⟩
  let b : ZoneForm := ⟨0, "GMT"⟩
  { name := name
    first := a
    changes :=
      alternate b a
        [57722400, 69818400, 89172000, 101268000, 120621600, 132717600, 152071200, 164167200,
         183520800, 196221600, 214970400, 227671200, 246420000, 259120800, 278474400, 290570400,
         309924000, 322020000, 341373600, 354675600, 372819600, 386125200, 404269200, 417574800,
         435718800, 449024400, 467773200, 481078800, 499222800, 512528400, 530672400, 543978000,
         562122000, 575427600, 593571600, 606877200, 625626000, 638326800, 657075600, 670381200,
         688525200, 701830800, 719974800, 733280400, 751424400, 764730000, 782874000, 796179600,
         814323600, 828234000, 846378000]
      ++ yearly 1997 [⟨3, 25, 3600, a⟩, ⟨10, 25, 3600, b⟩] }

def london : Zone := britishIsles "Europe/London" "BST"

def dublin : Zone := britishIsles "Europe/Dublin" "IST"

def berlin : Zone :=
  let a : ZoneForm := ⟨3600, "CET"⟩
  let b : ZoneForm := ⟨7200, "CEST"⟩
  { name := "Europe/Berlin"
    first := a
    changes :=
      alternate b a
        [323830800, 338950800, 354675600, 370400400, 386125200, 401850000, 417574800, 433299600,
         449024400, 465354000, 481078800, 496803600, 512528400, 528253200, 543978000, 559702800,
         575427600, 591152400, 606877200, 622602000, 638326800, 654656400, 670381200, 686106000,
         701830800, 717555600, 733280400, 749005200, 764730000, 780454800, 796179600, 811904400,
         828234000, 846378000]
      ++ yearly 1997 [⟨3, 25, 3600, b⟩, ⟨10, 25, 3600, a⟩] }

def moscow : Zone :=
  let a : ZoneForm := ⟨10800, "MSK"⟩
  let b : ZoneForm := ⟨14400, "MSD"⟩
  let c : ZoneForm := ⟨10800, "EEST"⟩
  let d : ZoneForm := ⟨7200, "EET"⟩
  let e : ZoneForm := ⟨14400, "MSK"⟩
  { name := "Europe/Moscow"
    first := a
    changes :=
      alternate b a
        [354920400, 370728000, 386456400, 402264000, 417992400, 433800000, 449614800, 465346800,
         481071600, 496796400, 512521200, 528246000, 543970800, 559695600, 575420400, 591145200,
         606870000, 622594800, 638319600, 654649200]
      ++ [(670374000, c), (686102400, d)]
      ++ alternate a b
        [695779200, 701823600, 717548400, 733273200, 748998000, 764722800, 780447600, 796172400,
         811897200, 828226800, 846370800, 859676400, 877820400, 891126000, 909270000, 922575600,
         941324400, 954025200, 972774000, 985474800, 1004223600, 1017529200, 1035673200,
         1048978800, 1067122800, 1080428400, 1099177200, 1111878000, 1130626800, 1143327600,
         1162076400, 1174777200, 1193526000, 1206831600, 1224975600, 1238281200, 1256425200,
         1269730800, 1288479600]
      ++ [(1301180400, e), (1414274400, a)] }

end Footage.Zone
