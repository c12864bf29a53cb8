import Footage.Zone.Basic

namespace Footage.Zone

def kathmandu : Zone :=
  let a : ZoneForm := ⟨19800, "+0530"⟩
  let b : ZoneForm := ⟨20700, "+0545"⟩
  { name := "Asia/Kathmandu"
    first := a
    changes :=
      [(504901800, b)] }

def tehran : Zone :=
  let a : ZoneForm := ⟨12600, "+0330"⟩
  let b : ZoneForm := ⟨16200, "+0430"⟩
  let c : ZoneForm := ⟨14400, "+04"⟩
  let d : ZoneForm := ⟨18000, "+05"⟩
  { name := "Asia/Tehran"
    first := a
    changes :=
      [(227820600, b)]
      ++ alternate c d
        [246223800, 259617600, 271108800]
      ++ alternate a b
        [279576000, 296598600, 306531000, 322432200, 338499000, 673216200, 685481400, 701209800,
         717103800, 732745800, 748639800, 764281800, 780175800, 795817800, 811711800, 827353800,
         843247800, 858976200, 874870200, 890512200, 906406200, 922048200, 937942200, 953584200,
         969478200, 985206600, 1001100600, 1016742600, 1032636600, 1048278600, 1064172600,
         1079814600, 1095708600, 1111437000, 1127331000, 1206045000, 1221939000, 1237667400,
         1253561400, 1269203400, 1285097400, 1300739400, 1316633400, 1332275400, 1348169400,
         1363897800, 1379791800, 1395433800, 1411327800, 1426969800, 1442863800, 1458505800,
         1474399800, 1490128200, 1506022200, 1521664200, 1537558200, 1553200200, 1569094200,
         1584736200, 1600630200, 1616358600, 1632252600, 1647894600, 1663788600] }

end Footage.Zone
