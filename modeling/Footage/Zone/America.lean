import Footage.Zone.Basic

namespace Footage.Zone

def newYork : Zone :=
  let a : ZoneForm := ⟨-18000, "EST"⟩
  let b : ZoneForm := ⟨-14400, "EDT"⟩
  { name := "America/New_York"
    first := a
    changes :=
      alternate b a
        [9961200, 25682400, 41410800, 57736800, 73465200, 89186400, 104914800, 120636000,
         126687600, 152085600, 162370800, 183535200, 199263600, 215589600, 230713200, 247039200,
         262767600, 278488800, 294217200, 309938400, 325666800, 341388000, 357116400, 372837600,
         388566000, 404892000, 420015600, 436341600, 452070000, 467791200, 483519600, 499240800,
         514969200, 530690400, 544604400, 562140000, 576054000, 594194400, 607503600, 625644000,
         638953200, 657093600, 671007600, 688543200, 702457200, 719992800, 733906800, 752047200,
         765356400, 783496800, 796806000, 814946400, 828860400, 846396000, 860310000, 877845600,
         891759600, 909295200, 923209200, 941349600, 954658800, 972799200, 986108400, 1004248800,
         1018162800, 1035698400, 1049612400, 1067148000, 1081062000, 1099202400, 1112511600,
         1130652000, 1143961200, 1162101600, 1173596400, 1194156000]
      ++ yearly 2008 [⟨3, 8, 25200, b⟩, ⟨11, 1, 21600, a⟩] }

def pacificCoast (name : String) : Zone :=
  let a : ZoneForm := ⟨-28800, "PST"⟩
  let b : ZoneForm := ⟨-25200, "PDT"⟩
  { name := name
    first := a
    changes :=
      alternate b a
        [9972000, 25693200, 41421600, 57747600, 73476000, 89197200, 104925600, 120646800,
         126698400, 152096400, 162381600, 183546000, 199274400, 215600400, 230724000, 247050000,
         262778400, 278499600, 294228000, 309949200, 325677600, 341398800, 357127200, 372848400,
         388576800, 404902800, 420026400, 436352400, 452080800, 467802000, 483530400, 499251600,
         514980000, 530701200, 544615200, 562150800, 576064800, 594205200, 607514400, 625654800,
         638964000, 657104400, 671018400, 688554000, 702468000, 720003600, 733917600, 752058000,
         765367200, 783507600, 796816800, 814957200, 828871200, 846406800, 860320800, 877856400,
         891770400, 909306000, 923220000, 941360400, 954669600, 972810000, 986119200, 1004259600,
         1018173600, 1035709200, 1049623200, 1067158800, 1081072800, 1099213200, 1112522400,
         1130662800, 1143972000, 1162112400, 1173607200, 1194166800]
      ++ yearly 2008 [⟨3, 8, 36000, b⟩, ⟨11, 1, 32400, a⟩] }

def losAngeles : Zone := pacificCoast "America/Los_Angeles"

-- The older name of the same clocks.
def pacific : Zone := pacificCoast "US/Pacific"

def stJohns : Zone :=
  let a : ZoneForm := ⟨-12600, "NST"⟩
  let b : ZoneForm := ⟨-9000, "NDT"⟩
  let c : ZoneForm := ⟨-5400, "NDDT"⟩
  { name := "America/St_Johns"
    first := a
    changes :=
      alternate b a
        [9955800, 25677000, 41405400, 57731400, 73459800, 89181000, 104909400, 120630600,
         136359000, 152080200, 167808600, 183529800, 199258200, 215584200, 230707800, 247033800,
         262762200, 278483400, 294211800, 309933000, 325661400, 341382600, 357111000, 372832200,
         388560600, 404886600, 420010200, 436336200, 452064600, 467785800, 483514200, 499235400,
         514963800, 530685000, 544591860, 562127460]
      ++ [(576041460, c)]
      ++ alternate a b
        [594178260, 607491060, 625631460, 638940660, 657081060, 670995060, 688530660, 702444660,
         719980260, 733894260, 752034660, 765343860, 783484260, 796793460, 814933860, 828847860,
         846383460, 860297460, 877833060, 891747060, 909282660, 923196660, 941337060, 954646260,
         972786660, 986095860, 1004236260, 1018150260, 1035685860, 1049599860, 1067135460,
         1081049460, 1099189860, 1112499060, 1130639460, 1143948660, 1162089060, 1173583860,
         1194143460, 1205033460, 1225593060, 1236483060, 1257042660, 1268537460, 1289097060,
         1299987060, 1320553800, 1331443800, 1352003400]
      ++ yearly 2013 [⟨3, 8, 19800, b⟩, ⟨11, 1, 16200, a⟩] }

def saoPaulo : Zone :=
  let a : ZoneForm := ⟨-10800, "-03"⟩
  let b : ZoneForm := ⟨-7200, "-02"⟩
  { name := "America/Sao_Paulo"
    first := a
    changes :=
      alternate b a
        [499748400, 511236000, 530593200, 540266400, 562129200, 571197600, 592974000, 602042400,
         624423600, 634701600, 656478000, 666756000, 687927600, 697600800, 719982000, 728445600,
         750826800, 761709600, 782276400, 793159200, 813726000, 824004000, 844570800, 856058400,
         876106800, 888717600, 908074800, 919562400, 938919600, 951616800, 970974000, 982461600,
         1003028400, 1013911200, 1036292400, 1045360800, 1066532400, 1076810400, 1099364400,
         1108864800, 1129431600, 1140314400, 1162695600, 1172368800, 1192330800, 1203213600,
         1224385200, 1234663200, 1255834800, 1266717600, 1287284400, 1298167200, 1318734000,
         1330221600, 1350788400, 1361066400, 1382238000, 1392516000, 1413687600, 1424570400,
         1445137200, 1456020000, 1476586800, 1487469600, 1508036400, 1518919200, 1541300400,
         1550368800] }

end Footage.Zone
