import Footage.Zone.Basic

namespace Footage.Zone

def lordHowe : Zone :=
  let a : ZoneForm := ⟨36000, "AEST"⟩
  let b : ZoneForm := ⟨37800, "+1030"⟩
  let c : ZoneForm := ⟨41400, "+1130"⟩
  let d : ZoneForm := ⟨39600, "+11"⟩
  { name := "Australia/Lord_Howe"
    first := a
    changes :=
      alternate b c
        [352216800, 372785400, 384273000, 404839800, 415722600, 436289400, 447172200, 467739000,
         478621800]
      ++ alternate d b
        [499188600, 511282800, 530033400, 542732400, 562087800, 574786800, 594142200, 606236400,
         625591800, 636476400, 657041400, 667926000, 688491000, 699375600, 719940600, 731430000,
         751995000, 762879600, 783444600, 794329200, 814894200, 828198000, 846343800, 859647600,
         877793400, 891097200, 909243000, 922546800, 941297400, 953996400, 967303800, 985446000,
         1004196600, 1017500400, 1035646200, 1048950000, 1067095800, 1080399600, 1099150200,
         1111849200, 1130599800, 1143903600, 1162049400, 1174748400, 1193499000, 1207407600,
         1223134200]
      ++ yearly 2009 [⟨4, 1, -32400, b⟩, ⟨10, 1, -30600, d⟩] }

def sydney : Zone :=
  let a : ZoneForm := ⟨36000, "AEST"⟩
  let b : ZoneForm := ⟨39600, "AEDT"⟩
  { name := "Australia/Sydney"
    first := a
    changes :=
      alternate b a
        [57686400, 67968000, 89136000, 100022400, 120585600, 131472000, 152035200, 162921600,
         183484800, 194976000, 215539200, 226425600, 246988800, 257875200, 278438400, 289324800,
         309888000, 320774400, 341337600, 352224000, 372787200, 386697600, 404841600, 415728000,
         436291200, 447177600, 467740800, 478627200, 499190400, 511286400, 530035200, 542736000,
         562089600, 574790400, 594144000, 606240000, 625593600, 636480000, 657043200, 667929600,
         688492800, 699379200, 719942400, 731433600, 751996800, 762883200, 783446400, 794332800,
         814896000, 828201600, 846345600, 859651200, 877795200, 891100800, 909244800, 922550400,
         941299200, 954000000, 967305600, 985449600, 1004198400, 1017504000, 1035648000,
         1048953600, 1067097600, 1080403200, 1099152000, 1111852800, 1130601600, 1143907200,
         1162051200, 1174752000, 1193500800, 1207411200, 1223136000]
      ++ yearly 2009 [⟨4, 1, -28800, a⟩, ⟨10, 1, -28800, b⟩] }

def apia : Zone :=
  let a : ZoneForm := ⟨-39600, "-11"⟩
  let b : ZoneForm := ⟨-36000, "-10"⟩
  let c : ZoneForm := ⟨50400, "+14"⟩
  let d : ZoneForm := ⟨46800, "+13"⟩
  { name := "Pacific/Apia"
    first := a
    changes :=
      alternate b a
        [1285498800, 1301752800, 1316872800]
      ++ alternate c d
        [1325239200, 1333202400, 1348927200, 1365256800, 1380376800, 1396706400, 1411826400,
         1428156000, 1443276000, 1459605600, 1474725600, 1491055200, 1506175200, 1522504800,
         1538229600, 1554559200, 1569679200, 1586008800, 1601128800, 1617458400] }

def chatham : Zone :=
  let a : ZoneForm := ⟨45900, "+1245"⟩
  let b : ZoneForm := ⟨49500, "+1345"⟩
  { name := "Pacific/Chatham"
    first := a
    changes :=
      alternate b a
        [152632800, 162309600, 183477600, 194968800, 215532000, 226418400, 246981600, 257868000,
         278431200, 289317600, 309880800, 320767200, 341330400, 352216800, 372780000, 384271200,
         404834400, 415720800, 436284000, 447170400, 467733600, 478620000, 499183200, 510069600,
         530632800, 541519200, 562082400, 573573600, 594136800, 605023200, 623772000, 637682400,
         655221600, 669132000, 686671200, 700581600, 718120800, 732636000, 749570400, 764085600,
         781020000, 795535200, 812469600, 826984800, 844524000, 858434400, 875973600, 889884000,
         907423200, 921938400, 938872800, 953388000, 970322400, 984837600, 1002376800, 1016287200,
         1033826400, 1047736800, 1065276000, 1079791200, 1096725600, 1111240800, 1128175200,
         1142690400, 1159624800, 1174140000, 1191074400, 1207404000, 1222524000]
      ++ yearly 2009 [⟨4, 1, -36000, a⟩, ⟨9, 24, -36000, b⟩] }

def kiritimati : Zone :=
  let a : ZoneForm := ⟨-38400, "-1040"⟩
  let b : ZoneForm := ⟨-36000, "-10"⟩
  let c : ZoneForm := ⟨50400, "+14"⟩
  { name := "Pacific/Kiritimati"
    first := a
    changes :=
      [(307622400, b), (788868000, c)] }

end Footage.Zone
