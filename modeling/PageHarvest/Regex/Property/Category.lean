import PageHarvest.Regex.Property.Basic

/-!
# General categories

The categories of version 16.0 of the Unicode character database, single ones and groups, with
their names. Surrogates have no entry, because no text holds one.
-/

namespace PageHarvest.Regex.Property

/-- The general categories. -/
def category : List Entry := [
  ⟨["casedletter", "lc"],
    ["CnBagBaCgbkxbBfbHnbeeIabBbHkeccddbbgbbdbbbubDfbFjiGkbBmjBpEFfBmbbfbcBrcdZwDicgDFulfBrcdCmBsCl",
     "nbBiDxKscgcBmcgcibbbbbbbBfcCbbhbbddbhdecgenfdbhKbbebckbbdfgbbbbbbebgebceffebCacDZfEucDzgedcmB",
     "mbbfbBTWcBusBcFeDabxdebCkccbbbiycdbBFpBrfjhDcBEAihmfBNtBagBaBTtDcDsBkeBkEmlbpbhbcblbpbhbcCOpB",
     "znBzDpwkwEFiCmBGIqCmBMLkDhbCtbccbcccebmbbbhbCnbecibhbBcbebfbbdhbNcczbzbBfbzbBfbzbBfbzbBfbzbiC",
     "SykbuggDSvCq"]⟩,
  ⟨["closepunctuation", "pe"],
    ["BpbBzbBfbFPdbbbCUobDRdbCdbpbYkbbbBebBPubbbbbbbbbbbbbDcbBgbbbbbbbbbPobbbbbbbbbbbbbbbbbbbbbCmbb",
     "bBhbBOvbbbbbbbBsbbbbbbbQmbbbbbbbbbdbbbbbbbccCZRqbIjbBdbbbbbbbbbbbbbbbdbrbbbbbGobBzbBfbcbcb"]⟩,
  ⟨["connectorpunctuation", "pc"], ["DrbMBvctbDGAocydJfb"]⟩,
  ⟨["control", "cntrl", "cc"], ["aBgDrBh"]⟩,
  ⟨["currencysymbol", "sc"],
    ["BkbEveBWjbEtbTecTechbJlbKdbWjbDQpbDIiBhBZHvbBGMlbEebFybIlcdcMCseCVXebDRkb"]⟩,
  ⟨["dashpunctuation", "pd"],
    ["BtbCAubBzbFKjbBNpbDBdgFHxbcbBfcebBcbRebtbEhbCZWacBlbkbGnbFLobMgb"]⟩,
  ⟨["decimalnumber", "digit", "nd"],
    ["BwkCIokFekHqkPwkEokEokEokEokEokEokEokEokEokDskEokCskKskCskCTqkBmkLokEykGkkgkHakDikFekgkCAEokB",
     "AckBmkHqkwkDikPqkBFMckCCkkDFykgkBEqkEykCikFokKskNekEokOkkDykguCykQgkDykZmkDikJmkCskQgkYYgkDMc",
     "kDikFekUokBKDykECqByDNckQgkTikJnkBGvkHBak"]⟩,
  ⟨["enclosingmark", "me"], ["BSqcIKqbCIgebdBYOxd"]⟩,
  ⟨["finalpunctuation", "pf"], ["HfbLWvbdbBcbFFsbbbebcbpbdb"]⟩,
  ⟨["format", "cf"],
    ["GrbCAkgwbHkbBxbOucDcbFTjbDAqfBafBxfbkDGHjbJpdGIzbpbNKkqBZQueHWxiBTKZmbBeDs"]⟩,
  ⟨["initialpunctuation", "pi"], ["GpbLXkbcccbzbFFsbbbebcbpbdb"]⟩,
  ⟨["letter", "l"],
    ["CnBagBaBvbkbebfxbBfbRqemofhbbbEzfbccebbgbbdbbbubDfbFjiGkbBmcbgBpCtBbeeBtBrBjcbDvbbpchckdcbqbb",
     "BeBdDllbyBhjcebfwebjbdbxzhlfybgrBqCgCcdbsbhkpqeicccwbhbbdedbqbncbdockbigeccwbhbcbcbcBfebbtdqj",
     "bdbwbhbcbfdbsbpcxblicccwbhbcbfdbBecbdpbrbbgddbedcbbbcdcdddmwbCaibdbxbqdbBadcbccBebeibdbxbkbfd",
     "bBfcbcpcrjbdbBpcbqbfdidygfsdybjbbchCgBwbcmhCgcbbbfbybbbkbcjbcfbbveBgbClibBkBbfElBrubqgeedbdch",
     "denmbrBmbbfbcBrbMvbechbbbecBpbecBhbechbbbecpbCfbecCpBlqqDicgdXwcrbBafCxgihsntosonbdpCaBjbebCp",
     "DlhfcBibbfCskBfBxBecflBseBaCcxjCbDebDpBvriCcBenckBsBaBkBpdkBkclfBrcdBpebgbcdbfHkCmKscgcBmcgci",
     "bbbbbbbBfcCbbhbbddbhdecgenfdbhEmbnbqnDxbebckbbdfgbbbbbbeblceffebCacDZfIvgedcmBmbbfbcCehbqxjhb",
     "hbhbhbhbhbhbhDcbSbcBqffceDigdbDmbefBrbDqrBgBwqTsJToCmBGUfCpBucKjdqkcuBvqBfcCsBxjcDzcCpccbbbiv",
     "qbdbebxBdCaoByCkgdbbclBckxzBdhBvBcbqfbkkfbBpxdbiuxdbdBybbdccfcbbbydclhdmgcgcgjhbhbBrbogElBdQN",
     "smxeBxMNcOccEcBmhmffbbkbnbfbbbcbcbEeBhNzsCmcCcBomEmfbFfBkBagBalDldgcgcgcdBjmbBabtbcbpcoBiEtOz",
     "BddBxBvBgnubigBmkBecBkeiBwGcsBkeBkeBoiCamlbpbhbcblbpbhbcdCamLzjwkiygbBqbjCrgcbbBsbcdbcxkxjBfC",
     "ntbckwkBaCsCegcCmbpebdbBdBqBddBdBjibBcBbCckwktnsEgCvCdBznBznBkBmBcjxJqBqgcqdChBdkbiwBqsBuvBbx",
     "mCbCfccbnBtBgzBaBkBdbcbiBjdbmBwoevbbbBjsbztcClhbbbebpbkhBvBmicccwbhbcbfdbsbmfBekbbcbbBmbbzbbb",
     "BsCbseudBeBwucbbHcBvBpeBkBwubChBrnbCtBbBlhHdBsEmCmBficbcibcbypbbbDqicBnqbbbBcbkBohbvblButbsCv",
     "HrBhBfjbBlrbBxBeEihbcbBmvbzgbcbBgobMptpbbnbBiEubDbBJmIwHoDXkDtpBPgrgzFXrfWlKDdBeCPuVxhBfrDbrB",
     "esBwqeBfvftQqBtIdCmEyCxfbConCmcbbBcJCaiBVqBpkNFrebhbcbLfpbBddcboeiPgDKuEdfndjhkIWkDhbCtbccbcc",
     "cebmbbbhbCnbecibhbBcbebfbbdhbNcczbzbBfbzbBfbzbBfbzbBfbzbiCSyBfggKbCkFqBtkhqbMjBesBsSqBcIuBecb",
     "TbhbebcbpbHpChCqhbBUiebBbbcbbcbbkbebbbbgbebbbbbbdbcbbcbbbbbbbbbbcbbcebhbebebbbkbrfdbfbrGOaCLF",
     "cBgGDugIocINqoLBlpXyDQwUwCFyHHzfGFg"]⟩,
  ⟨["letternumber", "nl"], ["IRudDYtBjceFMsbzjodBSYlkBIFgCbRsbibFefMEsEh"]⟩,
  ⟨["lineseparator", "zl"], ["MEqb"]⟩,
  ⟨["lowercaseletter", "ll"],
    ["DtBaCgbBpybibbbbbbbbbbbbbbbbbbbbbbbbbbbbbbbbbbbbbbbbbbbbbbbbbbbbbbbcbbbbbbbbbbbbbbbcbbbbbbbbb",
     "bbbbbbbbbbbbbbbbbbbbbbbbbbbbbbbbbbbbbcbbbbdcbbbcbdcebcbddcbcbbbbbcbbcbbcbdbbbcccdgbcbcbbbbbbb",
     "bbbbbbbbbcbbbbbbbbbbbbbbbbbccbbbdbbbbbbbbbbbbbbbbbbbbbbbbbbbbbbbbbbbbbbbbbbbbbbbbbbbbbbbbbbhc",
     "bccbbebbbbbbbbCrbBbHlbbbdbddsbBbBjbcddbbbbbbbbbbbbbbbbbbbbbbbfbbcbccBzBwbbbbbbbbbbbbbbbbbbbbb",
     "bbbbbbbbbbbbbjbbbbbbbbbbbbbbbbbbbbbbbbbbbbbbbbbbbbbbbbbbbbbbbbbbbbbcbbbbbbbbbbbbcbbbbbbbbbbbb",
     "bbbbbbbbbbbbbbbbbbbbbbbbbbbbbbbbbbbbbbbbbbbbbbbbbbbbbbbbbbbbbbbbbbbbbbbbbbbbbbbbbbbbBwBpEHbBr",
     "cdBDggDFujbbEnBsClnbBiDybbbbbbbbbbbbbbbbbbbbbbbbbbbbbbbbbbbbbbbbbbbbbbbbbbbbbbbbbbbbbbbbbbbbb",
     "bbbbbbbbbbbbbbbbbbbbbbbbbbbbbbbbbbbbbbbbbbbbbbbbbbbbbbbbbbbbbbbbbbbbbbbbbbbbbbbjbbbbbbbbbbbbb",
     "bbbbbbbbbbbbbbbbbbbbbbbbbbbbbbbbbbbbbbbbbbbbbbbbbbbbbbbbbbbbbbbbbbbbbbbbbbbbbbbbbbbbjigkiiiig",
     "kiiiiociiiiiifbcgbddbciecciikdbcKobdcdbBbbebebccieebCbbEBbBwbbdcbbbbbbebbcbgfbbbbbbbbbbbbbbbb",
     "bbbbbbbbbbbbbbbbbbbbbbbbbbbbbbbbbbbbbbbbbbbbbbbbbbbbbbbbbbbbbbbbbbbbbbbbbbbbbbbbbbchbbbebmBmb",
     "bfbBTWdbbbbbbbbbbbbbbbbbbbbbbbbbbbbbbbbbbbbbbbbbbbbbtbbbbbbbbbbbbbbbbbbbbbbbbbbbFfbbbbbbbbbbb",
     "bdbbbbbbbbbbbbbbbbbbbbbbbbbbbbbbbbbbbbbbbbbbbbbbbbbbbbbbbbbbbbbbbibbbbcbbbbbbbbbebbbcbbdbbbbb",
     "bbbbbbbbbbbbbbbfbfbbbbbbbbbbbbbbbebbbcbdbbbbbbbbbbbBabdbBFpBrfjhDcBEAihmfBOzBaBVhBoFgBkFzlbpb",
     "hbcCRbBzEvwEGoBgBGJwBgBMMkBaBahbsBaBaBaebbbhblBaBaBaBaBaBaBaBaBaBaBaBaBaBaBaBaBaBcBczbgBazbgB",
     "azbgBazbgBazbgbbCSykbuggDUdBi"]⟩,
  ⟨["combiningmark", "mark", "m"],
    ["BDoEiKphKdBtbbbcbcbbCulBwvqbDxhcgccbeBjbBeBbDnlCgjjbyebjbdbfBrdChjBqybBhCcdbsbhkcBddCebbhcccd",
     "jbkcBabcdCebbfeccddbBecdbldCebbibdbducwgbdCebbhcccdhdkcBebChfddbejbBofCdbbhbdbehclcBddCebbhbd",
     "behclcpbmeCdcbhbdbejbkcBddCsbegbbbiscCjbchmiDubcjlhCvcBbbbbbbecBxubcflbBkjbDwuxeedbdchdenmbbk",
     "eBBbdBKkeBcdBdcBecCmBgjbBtdbbEncBibEomemIlfCfkbBdcbBwBfBxfBvrBmjmdBenCeoBwuFwdbvebgbcdHqCmBBs",
     "BhEOcdFlbDsBgVigEbcBSQeebkBgcDccKmbdbebxfebDfcBysBasnbBmiznBseBvoBkbCpombicBtdBybbdccfcbbBpff",
     "cJcibcBDZsbBCjqqqBLlbIsbFtfCMgdbcfeBodebGjcWbeCnfMfcDbeCslBxeEsdCbpBpbcckeBtlhbCjdBkoqcBsbmdB",
     "woiebcDomgbcbGbmveCdcbhcccdjbkcchdfCpjbbcbbebfbbocDesxbDduJbhcjBbcDerEcnDxpJwpJlgbccebbbcFlhc",
     "hdbBckBohbeibjlBuqPpibiDewboEsgdbbcbhbbCofbcbfNjejcbbBwhdfxbHXtbgpQYysDSafChhBOibbCdheDdblcBD",
     "AxcGYzBucxUwfdgiichBeeFsdCYdCdeByibobwfbpCAihbrchbcbfDwbGehOlbCjeToeJucBCihEfhBTCIvJg"]⟩,
  ⟨["mathsymbol", "sm"],
    ["BrbqdCjbbbBtbebBlbBfbBDmbUhdJYhbnbBndndFjbBnfgbCqffcebcbcbhbBfccbbbBfKiBgcDmbBezBogSbbjbCciEh",
     "bMyfcBfkqJwFbwCleBgcJyBwvcgDASqbBFsbbdGibqdCjbbbFbbgeFEfcCYEzbzbBfbzbBfbzbBfbzbBfbzbIUec"]⟩,
  ⟨["modifierletter", "lm"],
    ["BAmsemofhbbbFdbfbSkbIwbGicKjcebBfbjbdbGebGlbBVobExbVtbCPmbEdbXnbRwgGsClnbBiBlBAnbnbqnEMxcJhbH",
     "jbSbbBrffbDtcDpdBQBubBWcgKkbEkbBccErjDcbxbEbddcSbbwbFhbEebvcDzejbBFVibBtcCZogbBqbjCCxbBgbBJNs",
     "eTodBocVenCmcbbYGqebhbcSGnCkHthBKfbBRbb"]⟩,
  ⟨["modifiersymbol", "sk"],
    ["DqbbbCtbgbebdbUbemofhbbbrEnbocBXibIUmbbdldndndncGHocBSVrxjcDzcBLobocBEKkrBIhbbbGgbDOLjf"]⟩,
  ⟨["nonspacingmark", "mn"],
    ["BDoEiKpfKfBtbbbcbcbbCulBwvqbDxhcgccbeBjbBeBbDnlCgjjbyebjbdbfBrdChjBqybBgCdbbbeiebdhkcBdbCgbee",
     "ibucBabccCfbececcddbBecdblcCfbefbcebucwgbbCgbcbbeibhclcBebCjbmbBybdbCdbbdfdbehclcBdbCgbcbgbfc",
     "ucBccCfceeibucBdbCubhdbbDmbchmiDubcjlhCvcBbbbbbbCdobfbcflbBkjbDyebgbccczcedqenbccgbpbBBbdBKkd",
     "BdcBecBecCmcbhibcljbBtdbbEncBibEodecjbgdIlccbCgbbhbbbbcigkcbBwobqBxeBwbbfbbfbBojmcBgeccbdCebb",
     "cdbbdCgiccFwdbnbhebgbdcHqCmBBsnebdmEOcdFlbDsBgVieEdcBSQebekBgcDccKmbdbebzcfbFvcBasnbBmizlBudB",
     "wbceccBnbCpgccccmbibBvbBzbbdccfcbbBqcibJebcbebBDZsbBCjqqqBLlbIsbFtfCMgdbcfeBodebGjcWbeCnfMfcD",
     "beCslBxeEtbCcpBpbcckdBxecchbCjdBkfbiCkbmcCajkecbDrdcbbcgbcbGbbdivcCfcdbBlhdfCsgnbbbbbocDhicdb",
     "bxbDggbbecbcJeegcbcBbcDhicbbcEcbbbcgbbDxbbbcebfJzjbcJwcbbebFoeccebBgkBogceibjgcdBunbcPqhbgbbD",
     "ewchbcbcEsgdbbcbhbbCucdbbbNjclcCaffbbbxbHXtbgpQYymddDSafChhBOibCleDdbBDBkcGYzBucxUydrichBeeFs",
     "dCYdCdeByibobwfbpCAihbrchbcbfDwbGehOlbCjeToeJucBCihEfhBTCIvJg"]⟩,
  ⟨["number", "n"],
    ["BwkEqcfbcdCDlkFekHqkPwkEokegEekEokEokcgEgnElkihDzkEahhtEfkDskEokCsuKikCskBBruBHxdJfkgkwkLokEy",
     "lGjkgkHakDikFekgkBOgbdggkHqBzcfBByCiDawYgBeCBhbBDxbzjodNfeFikBeibpBgkBnpBRSakHgkMigFykBmkHqkw",
     "kDikPqkBFMckSzBtmCfrcNdBbBkeBdbibFefHukBKgizhBnjCxfwgGeccqcBuCmjCacBedCxfEaiyiBphMsgBwkgkKsBf",
     "GckBqeEihFeBeEykCikFokhuJrkNekEokOkkDykguCymQetDpkZmkDiBdItkCskQgkDyvBPbEhXAfkDMckDikFekbhUgk",
     "KcxBJSzkCEwumuEezBQrByDNckQgkTikJnkBBojEykBElChbdbeCyBtbpBLanEDfk"]⟩,
  ⟨["openpunctuation", "ps"],
    ["BobBybBfbFPebbbCUobDPmbdbBmbCdbpbYkbbbBebBPubbbbbbbbbbbbbDcbBgbbbbbbbbbPobbbbbbbbbbbbbbbbbbbb",
     "bCmbbbBhbBOvbbbbbbbzbsbbbbbbbQmbbbbbbbbbdbbbbbbbcbCZRtbIhbBdbbbbbbbbbbbbbbbdbrbbbbbGobBybBfbd",
     "bcb"]⟩,
  ⟨["other", "c"],
    ["aBgDrBhnbBBmcgehbbbubPhbBmcBycdbCdiBbegrwbHkbBwcChcDxoChcBxcpbBccbblfBfiCxbGfbicccwbhbbdecjcc",
     "ceibecbfczcdbgeccwbhbcbcbccbbfeccddbhebbhrkdbjbdbwbhbcbfckbdbdcbpecmhhbdbicccwbhbcbfcjcccdhde",
     "cbfcskcbgddbedcbbbcdcdddmefddbecbgbovfnbdbxbqcjbdbehcbdcbceckhwbdbxbkbfcjbdbehcgcbeckbdmnbdbB",
     "zbdbgeqcBabdbsdybjbbchdbegbbbigkcdmCgeBdBlcbbbfbybbbxcfbbbhbkceBgCubBkeBnbBkbpbnBlHqbbfbcOnbe",
     "chbbbecBpbecBhbechbbbecpbCfbecCpcBgdBagDicgcZtdDlhwjyjumnbdbcmDqckgkgoblgDlhBrfCskBfbmemebdBq",
     "cflBseBagldCkcCnbBdclgkgocBfBxCzbGkiCidpdCkfBrcliBrfUocgcBmcgcibbbbbbbBfcCbbpbocgbtcdbjblfBaf",
     "BxqccBbbndBhpBhpFkeZqwlvCRscBgbNlfBtbbfbcCehcoyjhbhbhbhbhbhbhbhbEwBiBabDlmIgBaDcbDicDzfBrbDqb",
     "DijBwbBRIrdCdjNkuHciHyccbbbivChdkgCeiCsimgEmlBedDableBhbCdjockcDzyBckgcgcgjhbhbCieEwckgQNsmxe",
     "BxMNcOccEcBmhmffBabfbbbcbcbEvqRdcCchbBgBqgBzbtbeefbFfeHidgcgcgcddhbhnccmbBabtbcbpcoBiEtfdeBtd",
     "DkbndbBvBuFaBddBxpBceBkjBefBrfBebBleoBqGcckgBkeBkeBoiCalmbpbhbcblbpbhbcdCamLzjwkiygbBqbjCrgcb",
     "bBsbcdbcxbCuijBwtbcfBhdBbfbCmCeeucBybcfibdbBdcdekhjhCmBgBnemjCcdBdcBbfBahemhDcCvCdBznBzhBuikg",
     "BmdBdicIaBfbBqbdccqdCdBsiBqwBaBmBcuxjDaeBkjCkbfnzhkgCbbsiBnjDsbulsbBvCkhbbbebpblgChfkgebicccw",
     "bhbcbfbkcccdcbgbfhchdflkbbcbbBmbkbbcbbebkbcicBdDobfBeCuikGkCccBmBiCrlkgntCggkguBcBbcpexHdCiDw",
     "DfmicbcibcbBebccmjkCsicBuclBbCuiDfnCvhkHaBiokgjbBtbokBddBgcwboCvhbcbBsdbbcbjikggbcbBlbcbghkLy",
     "zhrbBpdBdDhbpBynBJnDyEhbflHoDXkDvnBPgqwkFXrfWlKDdCgCOsVxhBfbkeDdbkgBecgkCskkbhbvftQqCgHqDnDxC",
     "xeCfhrCmflcoJCaiBVqBpkNFrebhbcbLfpbBddcboeiPgDKuEdfndjhkceFVkJqgQuCyBucxjEmCiJmkBncCwiEivCsEs",
     "umumDjjzFfDhbCtbccbcccebmbbbhbCnbecibhbBcbebfbbdhbNccLgcBBapfbpBQmBfggIfhbrchbcbffCkBhbEiBtdo",
     "ckecMiBfrCgfbRwBqIgBrebSmhbebcbpbHpcqBpCyekecBEfCqCyCjHmebBbbcbbcbbkbebbbbgbebbbbbbdbcbbcbbbb",
     "bbbbbbcbbcebhbebebbbkbrfdbfbrCacKkBseDwmpcpbpbBlkGsCeBdnBsejhcogFyBLwerdndEpeDrgmebpmeCeikgBo",
     "iBecmecCkNcmocndkfCehpclgjhFrbDyBNqCLFcBgGDugIocINqoLBlpXyDQwUwCFyHHzfGFgBONHgJgLECu"]⟩,
  ⟨["otherletter", "lo"],
    ["GobpbJwbeeIabBFvBbeeBtBgbkBjcbDvbbyckdcbqbbBeBdDllbyBhvwBqzhlfybgrBpChCcdbsbhkqpeicccwbhbbded",
     "bqbncbdockbigeccwbhbcbcbcBfebbtdqjbdbwbhbcbfdbsbpcxblicccwbhbcbfdbBecbdpbrbbgddbedcbbbcdcdddm",
     "wbCaibdbxbqdbBadcbccBebeibdbxbkbfdbBfcbcpcrjbdbBpcbqbfdidygfsdybjbbchCgBwbcmgChcbbbfbybbbkbcj",
     "bcfxeBgbClibBkBbfElBrubqgeedbdchdenmbEjMrbechbbbecBpbecBhbechbbbecpbCfbecCpBlqEjXwcrbBafCxgih",
     "sntosonbdpCaBobCpBjbCbhfcBibbfCskBfBxBecflBseBaCcxjCbGuBvriCcBenckBsBaBkBpdkBeEjebgbcdbBPqeEN",
     "vCeyxjhbhbhbhbhbhbhbhVfbCbbeDiibbDmebfBrbDqrBgBwqTsJToCmBFCfbBRzCpBoiKieqkcCobBxCsGnbDzbdhbdb",
     "ebxBdCaoByCkgdbbclBckxzBdhBvBtfcjkfbBpxdbiuqbgdbdBybbdccfcbbbycdlhbogcgcgjhbhFpBjBdQNsmxeBxMN",
     "cOccEcCpbbkbnbfbbbcbcbEeBhNzsCmcCcBomEmfbFfEbkbBtcBfdgcgcgcdBjmbBabtbcbpcoBiEtOzBddBxBvBgnubi",
     "gBmkBecBkeiEyDaDuBoiCaDoCamLzjwkiFwgcbbBsbcdbcxkxjBfCntbckwkBaCsCegcCmbpebdbBdBqBddBdBjibBcBb",
     "CckwktnsEgCvHbBkBmebbLsBqgcqdChBdkbiwBqsBuvBbxmCbCfccbnBtBgzBaBkBdbcbiBjdbmBwoevbbbBjsbztcClh",
     "bbbebpbkhBvBmicccwbhbcbfdbsbmfBekbbcbbBmbbzbbbBsCbseudBeBwucbbHcBvBpeBkBwubChBrnbCtBbBlhHdBsI",
     "dicbcibcbypbbbDqicBnqbbbBcbkBohbvblButbsCvHrBhBfjbBlrbBxBeEihbcbBmvbzgbcbBgobMptpbbnbBiEubDbB",
     "JmIwHoDXkDtpBPgrgzFXrfWlKDdBeCPuVxhBfrDbrBesBwBzvftQtBoPpCxfbGtJCaiBVqBpkNGhLfpbBddcboeiPgDKu",
     "EdfndjhkNBcbThBtBhbMjBesBsSqBbIvBecbTbhbebcbpbHpBZnebBbbcbbcbbkbebbbbgbebbbbbbdbcbbcbbbbbbbbb",
     "bcbbcebhbebebbbkbrfdbfbrGOaCLFcBgGDugIocINqoLBlpXyDQwUwCFyHHzfGFg"]⟩,
  ⟨["othernumber", "no"],
    ["GwcfbcdDMrgOmgEqdFdhIjhrjQrkBPluBRvkSmbCMvbdggkHqqBpbBByCiDawYgBeCBhbBTceFikBeibpBgkBnpBSMigB",
     "HQnBtCnercNdBbBkeBZgizhBnjCxfwgGeccqcBuCmjCacBedCxfEaiyiBphMsgNoBfGckBqeEihFeuOpuBZxcQojBHntB",
     "GtvBCPqhBEsxBLYfumuEezIBujBJtChbdbeCyBtbpBLan"]⟩,
  ⟨["otherpunctuation", "po"],
    ["BhdbdcbbbbckcdcBbbCqbfbochbBBabibRygBpbCcbcbcbBscucbcnbbdCweDybBroIzdCcpBfbKbckbFkbEqbErbPabm",
     "bOdbDmbkcGmpbbEibCwfecEhgGpbXojBDtbEudCtcGbdbdBlgbeMbcIicEyhbgGeckhBcdEueChfCkcCmilbBGcciiijc",
     "ecddlbbbkEUcebcEibFncedcbcjbcbbcckfbkcebbbncdQmdCfbHhbBRYgcKjdDvbkbElgOqeDicBodbbBxcBvbDtnqcE",
     "ueEwcqcJpbBFCuhcbwbucceddbehdgbbcFtdbdcbbbbckcdcBbbBkbccPudZsbBwbPybBCpbHrbBfbKmjBmbEihCohDle",
     "BKqfBseHhhEfcbeEweBwcDbeebnbbdDkgEdbLmcbcEkfkcbbEabJqxEbdBcnCybFadJsbKedFzbDoiDfdbfDpkIhbDrfB",
     "qcYvcCwnGtbBRsfEJccWDvcFdbCnfibVgdLjeMpbBDBobLIlfEItbBHec"]⟩,
  ⟨["othersymbol", "so"],
    ["GkbcbebbbBLpbKgcExcHybkbtcJnbTvbOjbFagbbFcbHzbBpbPbdpbbdcgubbbbbFdibgbcfeHpcBCykBBvbBBubGbBiN",
     "pkjjCChcbebckbbcggbbbbbbeblcobbcbbCgcjfcebcbcbhbBfccbbbBfKiieuchcDdbBezBogCuwlDdDawHbbjbCciEh",
     "bJoBsBsCmJwTsBwvcgBncBgbEbIvgNtcBuBabDlmIgBaqebncmbvcgcMycekBgBmjbqBflBeibpBgkBnpMiJToCmBGUiC",
     "dBHhekcbbWbdBFJaqExbBtdSqbdbecncMbjCfrcdbndbBvBtCLucWtbESsbDGnierBCNiefbBEUwbFVnJgqQuGaEmCiJm",
     "kBncCifdwchBeeCjvCodbHeDjBTxTsCdeByibobcCOubEHwbEzbBBtBseDwmpcpbpbBlxGfCeBdnBsejhcogFyJrfBCae",
     "rdndEpeDrgmebpmeCeikgBoiBecmecCkNcmocndkfCehpclgjhFrbDo"]⟩,
  ⟨["paragraphseparator", "zp"], ["MErb"]⟩,
  ⟨["privateuse", "co"], ["DGVoJMeCAHXoDSYocDSYo"]⟩,
  ⟨["punctuation", "punct", "p"],
    ["BhdbgbekcdcBadbbBbbbbBjbfbdbkcdbdbBBabibRygBpcBzbbbcbcbBscucbcnbbdCweDybBroIzdCcpBfbKbckbFkbE",
     "qbErbPabmbOdbDmbkcGmpbbBleCtbCwfecEhgGpbXojFvbXxbBscDadCtcGbdbdBllMbcIicEyhbgGeckhBcdEueChfCk",
     "cCmilbBFwyiubnbmBecocYjeBdcBPtoDbcBfkPnwCleBgcBDjebcEibFnBvbBgcmQddekcmqbmbDubDmbBRYgcKjdDvbk",
     "bElgOqeDicBodbbBxcBvbDtnqcEueEwcqcJpbBEUscIakwBjbobbebbcFtdbgbekcdcBadbbBbbbbbhPudZsbBwbPybBC",
     "pbHrbBfbKmjBmbEihCohDleRxbMgbGlfBseHhhEfcbeEweBwcDbeebnbbdDkgEdbLmcbcEkfkcbbEabJqxEbdBcnCybFa",
     "dJsbKedFzbDoiDfdbfDpkIhbDrfBqcYvcCwnGtbBRsfEJccWDvcFdbCnfibVgdLjeMpbBDBobLIlfEItbBHec"]⟩,
  ⟨["separator", "z"], ["BgbExbIHjbDPnlBdcfbBvbFXwb"]⟩,
  ⟨["spaceseparator", "zs"], ["BgbExbIHjbDPnlBkbBvbFXwb"]⟩,
  ⟨["spacingmark", "mc"],
    ["DKtbCdbcdiebcBycCgdgccckbBrbCgdCobCgdibbcCbcCgbbbgccckbDycbcddbdkbBpdCjeCjcCgbbfccbcjcBcbocCg",
     "dfdbdkbBqcCxdgiscMscClbGpcebgbcczckdchvccgcbkdCLsbBebEzbhibcNiecdecbgIqcCgbbbjbbcigFpbBwbfbbf",
     "bcCjbBebeccbCibcdbbdcBwiicGpbvbHHecBTLbccbDkcByqFmcBvbBwceccdEgcccybBtbbbEfbccfbJdcbcbcbbBLXj",
     "bbbExbBtdecElbycChbBwdjcnbDpddcbbGodBfcCgcbecccdjbkcDgdhbcbbebcbbDxdicdbEcdgbbecbJddgecbEjdic",
     "bbEfbbcgbDzbbcebKbdjbJngbcebcbbbFmdieebDgbBdcCkbPrbobEcbhbcbIffecbbNmcmbBwcicbbYYydFJgCdEacBK",
     "Xncgg"]⟩,
  ⟨["symbol", "s"],
    ["BkbgbqdBfbbbBbbbbBjfbccbbecbdbBebBfbRqemofhbbbrEnbocEibFjbKgdEodcbccHybkbtcJnbhcFgbNxcgcJlbEw",
     "bFaiFcbHzbBpbHpbHldpbbdcgubbbbbFdibgbcfeHpcBCykBBvbObbNsbGbBiNpkjjBPwbbdldndndncCrbnbBndndtBh",
     "ClcbebckbbdfgbbbbbbeblceffebbCgceOmeBdcJvwlDdDawXsBsBxcBfkPnwCleBgcOkcBgbEbIvgNtcBuBabDlmIgBa",
     "qebncmbvcgcDncJjcekBgBmjbqBflBeibpBgkBnpMiJToCmBGUiCdVxxjcDzcGbekeWbdIrbocBEFdbFgrOrqExbBseDu",
     "bbdcbFybgbqdBfbbbBbbbbEzhbhncMbjCfrcdbndbBvBtCLucWtbBBhcDRjbDGnBdBCNiefbBEUwbFVnJgqQuGaEmCiJm",
     "kBncCifdwchBeeCjvCodbHeDjBHqbzbBfbzbBfbzbBfbzbBfbzbCiTsCdeByibobcCOubQpbDRgbdbEvbRhcKkBseDwmp",
     "cpbpbBlxGfCeBdnBsejhcogFyBLwerdndEpeDrgmebpmeCeikgBoiBecmecCkNcmocndkfCehpclgjhFrbDo"]⟩,
  ⟨["titlecaseletter", "lt"], ["RlbcbcbBmbLFhiiiiimbpbBvb"]⟩,
  ⟨["unassigned", "cn"],
    ["BIecgehbbbubPhbBmcBycdbCdiBbeglKkbCicDxoChcBxcpbBccbblfBfbcfJdbicccwbhbbdecjccceibecbfczcdbge",
     "ccwbhbcbcbccbbfeccddbhebbhrkdbjbdbwbhbcbfckbdbdcbpecmhhbdbicccwbhbcbfcjcccdhdecbfcskcbgddbedc",
     "bbbcdcdddmefddbecbgbovfnbdbxbqcjbdbehcbdcbceckhwbdbxbkbfcjbdbehcgcbeckbdmnbdbBzbdbgeqcBabdbsd",
     "ybjbbchdbegbbbigkcdmCgeBdBlcbbbfbybbbxcfbbbhbkceBgCubBkeBnbBkbpbnBlHqbbfbcOnbechbbbecBpbecBhb",
     "echbbbecpbCfbecCpcBgdBagDicgcZtdDlhwjyjumnbdbcmDqckgkgBagDlhBrfCskBfbmemebdBqcflBseBagldCkcCn",
     "bBdclgkgocBfBxCzbGkiCidpdCkfBrcliBrfUocgcBmcgcibbbbbbbBfcCbbpbocgbtcdbjbDxbmcBbbndBhpBhpFkeZq",
     "wlvCRscBgbNlfBtbbfbcCehcoyjhbhbhbhbhbhbhbhbEwBiBabDlmIgBaDcbDicDzfBrbDqbDijBwbBRIrdCdjNkuHciH",
     "yccbbbivChdkgCeiCsimgEmlBedDableBhbCdjockcDzyBckgcgcgjhbhbCieEwckgQNsmxeBxeNBacEcBmhmffBabfbb",
     "bcbcbEvqRdcCchbBgBqgBzbtbeefbFfcbbHidgcgcgcddhbhkfcmbBabtbcbpcoBiEtfdeBtdDkbndbBvBuFaBddBxpBc",
     "eBkjBefBrfBebBleoBqGcckgBkeBkeBoiCalmbpbhbcblbpbhbcdCamLzjwkiygbBqbjCrgcbbBsbcdbcxbCuijBwtbcf",
     "BhdBbfbCmCeeucBybcfibdbBdcdekhjhCmBgBnemjCcdBdcBbfBahemhDcCvCdBznBzhBuikgBmdBdicIaBfbBqbdccqd",
     "CdBsiBqwBaBmBcuxjDaeBkjCqkbczhkgCbbsiBnjDsbulsbBvCkhbbbebpblgChfkgebicccwbhbcbfbkcccdcbgbfhch",
     "dflkbbcbbBmbkbbcbbebkbcicBdDobfBeCuikGkCccBmBiCrlkgntCggkguBcBbcpexHdCiDwDfmicbcibcbBebccmjkC",
     "sicBuclBbCuiDfnCvhkHaBiokgjbBtbokBddBgcwboCvhbcbBsdbbcbjikggbcbBlbcbghkLyzhrbBpdBdDhbpBynBJnD",
     "yEhbflHoDXkDvnBQskFXrfWlKDdCgCOsVxhBfbkeDdbkgBecgkCskkbhbvftQqCgHqDnDxCxeCfhrCmflcoJCaiBVqBpk",
     "NFrebhbcbLfpbBddcboeiPgDKuEdfndjhkciFVgJqgQuCyBucxjEmCiJmkBncHmvCsEsumumDjjzFfDhbCtbccbcccebm",
     "bbbhbCnbecibhbBcbebfbbdhbNccLgcBBapfbpBQmBfggIfhbrchbcbffCkBhbEiBtdockecMiBfrCgfbRwBqIgBrebSm",
     "hbebcbpbHpcqBpCyekecBEfCqCyCjHmebBbbcbbcbbkbebbbbgbebbbbbbdbcbbcbbbbbbbbbbcbbcebhbebebbbkbrfd",
     "bfbrCacKkBseDwmpcpbpbBlkGsCeBdnBsejhcogFyBLwerdndEpeDrgmebpmeCeikgBoiBecmecCkNcmocndkfCehpclg",
     "jhFrbDyBNqCLFcBgGDugIocINqoLBlpXyDQwUwCFyHHzfGFgBOMXlbBeDsEyJgDSFoDSYocDSYoc"]⟩,
  ⟨["uppercaseletter", "lu"],
    ["CnBaDxxbhBhbbbbbbbbbbbbbbbbbbbbbbbbbbbbbbbbbbbbbbbbbbbbbbbbbbbbbbbcbbbbbbbbbbbbbbbcbbbbbbbbbb",
     "bbbbbbbbbbbbbbbbbbbbbbbbbbbbbbbbbbbbcbbbbdcbbbcbdcebcbddcbcbbbbbcbbcbbcbdbbbcdbhbcbcbcbbbbbbb",
     "bbbbbbbbcbbbbbbbbbbbbbbbbbcbcbbdbbbbbbbbbbbbbbbbbbbbbbbbbbbbbbbbbbbbbbbbbbbbbbbbbbbbbbbbbbhcb",
     "ccbbebbbbbbbbLdbbbdbibgbbdbbbcbrbjBjbcddbbbbbbbbbbbbbbbbbbbbbbbfbcbbccBzBwbbbbbbbbbbbbbbbbbbb",
     "bbbbbbbbbbbbbbjbbbbbbbbbbbbbbbbbbbbbbbbbbbbbbbbbbbbbbbbbbbbbbbbbbbbbbcbbbbbbbbbbbbcbbbbbbbbbb",
     "bbbbbbbbbbbbbbbbbbbbbbbbbbbbbbbbbbbbbbbbbbbbbbbbbbbbbbbbbbbbbbbbbbbbbbbbbbbbbbbbbbbbbcBmEHdBm",
     "bbfbBBuDiDGlbgBrcdMibbbbbbbbbbbbbbbbbbbbbbbbbbbbbbbbbbbbbbbbbbbbbbbbbbbbbbbbbbbbbbbbbbbbbbbbb",
     "bbbbbbbbbbbbbbbbbbbbbbbbbbbbbbbbbbbbbbbbbbbbbbbbbbbbbbbbbbbbbbbbbbbbbbbbbbbbjbbbbbbbbbbbbbbbb",
     "bbbbbbbbbbbbbbbbbbbbbbbbbbbbbbbbbbbbbbbbbbbbbbbbbbbbbbbbbbbbbbbbbbbbbbbbbbbbbbbbbjiigkiiiiglb",
     "bbbbbbiiCuemememfleKcbebddcdcbdfgbbbbbbecekcfbCjbDZgBwBwbbdcbbbbbbebbcbidbbbbbbbbbbbbbbbbbbbb",
     "bbbbbbbbbbbbbbbbbbbbbbbbbbbbbbbbbbbbbbbbbbbbbbbbbbbbbbbbbbbbbbbbbbbbbbbbbbbbbbibbbebBTYjbbbbb",
     "bbbbbbbbbbbbbbbbbbbbbbbbbbbbbbbbbbbbbbbbtbbbbbbbbbbbbbbbbbbbbbbbbbbbFfbbbbbbbbbbbbbdbbbbbbbbb",
     "bbbbbbbbbbbbbbbbbbbbbbbbbbbbbbbbbbbbbbbbbbbbbbbbbbbbkbbbbcbbbbbbbbebbbcbbbdbbbbbbbbbbbbbbbbbb",
     "bbfbfbbbbbbbbbbbbbbbebbbcdbfbbbbbbbybBHAhBaBUzBoFgBkGalbpbhbcCQcBzGbwEGoBgBGJwBgBMMqBaBaBaBaB",
     "aBabbccbcccebiBaBaBacbecibhBbcbebfbbdhBbBaBaBaBaBaBaBaBaBaBaBaBezBhzBhzBhzBhzBhbGNlBi"]⟩
]

end PageHarvest.Regex.Property
