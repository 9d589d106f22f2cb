import PageHarvest.Regex.Property.Basic

/-!
# Properties that a character has or has not

The properties of version 16.0 of the Unicode character database, with the names by which a pattern
may ask for them.
-/

namespace PageHarvest.Regex.Property

/-- The properties with two values. -/
def binary : List Entry := [
  ⟨["asciihexdigit", "ahex"], ["BwkhgBag"]⟩,
  ⟨["alphabetic", "alpha"],
    ["CnBagBaBvbkbebfxbBfbRqemofhbbbDibBdsbccebbgbbdbbbubDfbFjiGkbBmcbgBpBnobbbcbcbbiBbeeBdlfCebhoD",
     "ybieiedkdcbqBwnDxyBhjcebfycttzhlfybgibiBqkmdhgCybqbdepntbicccwbhbbdediccccbbibecbfmckbedbgecc",
     "wbhbcbcbcefecccebhebbrgldbjbdbwbhbcbfdjbdbcdbpeveedbicccwbhbcbfdiccccjcecbfnbqcbgddbedcbbbcdc",
     "dddmefddbddbgbBonbdbxbqdibdbdicbdcbceBcebibdbxbkbfdibdbdicgcbendmnbdbBpcibdbdbbfehfwgbdbsdybj",
     "bbchigbbbiscnCgfhgbBzcbbbfbybbbtbdcfbbgboeBgbClibBketeqbBkCpCdbbcfqCmkecBmbbfbcBrbMvbechbbbec",
     "BpbecBhbechbbbecpbCfbecCpBlqqDicgdXwcrbBafCxdlhulvmumnbdbcmCactobebCpDlhBrfCskBfbmejxBecflBse",
     "BaCcBceClcuBybxcldBxCabpbiBzBqcekBsbloCdwdkBkclfBrcdBpebgbcdbfHktBilKscgcBmcgcibbbbbbbBfcCbbh",
     "bbddbhdecgenfdbhEmbnbqnDxbebckbbdfgbbbbbbeblceffebrBpBFhCaCRuIvgedcmBmbbfbcCehbqxjhbhbhbhbhbh",
     "bhbhbBgBvbSbdzjhfcfeDigdbDmbefBrbDqrBgBwqTsJToCmBGUfCpBucKjdqkcuBvfidEjBnjcDzcCpccbbbivubBhyC",
     "amCqbbBsgdbbdkBhfBjnBddBzbmpbqqkfbCdjosxdCrbbbbydcqcelgcgcgjhbhbBrbogEtvQNsmxeBxMNcOccEcBmhmf",
     "fmbnbfbbbcbcbEeBhNzsCmcCcBomEmfbFfBkBagBalDldgcgcgcdBjmbBabtbcbpcoBiEtCrCbKhBddBxBvBgnBefBrfB",
     "ecBkeibfBqGcsBkeBkeBoiCamlbpbhbcblbpbhbcdCamLzjwkiygbBqbjCrgcbbBsbcdbcxkxjBfCntbckwkBaCsCegcC",
     "mebcfibdbBdBqBddBdBjibBcBbCckwktnsEgCvCdBznBznBoBiBcdbfxJqBqbcdcqdCdbdBdkbiwBqsBuvBbxjCsBrfkC",
     "fjbnzxBzreiBjdbjCmbejckbbbBjsbBicbgeCkhbbbebpbkhCfxebicccwbhbcbfdiccccdbgbfhBckbbcbbBmbkbbcbb",
     "ebcdbbbBsCobdbeudBeCoccbbHcCcchzgBiClbbdbChCccbCtBbcovhHdCfDzCmBficbcibcbBebcccceDpicBucgbbbc",
     "BbBzckrCufbsCvHrBhBfjbBtbhbbBxBecwboCvhbcbBsdbbcbdbbccygbcbBlbcbebbMpxjrbBpddEhbDbBJmDyEhrHoD",
     "XkDtpBPgrgzFXrfWlKDdBvCPdVxhBfrDbrBesBwqeBfvftQqBtIdCmEyCxeCfhrCmcbbmcoJCaiBVqBpkNFrebhbcbLfp",
     "bBddcboeiPgDKuEdfndjhkebIWfDhbCtbccbcccebmbbbhbCnbecibhbBcbebfbbdhbNcczbzbBfbzbBfbzbBfbzbBfbz",
     "biCSyBfggIfhbrchbcbffCkBhbEiBtkhqbMjBesBsSqBcIuBecbTbhbebcbpbHpChCqdbdbBUiebBbbcbbcbbkbebbbbg",
     "bebbbbbbdbcbbcbbbbbbbbbbcbbcebhbebebbbkbrfdbfbrYeBagBagBaFMkCLFcBgGDugIocINqoLBlpXyDQwUwCFyHH",
     "zfGFg"]⟩,
  ⟨["bidicontrol", "bidic"], ["CIebJVlcBafCde"]⟩,
  ⟨["bidimirrored", "bidim"],
    ["BocsbbbBcbbbBdbbbBtbpbFMseCUncDQqckcCccocGvbHkedgdbdcdebebbbbejfbbsfejcbbbibBgcefbjcctfcjfcce",
     "ycqieuchcBPtoCwbcebcbdfefddoPnwcgboibhgdbefbccfebbdcckgccmtbecbbbcbbefcgdyclceebccceBrcibBofb",
     "bbdffdebdfbbJwbTvedcbcocckBriQlkciDACrgfcGgcsbbbBcbbbBdbbbbcbcDDPnbCfbCfbCfbCfb"]⟩,
  ⟨["cased"],
    ["CnBagBaBvbkbebfxbBfbHnbeeIabBkhcBefDsbBqecccebbgbbdbbbubDfbFjiGkbBmjBpEFfBmbbfbcBrbeZwDicgDFu",
     "lfBrcdCmHkCmKscgcBmcgcibbbbbbbBfcCbbhbbddbhdecgenfdbhEmbnbqnDxbebckbbdfgbbbbbbebgebceffebrBgd",
     "cBFlCaCRuIvgedcmBmbbfbBTWcBusBeFcDydebCkccbbbivfbdBFpBrbogDcBEAihmfBNtBagBaBTtDcDsBkeBkEmlbpb",
     "hbcblbpbhbcRjbcdbBqbjBUzBznBzDpwkwEFiCmBGIqCmBMLkDhbCtbccbcccebmbbbhbCnbecibhbBcbebfbbdhbNccz",
     "bzbBfbzbBfbzbBfbzbBfbzbiCSykbuggKbCkDGkCqDAaBagBagBa"]⟩,
  ⟨["caseignorable", "ci"],
    ["BnbgblbBjbbbCtbebbbebccTjHkecebjcbbJrhHzbfbBxBtbbbcbcbbBsblgklbbBjbkvqbDxibkbeBhbbbBeBbDnlCgl",
     "ebcbyyBrdBsbhcfjBpCgCdbbbeiebdhkcnbpbCgbeeibucBabccCfbececcddbBecdblcCfbefbcebucwgbbCgbcbbeib",
     "hclcBebCjbmbBybdbCdbbdfdbehclcBdbCgbcbgbfcucBccCfceeibucBdbCubhdbbDmbchljDubcjjbbhCvcBbbbbbbC",
     "dobfbcflbBkjbDyebgbccczcedqenbccgbpbDqbXkdBKkdBdcBecBecCmcbhibcldbfbBtfBzbCncBibEodecjbgdIlcc",
     "bCgbbhbbbbcigkcbBnbiBfBxeBwbbfbbfbBojmcBgeccbdCebbcdbbdCgiccCmgDedbnbhebgbdcByClnbBiDxRdbbdld",
     "ndndncmfickbcbcfBxfbkbbnbqnBzBhEJrcEjdEvbpbDsBgBvbSbbBkedffbDpgDpdBQBubBWcgKkbDuebkbbBceDccoB",
     "iDabxdDzddcibdbebzcfbFvcBasnbBmizlBudBwbceccrbvcCogccccmbibBjblbBzbbdccfcbbBbbocfcbbDwfjdErbc",
     "bebBDZsbFrrWbqdbmqBibcbGnbhbgblbBjbbbBvbBtcCpbvdTtbIsbFtfBNpgbBqbjWkdbcfeBodebGjcWbeBmbBafbbM",
     "dcDbeCslBxeEtbCcpBpbcckdBxecccbebkbBydBkfbiCkbmcCajkecbDrdcbbcgbcbGbbdivcCfcdbBlhdfCsgnbbbbbo",
     "cDhicdbbxbDggbbecbcJeegcbcBbcDhicbbcEcbbbcgbbDxbbbcebfJzjbcJwcbbebFoeccebBgkBogceibjgcdBunbcP",
     "qhbgbbDewchbcbcEsgdbbcbhbbCucdbbbNjclcCaffbbbxbHXdrgpQYymddDSafChhjeTodBocSobClrCmcbcYGpebhbc",
     "EUgcbeGYuBucxUydjqchBeeFsdCYdCdeByibobwfbpCAihbrchbcbffCkBhbGeoOebCjeTnfJucBCihEfiEBffBSXXpbB",
     "eDsEyJg"]⟩,
  ⟨["changeswhencasefolded", "cwcf"],
    ["CnBaDmbkxbiBgbbbbbbbbbbbbbbbbbbbbbbbbbbbbbbbbbbbbbbbbbbbbbbbbbbbbbbbcbbbbbbbbbbbbbbbbcbbbbbbb",
     "bbbbbbbbbbbbbbbbbbbbbbbbbbbbbbbbbbbbbbcbbbbbbbcbbbcbdcebcbddcbcbbbbbcbbcbbcbdbbbcdbhcbcbcbbbb",
     "bbbbbbbbbbbbcbbbbbbbbbbbbbbbbbccbbbdbbbbbbbbbbbbbbbbbbbbbbbbbbbbbbbbbbbbbbbbbbbbbbbbbbbbbbbbb",
     "bhcbccbbebbbbbbbbJmbBqbbbdbibgbbdbbbcbrbjwbmddcbbbbbbbbbbbbbbbbbbbbbbbbbcccbbbccBzBwbbbbbbbbb",
     "bbbbbbbbbbbbbbbbbbbbbbbbjbbbbbbbbbbbbbbbbbbbbbbbbbbbbbbbbbbbbbbbbbbbbbbbbbbbbbbcbbbbbbbbbbbbc",
     "bbbbbbbbbbbbbbbbbbbbbbbbbbbbbbbbbbbbbbbbbbbbbbbbbbbbbbbbbbbbbbbbbbbbbbbbbbbbbbbbbbbbbbbbbbbbb",
     "bbcBmBwbEFgBmbbfbBFegDFukgBrcdMibbbbbbbbbbbbbbbbbbbbbbbbbbbbbbbbbbbbbbbbbbbbbbbbbbbbbbbbbbbbb",
     "bbbbbbbbbbbbbbbbbbbbbbbbbbbbbbbbbbbbbbbbbbbbbbbbbbbbbbbbbbbbbbbbbbbbbbbbbbbbbbbbbbbbbbbbfccbb",
     "bbbbbbbbbbbbbbbbbbbbbbbbbbbbbbbbbbbbbbbbbbbbbbbbbbbbbbbbbbbbbbbbbbbbbbbbbbbbbbbbbbbbbbbbbbbbb",
     "bbjiigkiiiiglbbbbbbbiiqBwcdcgfdcglemffdcgLlbdcgbBtqtbBFmBaCSuBwBwbbdcbbbbbbebbcbidbbbbbbbbbbb",
     "bbbbbbbbbbbbbbbbbbbbbbbbbbbbbbbbbbbbbbbbbbbbbbbbbbbbbbbbbbbbbbbbbbbbbbbbbbbbbbbbbbbbbbbibbbeb",
     "BTYjbbbbbbbbbbbbbbbbbbbbbbbbbbbbbbbbbbbbbbbbbbbbbtbbbbbbbbbbbbbbbbbbbbbbbbbbbFfbbbbbbbbbbbbbd",
     "bbbbbbbbbbbbbbbbbbbbbbbbbbbbbbbbbbbbbbbbbbbbbbbbbbbbbbbbbbbbbkbbbbcbbbbbbbbebbbcbbbdbbbbbbbbb",
     "bbbbbbbbbbbfbfbbbbbbbbbbbbbbbebbbcdbfbbbbbbbybBIgDcBEAihmfBNtBaBUzBoFgBkGalbpbhbcCQcBzGbwEGoB",
     "gBGJwBgBULkBi"]⟩,
  ⟨["changeswhencasemapped", "cwcm"],
    ["CnBagBaCgbkxbBfbCmbDgbBccoccbbeDpbsgBbbcbbbcdcbebfcbbccbhbcbbcdgfbkcGkbBqeccddbbgbbdbbbubBvdB",
     "hbfbFdiGkbBmkBnEFgBmbbfbcBrcdZwDicgDFulfBrcdHdbdbqbEjGacbbEocgcBmcgcibbbbbbbBfcCbbhbbddbhdecg",
     "enfdbhLlbdcgbBbbrBgdcBFlCaCRuEjbcbchDyhedcmBmbbfbBTWcBusBcFeocCkjpddcfbzbBeccehycBHcbBcDcBEAi",
     "hmfBNtBagBaBTtDcDsBkeBkEmlbpbhbcblbpbhbcCOpBznBzDpwkwEFiCmBGIqCmBUKeCq"]⟩,
  ⟨["changeswhenlowercased", "cwl"],
    ["CnBaDxxbhBhbbbbbbbbbbbbbbbbbbbbbbbbbbbbbbbbbbbbbbbbbbbbbbbbbbbbbbbcbbbbbbbbbbbbbbbcbbbbbbbbbb",
     "bbbbbbbbbbbbbbbbbbbbbbbbbbbbbbbbbbbbcbbbbdcbbbcbdcebcbddcbcbbbbbcbbcbbcbdbbbcdbhcbcbcbbbbbbbb",
     "bbbbbbbbcbbbbbbbbbbbbbbbbbccbbbdbbbbbbbbbbbbbbbbbbbbbbbbbbbbbbbbbbbbbbbbbbbbbbbbbbbbbbbbbbhcb",
     "ccbbebbbbbbbbLdbbbdbibgbbdbbbcbrbjBjbibbbbbbbbbbbbbbbbbbbbbbbfbcbbccBzBwbbbbbbbbbbbbbbbbbbbbb",
     "bbbbbbbbbbbbjbbbbbbbbbbbbbbbbbbbbbbbbbbbbbbbbbbbbbbbbbbbbbbbbbbbbbbcbbbbbbbbbbbbcbbbbbbbbbbbb",
     "bbbbbbbbbbbbbbbbbbbbbbbbbbbbbbbbbbbbbbbbbbbbbbbbbbbbbbbbbbbbbbbbbbbbbbbbbbbbbbbbbbbcBmEHdBmbb",
     "fbBBuDiDGlbgBrcdMibbbbbbbbbbbbbbbbbbbbbbbbbbbbbbbbbbbbbbbbbbbbbbbbbbbbbbbbbbbbbbbbbbbbbbbbbbb",
     "bbbbbbbbbbbbbbbbbbbbbbbbbbbbbbbbbbbbbbbbbbbbbbbbbbbbbbbbbbbbbbbbbbbbbbbbbbjbbbbbbbbbbbbbbbbbb",
     "bbbbbbbbbbbbbbbbbbbbbbbbbbbbbbbbbbbbbbbbbbbbbbbbbbbbbbbbbbbbbbbbbbbbbbbbbbbbbbbjiigkiiiiglbbb",
     "bbbbiiyiiiiiiflflemflfLlbdcgbBtqtbBFmBaCSuBwBwbbdcbbbbbbebbcbidbbbbbbbbbbbbbbbbbbbbbbbbbbbbbb",
     "bbbbbbbbbbbbbbbbbbbbbbbbbbbbbbbbbbbbbbbbbbbbbbbbbbbbbbbbbbbbbbbbbbbbibbbebBTYjbbbbbbbbbbbbbbb",
     "bbbbbbbbbbbbbbbbbbbbbbbbbbbbbbtbbbbbbbbbbbbbbbbbbbbbbbbbbbFfbbbbbbbbbbbbbdbbbbbbbbbbbbbbbbbbb",
     "bbbbbbbbbbbbbbbbbbbbbbbbbbbbbbbbbbbbbbbbbbkbbbbcbbbbbbbbebbbcbbbdbbbbbbbbbbbbbbbbbbbbfbfbbbbb",
     "bbbbbbbbbbebbbcdbfbbbbbbbybBHAhBaBUzBoFgBkGalbpbhbcCQcBzGbwEGoBgBGJwBgBULkBi"]⟩,
  ⟨["changeswhentitlecased", "cwt"],
    ["DtBaCgbBpybibbbbbbbbbbbbbbbbbbbbbbbbbbbbbbbbbbbbbbbbbbbbbbbbbbbbbbbbcbbbbbbbbbbbbbbcbbbbbbbbb",
     "bbbbbbbbbbbbbbbbbbbbbbbbbbbbbbbbbbbbbcbbbbdcbbbcbdbfbcbddcbcbbbbbcbebcbdbbbcbdbbbebbcbcbbbbbb",
     "bbbbbbbbbbbcbbbbbbbbbbbbbbbbbdbbbbdbbbbbbbbbbbbbbbbbbbbbbbbbbbbbbbbbbbbbbbdbbbbbbbbbbbbbbbbbi",
     "bccbbebbbbbbbbgbcbbbcdcbebfcbbccbhbcbbcdgfbkcGkbBrbbbdbddsbBbBjbcddbbbbbbbbbbbbbbbbbbbbbbbfbb",
     "cbcbCaBwbbbbbbbbbbbbbbbbbbbbbbbbbbbbbbbbbbjbbbbbbbbbbbbbbbbbbbbbbbbbbbbbbbbbbbbbbbbbbbbbbbbbb",
     "bbbcbbbbbbbbbbbbcbbbbbbbbbbbbbbbbbbbbbbbbbbbbbbbbbbbbbbbbbbbbbbbbbbbbbbbbbbbbbbbbbbbbbbbbbbbb",
     "bbbbbbbbbbbbbbbbbbbbBxBnFMegDFujbbJebdbqbEkbbbbbbbbbbbbbbbbbbbbbbbbbbbbbbbbbbbbbbbbbbbbbbbbbb",
     "bbbbbbbbbbbbbbbbbbbbbbbbbbbbbbbbbbbbbbbbbbbbbbbbbbbbbbbbbbbbbbbbbbbbbbbbbbbbbbbbbbbbbbbbbbbbb",
     "bbbbbhfbbbbbbbbbbbbbbbbbbbbbbbbbbbbbbbbbbbbbbbbbbbbbbbbbbbbbbbbbbbbbbbbbbbbbbbbbbbbbbbbbbbbbb",
     "bbbbbbbbjigkiiiigkiiiiociiiiiifbcgbddbciecciikdbcNebBhqebBGlBaCTqBwbbdcbbbbbbgbcbkbbbbbbbbbbb",
     "bbbbbbbbbbbbbbbbbbbbbbbbbbbbbbbbbbbbbbbbbbbbbbbbbbbbbbbbbbbbbbbbbbbbbbbbbbbbbbbbbbbbbbbbibbbe",
     "bmBmbbfbBTWdbbbbbbbbbbbbbbbbbbbbbbbbbbbbbbbbbbbbbbbbbbbbbtbbbbbbbbbbbbbbbbbbbbbbbbbbbFfbbbbbb",
     "bbbbbbbdbbbbbbbbbbbbbbbbbbbbbbbbbbbbbbbbbbbbbbbbbbbbbbbbbbbbbbbbbbbbbkbbbcbbbbbbbbbebebbccbbb",
     "bbbbbbbbbbbbbbbblbbbbbbbbbbbbbbbebbbcbdbfbbbbbBabBHcbBcDcBEAihmfBOzBaBVhBoFgBkFzlbpbhbcCRbBzE",
     "vwEGoBgBGJwBgBULmBi"]⟩,
  ⟨["changeswhenuppercased", "cwu"],
    ["DtBaCgbBpybibbbbbbbbbbbbbbbbbbbbbbbbbbbbbbbbbbbbbbbbbbbbbbbbbbbbbbbbcbbbbbbbbbbbbbbcbbbbbbbbb",
     "bbbbbbbbbbbbbbbbbbbbbbbbbbbbbbbbbbbbbcbbbbdcbbbcbdbfbcbddcbcbbbbbcbebcbdbbbcbdbbbfcbcbcbbbbbb",
     "bbbbbbbbbcbbbbbbbbbbbbbbbbbcbcbbdbbbbbbbbbbbbbbbbbbbbbbbbbbbbbbbbbbbbbbbdbbbbbbbbbbbbbbbbbibc",
     "cbbebbbbbbbbgbcbbbcdcbebfcbbccbhbcbbcdgfbkcGkbBrbbbdbddsbBbBjbcddbbbbbbbbbbbbbbbbbbbbbbbfbbcb",
     "cbCaBwbbbbbbbbbbbbbbbbbbbbbbbbbbbbbbbbbbjbbbbbbbbbbbbbbbbbbbbbbbbbbbbbbbbbbbbbbbbbbbbbbbbbbbb",
     "bcbbbbbbbbbbbbcbbbbbbbbbbbbbbbbbbbbbbbbbbbbbbbbbbbbbbbbbbbbbbbbbbbbbbbbbbbbbbbbbbbbbbbbbbbbbb",
     "bbbbbbbbbbbbbbbbbbBxBnEHcBrcdBDggDFujbbJebdbqbEkbbbbbbbbbbbbbbbbbbbbbbbbbbbbbbbbbbbbbbbbbbbbb",
     "bbbbbbbbbbbbbbbbbbbbbbbbbbbbbbbbbbbbbbbbbbbbbbbbbbbbbbbbbbbbbbbbbbbbbbbbbbbbbbbbbbbbbbbbbbbbb",
     "bbbbbbbbbbhfbbbbbbbbbbbbbbbbbbbbbbbbbbbbbbbbbbbbbbbbbbbbbbbbbbbbbbbbbbbbbbbbbbbbbbbbbbbbbbbbb",
     "bbbbbbbbbbbbbjigkiiiigkiiiiocCbbcebbbddbcebdecciikdbcebMzbBhqebBGlBaCTqBwbbdcbbbbbbgbcbkbbbbb",
     "bbbbbbbbbbbbbbbbbbbbbbbbbbbbbbbbbbbbbbbbbbbbbbbbbbbbbbbbbbbbbbbbbbbbbbbbbbbbbbbbbbbbbbbbbbbbb",
     "bibbbebmBmbbfbBTWdbbbbbbbbbbbbbbbbbbbbbbbbbbbbbbbbbbbbbbbbbbbbbtbbbbbbbbbbbbbbbbbbbbbbbbbbbFf",
     "bbbbbbbbbbbbbdbbbbbbbbbbbbbbbbbbbbbbbbbbbbbbbbbbbbbbbbbbbbbbbbbbbbbbbbbbbbbkbbbcbbbbbbbbbebeb",
     "bccbbbbbbbbbbbbbbbbbbblbbbbbbbbbbbbbbbebbbcbdbfbbbbbBabBHcbBcDcBEAihmfBOzBaBVhBoFgBkFzlbpbhbc",
     "CRbBzEvwEGoBgBGJwBgBULmBi"]⟩,
  ⟨["dash"], ["BtbCAubBzbFKjbBNpbDBdgCjbBnbpbPabEOibcbBfcebBcbRebtbEhbCZWacBlbkbGnbFLobMgb"]⟩,
  ⟨["defaultignorablecodepoint", "di"],
    ["GrbZxbBBobEGwcCKhcDhfDApfBafBxqGKybCZMpqJfbGebDbjCTLneHWxiBTKZlGBo"]⟩,
  ⟨["deprecated", "dep"], ["MrbBYvbDKtbbbDCjcDIjgBAvcBZRYkb"]⟩,
  ⟨["diacritic", "dia"],
    ["DqbbbCtbgbebccTjGdbifgrcebjcJtfIbbCdrbBbbbbcbbFeiecFececddCpBbDnlCglBicEwiBpkqBcCjbqbdeBcbCwb",
     "qbEgbqbEgbqbBvdCibqbhbEpbEgbqbEgbqbEfcqbEubEhbmgbbEdbnfCxcBbbbbbbecCodbcCkbEibbcBocefzhbbkcBB",
     "ddBKmcBebFsljbNjdLgbuicbBwpclEabpbBmjCccCgblcCocCmgDezebgbcdByClDlmBllRdbbdldndndncEXkdMfbTmg",
     "EbeDrbBSMkbmcbbBccDecoBiDydEfcmbBlbFvbBbsCfeBkbDrbmbBkbFtdCneBzbDwfjdEycBDZsbBDpqKkbbbBvbBtcC",
     "pbBDkbBTngbBqbjYndebGjcVzgBmbBafPjdCslBxeHkbBpbCucEqcCkbCybjdEacGwcDccqbyhdfDldbcncDrbdbEtcJr",
     "cEwbEocElbKjcJycebGabDfbsbDdbQfbJybbcDdbQjcxbHYapQZpbDSafChhVscVarDccYGcebhbcLThBucxUyddgiich",
     "BeeFMwCkHmhOlbCjeBDmcBCihEfdbd"]⟩,
  ⟨["emojimodifierbase", "ebase"],
    ["OLhbIlbqeGSJvbCidcbcdEncclvtdbedbdhbbbybHtcebvbecGsddfDfbqdjblbWdbcbiigbjkcdCebCjcbcbbrdbnIvd",
     "Bqj"]⟩,
  ⟨["emojicomponent", "ecomp"], ["BjbgbfkMBjbIfbDFTrbDOIwBaTnfCEaeBSVUqDs"]⟩,
  ⟨["emojimodifier", "emod"], ["HHIxf"]⟩,
  ⟨["emoji"],
    ["BjbgbfkEhbebLYrbmbIibwbDmgpcOdcmbGkbzledHrbIxckbjbCgebfjbcbcccbebcbbccbdbdcidfbbbfmlccbbcbbsb",
     "ccsgbbbcdcfbcceclcfccbfcbbbcucfgbecbebcbcgbbcbbbbbgbdbgbkcpbcbebbbedbblcBwdjbobobOicRvdtcBzbe",
     "bBVubmbXdbbbGMRqbHubGecmcobckCxBabcxbubcjvcGsBicEiccbdcDfcdbKdbCllgbyhccimbcecbecnccbicjbfdmd",
     "idcbbbebgbdbgDiBwCsficdekdbbcdbckItmebKxBvbkbHdEindkfCehpclgj"]⟩,
  ⟨["emojipresentation", "epres"],
    ["NHqcHxedbcbUbcvcBymBrbtbnbicrcfcibfbvbhcbbebcbhbecBcbBjbbbedbbCjdybobBHbcBzbebGPLebHubHibckCx",
     "BabbybubcfbdvcGsBhmjbCsbwmBrefmrdbdCtbbbHfcClnebysbBacnbDiDhBwCsgbddcdeelchjItmebKxBvbkbHdEin",
     "dkfCehpclgj"]⟩,
  ⟨["extender", "ext"],
    ["HbbUqcBHubQzbYgbFhbDlbBCybExbDNfbCebXnbPibCqbHKjbBrfDzcDpdBQBubCGsbBLabwbFhbEebvcBFZvbDBkcCFb",
     "bBbbebBVbbLhbEmcTedBVjbBEOfcBTkcbbBQYacBUfbBGud"]⟩,
  ⟨["extendedpictographic", "extpict"],
    ["GnbebLYrbmbIibwbDmgpcOdcmbDrbCsbzledHrbIxckbjbCgebgbmbEkkEoclbbbbgbdbgbkcpbcbebbbedbblfBtdjbo",
     "bobOicRvdtcBzbebBVubmbXdbbbGMRmJwndBfbCigmcobcksCfBbpkbubcjbejQsfMgiKgBwEyEmmDhBrmeCeikgBoiBe",
     "DemBvbkbQzJwBNi"]⟩,
  ⟨["graphemebase", "grbase"],
    ["BgDrBhnbWwEiicgehbbbubIqhGkbBmcBycdBubbbcbcbjBbegrklbbBuvqbDxibgccbeBgcbbBeBdDllboBrjhdyebjbd",
     "bhpbzfbblfBfrBqCfCdbbbeiebdhkcBdbcbicccwbhbbdedbbcgcccbbncbdeyfbbgeccwbhbcbcbcedyebbhkcdbbmbb",
     "jbdbwbhbcbfdeibbcdbpcemhbicbicccwbhbcbfdbcbgcccpcbdeslbbgddbedcbbbcdcdddmfbbcddbddbvvgdbibdbx",
     "bqdbdetdcbccekhkblbdbxbkbfdccbbcycbcekbdolbdbBpcbbcfdbdbcedbkeBaccbsdybjbbchjcghhkcdmBwbcliin",
     "BlcbbbfbybbbkbcjbcfbbjkceBgycBbbbbbbobBksbfbcfBxibgbnBlBtebgbccczcedqenbccgbpbBobbfbcOnbechbb",
     "becBpbecBhbechbbbecpbCfbecCpfBddBagDicgcZtdDlhsntdcjsonbdpCacbhibcljdkgkglfkgDlhfcBibbfCskBfe",
     "ecdecbghbdBqcflBseBagldCfccdCebbjbbcignkgkgoDiBwkedibBdjmcBgecgCebbcdbbnBwicfpdCkfBrcllbnbheb",
     "gbdcbfHkCmKscgcBmcgcibbbbbbbBfcCbbpbocgbtcdbjblfyhBxqccBbbndBhClFkeZqwlvCRscBgbNgdcfBtbbfbcCe",
     "hcpxjhbhbhbhbhbhbhbhBhDqBiBabDlmIgBaCggqbDieDxfBrbDqbDijBwbBRIrdCdjNkuBvebkBgcDccgiHyccbbbivq",
     "bdbebzcfekgCeiCqkmynbBmizlbmBegBwbcecccbnblehbzbBpgcccldbibbckcBgbBzbbdccfcbbbyrcilgcgcgjhbhb",
     "CieEnbcbedkgQNsmxeBxMNcOccEcBmhmffbbybfbbbcbcbEvqRdcCchbBgqqkwBjbtbeefbFfeGbcBfdgcgcgcddhbhnc",
     "cmbBabtbcbpcoBiEtfdeBtdDkbndbBvBtFbBddBxqBbeBkjBefBmkBebBleoBqGcckgBkeBkeBoiCalmbpbhbcblbpbhb",
     "cdCamLzjwkiygbBqbjCrgcbbBsbcdbcxbCuijBwtbcfBhdBbfbCmCeeucBvpebdbBdkjhjhCmBgBlgmjCcdBdcBbfBahe",
     "mhDcCvCdBznBzhBqmkgBmiyicIaBfbBqdbccqdChBoiwljwseeBmBcuxjbbCcpheBebccbmBxecccbeozhkjBkfbjsiBj",
     "bdlCajbbiecbqbulsbBcdcegbcClhbbbebpblgBvbdnkicbicccwbhbcbfdbbbbeccccdbmhBckbbcbbBmbbbcpbbcdbb",
     "dbcBnCeicdbbvbbbdBeBwbcgbbcbbcbceikGkBvbcgecbcBbBkBzicbbcelkgntBrbbbcicgkguBcBbdbbcebjxHdBvjb",
     "cbDwDfmicbcibcbybfbcgebdjkCsicBqiebeBbbkBogceijbgcdBunbcjnCvhkHaBiokgjbBmobbgkBddBgzbhbcbCxhb",
     "cbBmvbjkggbcbBlecbbbbhkLytcejpbBkicdxDibpBynBJnDyEhbflHoDXkDvnBPgrgzFXrfWlKDdBemddkCOsVxhBfbk",
     "eDdbkgBehbkBwhpkkbhbvftQqCgHqDnDxCxfCelnCmeBcJCaiBVqBpkNFrebhbcbLfpbBddcboeiPgDKuEdfndjhkcbcb",
     "FVkJqgQuGaEmCiJmkBncCifdwchBeeCjvCodbEsumumDjjzFfDhbCtbccbcccebmbbbhbCnbecibhbBcbebfbbdhbNccL",
     "gcVqCdeByibobhBRwBfggKbCkFqBtkhckecMiBesBsekfbRwBcekIgBeclebSmhbebcbpbHpcjBwCqhbekecBEfCqCyCj",
     "HmebBbbcbbcbbkbebbbbgbebbbbbbdbcbbcbbbbbbbbbbcbbcebhbebebbbkbrfdbfbrCacKkBseDwmpcpbpbBlkGsCeB",
     "dnBsejhcogFyBLwerdndEpeDrgmebpmeCeikgBoiBecmecCkNcmocndkfCehpclgjhFrbDyBNqCLFcBgGDugIocINqoLB",
     "lpXyDQwUwCFyHHzfGFg"]⟩,
  ⟨["graphemeextend", "grext"],
    ["BDoEiKphKdBtbbbcbcbbCulBwvqbDxhcgccbeBjbBeBbDnlCgjjbyebjbdbfBrdChjBqybBgCdbbbeiebdhkcBdbCgbbb",
     "ceibjbkcBabccCfbececcddbBecdblcCfbefbcebucwgbbCgbbcbeibhdkcBebChbbbmbjbBobdbCdbbdfdbehclcBdbC",
     "gbccbbddbehclcBccCfcbbceibjbkcBdbCubebcdbbibDdbchmiDubcjlhCvcBbbbbbbCdobfbcflbBkjbDyebgbccczc",
     "edqenbccgbpbBBbdBKkeBcdBdcBecCmcbhibcljbBtdbbEncBibEodecjbgdIlccbCgbbhbbbbcigkcbBwBfBxeBwkedB",
     "mjmcBgecgCebbcdbbfCeiccFwdbnbhebgbdcHqCmUebHnBhEOcdFlbDsBgVigEbcBSQeebkBgcDccKmbdbebzcfbFvcBa",
     "snbBmizlbbBsdBwbcecccbBkbCpgccccmbibBvbBzbbdccfcbbBqcibJebcbebBDZsbBCjqqqOccXhbIsbFtfCMgdbcfe",
     "BodebGjcWbeCnfMfcDbeCslBxeEtbCcpBpbcckdBxecchbCjdBkfbiCkbmcCajbbiecbDrdcegbcbGbbdivcCfcbbbbmb",
     "jbohdfCpbcgbbcbbdedbbocDhicdbbxbDdbcgbbcbbcbcJbbcegcbcBbcDhicbbcEcbbbciDxbbbcebfJzjbcJlbkeebF",
     "oeccebBgkBogceibjgcdBunbcPqhbgbbDewchbcbcEsgdbbcbhbbCucdbbbNjclcCaffdxbHXtbgpQYymddDSafChhBOi",
     "bCleDdblcBDAxcGYzBucxUwfdgiichBeeFsdCYdCdeByibobwfbpCAihbrchbcbfDwbGehOlbCjeToeJucBCihEfhBTCA",
     "fDsEyJg"]⟩,
  ⟨["graphemelink", "grlink"],
    ["DNpbExbExbExbExbExbExbExbEfcqbEubEhbExbHtbGycCPlcBebGbbZdbItbDxcCscGQtbBUKkbBlbFvbFmbEebLxbJm",
     "bBJSrbCHibBpbobCfbErcFjbEmbGybDubEydEjbExbJsbExbEobEmbKjbJzcGfbDfbsbDdbQfbKacDdbQjcYZcb"]⟩,
  ⟨["hexdigit", "hex"], ["BwkhgBagDSLlkhgBag"]⟩,
  ⟨["hyphen"], ["BtbExbBVwbGZzbDBdcFIbbBClbCZUlbGnbDjb"]⟩,
  ⟨["idcontinue", "idc"],
    ["BwkhBaebbBaBvbkbbbcbfxbBfbRqemofhbbbrEnbccebbgfbbbubDfbFjbfcGkbBmcbgBpiBtbbbcbcbbiBbeeBdlfCwe",
     "DybickbtcbqChcDxoCcebcbcBusBcelfybgiCxbEzckbtbicccwbhbbdecjccceibecbfcmkbbbcdbgeccwbhbcbcbccb",
     "bfeccddbhebbhqldbjbdbwbhbcbfckbdbdcbpeckjhbdbicccwbhbcbfcjcccdhdecbfckbbqcbgddbedcbbbcdcdddme",
     "fddbecbgbokqnbdbxbqcjbdbehcbdcbceckqebibdbxbkbfcjbdbehcgcbeckbdmnbdbBzbdbffehfckkgbdbsdybjbbc",
     "hdbegbbbigkccnCgfpbkBncbbbfbybbbxcfbbbhbkceBgbxcgklbbbbbekbBkeubsbBkjbCfCwgDacBmbbfbcBrbMvbec",
     "hbbbecBpbecBhbechbbbecpbCfbecCpcdjjoqqDicgdXwcrbBafCxdlhwjwlumnbdbcmDgdbecckBhdblgDlhBrfCskBf",
     "bmemkBocflBseBaglBlBceClbBdclgknbiobqBxCzdkrjmEmmCeikdBxclfBrcdqdbBnfUocgcBmcgcibbbbbbbBfcCbb",
     "hbbddbhdecgenfdbhpcBxctbBcbnbqnBznebdmrbebckbbcggbbbbbbqceffebrBpDZbIvgjmBmbbfbcCehbpyjhbhbhb",
     "hbhbhbhbhbBgTxdzpbfcfeDichbDrfBrbDqrBgBwqTsJToCmBGUfCpBucKjdBcuBwekbElBljcDzcCpccbbbivCcebtCa",
     "mCskkgydbbBxcBkmBddCnolgBfbCdjockgxdCvydcqcfkgcgcgjhbhbBrbogEtbcckgQNsmxeBxMNcOccEcBmhmffmbnb",
     "fbbbcbcbEeBhNzsCmcCcBomeqqqdcydBgfbFftkhBaebbBakDmdgcgcgcdBjmbBabtbcbpcoBiEtCrCbFgbFaBddBxpbB",
     "fBgnBefBrfBecBkeibfBqGcckgBkeBkeBoiCamlbpbhbcblbpbhbcdCamLzjwkiygbBqbjCrgcbbBsbcdbcxkxjBfCntb",
     "ckwkBaCsCegcCmebcfibdbBdcdebBgBddBdBjibBezCckwktnsEgCvCdBznBznBoikgBmdfbxJqBqbcdcqdCdBhkbiBhB",
     "fwBqvBbxjCtBfqjCihbnzhkgCbbkeeiBkcbjCreebnbbBjsbBlgeCkhbbbebpbkhChfkgebicccwbhbcbfbkcccdcbgbf",
     "hchdflkbbcbbBmbkbbcbbebincBdCxfkeeBeCsbbikGkCccjxgBiCndblkBmCfhkguBcBbcpekghHdChDxCwvicbcibcb",
     "BebccjmkCsicBucibcBbClibiCwdbsCvHrBhpkgjbBtbjpkyBecwboCvhbcbBsdbbcbjikggbcbBlbcbghkLyxjrbBpdf",
     "nlDhbDbBJmDyEhrHoDXkDtpBPgqwkFXrfWlKDdCgCOsVxhBfbkgDbbkgBecflCdjemkjvftQqBtdkHqCmEyCxeCfhrCmc",
     "bclcoJCaiBVqBpkNFrebhbcbLfpbBddcboeiPgDKuEdfndjhkdcGErkTyBucxUwfdgiichBeeFsdRbDhbCtbccbcccebm",
     "bbbhbCnbecibhbBcbebfbbdhbNcczbzbBfbzbBfbzbBfbzbBfbzbicByTsCdeByibobwfbpBQmBfggIfhbrchbcbffCkB",
     "hbEiBtdockebMjBfrCgScBqIgBrSrhbebcbpbHplhBpCyekBTuebBbbcbbcbbkbebbbbgbebbbbbbdbcbbcbbbbbbbbbb",
     "cbbcebhbebebbbkbrfdbfbrFAakBNqCLFcBgGDugIocINqoLBlpXyDQwUwCFyHHzfGFgBONHgJg"]⟩,
  ⟨["idcompatmathcontinue"], ["GwcfbMAgbdlbpOhbebwbGJJebzbBfbzbBfbzbBfbzbBfbzb"]⟩,
  ⟨["idcompatmathstart"], ["MWwbebwbGJJebzbBfbzbBfbzbBfbzbBfbzb"]⟩,
  ⟨["ideographic", "ideo"],
    ["SEwczjodBLdJToCmBFBkBHSiOccEcBSIkbBbJCaiBVqBpkNUlPgBDEiCLFcBgGDugIocINqoLBlpXyDQwUwCFyHHzfGFg"]⟩,
  ⟨["idstart", "ids"],
    ["CnBagBaBvbkbebfxbBfbRqemofhbbbEzfbccebbgbbdbbbubDfbFjiGkbBmcbgBpCtBbeeBtBrBjcbDvbbpchckdcbqbb",
     "BeBdDllbyBhjcebfwebjbdbxzhlfybgrBqCgCcdbsbhkpqeicccwbhbbdedbqbncbdockbigeccwbhbcbcbcBfebbtdqj",
     "bdbwbhbcbfdbsbpcxblicccwbhbcbfdbBecbdpbrbbgddbedcbbbcdcdddmwbCaibdbxbqdbBadcbccBebeibdbxbkbfd",
     "bBfcbcpcrjbdbBpcbqbfdidygfsdybjbbchCgBwbcmhCgcbbbfbybbbkbcjbcfbbveBgbClibBkBbfElBrubqgeedbdch",
     "denmbrBmbbfbcBrbMvbechbbbecBpbecBhbechbbbecpbCfbecCpBlqqDicgdXwcrbBafCxdlhsntosonbdpCaBjbebCp",
     "DlhBpbbfCskBfBxBecflBseBaCcxjCbDebDpBvriCcBenckBsBaBkBpdkBkclfBrcdBpebgbcdbfHkCmKscgcBmcgcibb",
     "bbbbbBfcCbbhbbddbhdecgenfdbhEmbnbqnDxbebckbbcggbbbbbbqceffebrBpDZbIvgedcmBmbbfbcCehbqxjhbhbhb",
     "hbhbhbhbhVedzjhfcfeDiefbDmbefBrbDqrBgBwqTsJToCmBGUfCpBucKjdqkcuBvqBfcDcBnjcDzcCpccbbbivqbdbeb",
     "xBdCaoByCkgdbbclBckxzBdhBvBcbqfbkkfbBpxdbiuxdbdBybbdccfcbbbydclhdmgcgcgjhbhbBrbogElBdQNsmxeBx",
     "MNcOccEcBmhmffbbkbnbfbbbcbcbEeBhNzsCmcCcBomEmfbFfBkBagBalDldgcgcgcdBjmbBabtbcbpcoBiEtCrCbKhBd",
     "dBxBvBgnBefBmkBecBkeibfBqGcsBkeBkeBoiCamlbpbhbcblbpbhbcdCamLzjwkiygbBqbjCrgcbbBsbcdbcxkxjBfCn",
     "tbckwkBaCsCegcCmbpebdbBdBqBddBdBjibBcBbCckwktnsEgCvCdBznBznBkBmBcjxJqBqgcqdChBdkbiwBqsBuvBbxm",
     "CbCfccbnBtBgzBaBkBdbcbiBjdbmBwoevbbbBjsbztcClhbbbebpbkhBvBmicccwbhbcbfdbsbmfBekbbcbbBmbbzbbbB",
     "sCbseudBeBwucbbHcBvBpeBkBwubChBrnbCtBbBlhHdBsEmCmBficbcibcbypbbbDqicBnqbbbBcbkBohbvblButbsCvH",
     "rBhBfjbBlrbBxBeEihbcbBmvbzgbcbBgobMptpbbnbBiEubDbBJmDyEhrHoDXkDtpBPgrgzFXrfWlKDdBeCPuVxhBfrDb",
     "rBesBwqeBfvftQqBtIdCmEyCxfbConCmcbbBcJCaiBVqBpkNFrebhbcbLfpbBddcboeiPgDKuEdfndjhkIWkDhbCtbccb",
     "cccebmbbbhbCnbecibhbBcbebfbbdhbNcczbzbBfbzbBfbzbBfbzbBfbzbiCSyBfggKbCkFqBtkhqbMjBesBsSqBcIuBe",
     "cbTbhbebcbpbHpChCqhbBUiebBbbcbbcbbkbebbbbgbebbbbbbdbcbbcbbbbbbbbbbcbbcebhbebebbbkbrfdbfbrGOaC",
     "LFcBgGDugIocINqoLBlpXyDQwUwCFyHHzfGFg"]⟩,
  ⟨["idsbinaryoperator", "idsb"], ["SEacckTdb"]⟩,
  ⟨["idstrinaryoperator", "idst"], ["SEcc"]⟩,
  ⟨["idsunaryoperator", "idsu"], ["SEoc"]⟩,
  ⟨["joincontrol", "joinc"], ["MDoc"]⟩,
  ⟨["logicalorderexception", "loe"], ["FKifEtfEDsdcbCCXmccbbc"]⟩,
  ⟨["lowercase", "lower"],
    ["DtBaBvbkbebBkybibbbbbbbbbbbbbbbbbbbbbbbbbbbbbbbbbbbbbbbbbbbbbbbbbbbbbbbcbbbbbbbbbbbbbbbcbbbbb",
     "bbbbbbbbbbbbbbbbbbbbbbbbbbbbbbbbbbbbbbbbbcbbbbdcbbbcbdcebcbddcbcbbbbbcbbcbbcbdbbbcccdgbcbcbbb",
     "bbbbbbbbbbbbbcbbbbbbbbbbbbbbbbbccbbbdbbbbbbbbbbbbbbbbbbbbbbbbbbbbbbbbbbbbbbbbbbbbbbbbbbbbbbbb",
     "bbhcbccbbebbbbbbbbCrbBkhcBefDsbBrbbbdbcesbBbBjbcddbbbbbbbbbbbbbbbbbbbbbbbfbbcbccBzBwbbbbbbbbb",
     "bbbbbbbbbbbbbbbbbbbbbbbbbjbbbbbbbbbbbbbbbbbbbbbbbbbbbbbbbbbbbbbbbbbbbbbbbbbbbbbcbbbbbbbbbbbbc",
     "bbbbbbbbbbbbbbbbbbbbbbbbbbbbbbbbbbbbbbbbbbbbbbbbbbbbbbbbbbbbbbbbbbbbbbbbbbbbbbbbbbbbbbbbbbbbb",
     "bbbBwBpEHbBrbeBDggDFujbbEnHkCnbbbbbbbbbbbbbbbbbbbbbbbbbbbbbbbbbbbbbbbbbbbbbbbbbbbbbbbbbbbbbbb",
     "bbbbbbbbbbbbbbbbbbbbbbbbbbbbbbbbbbbbbbbbbbbbbbbbbbbbbbbbbbbbbbbbbbbbbbbbbbbbbbbbbbbbbjbbbbbbb",
     "bbbbbbbbbbbbbbbbbbbbbbbbbbbbbbbbbbbbbbbbbbbbbbbbbbbbbbbbbbbbbbbbbbbbbbbbbbbbbbbbbbbbbbbbbbjig",
     "kiiiigkiiiiociiiiiifbcgbddbciecciikdbcErbnbqnEfbdcdbBbbebebccieebBhqebBGlBaCTqBwbbdcbbbbbbebb",
     "cbidbbbbbbbbbbbbbbbbbbbbbbbbbbbbbbbbbbbbbbbbbbbbbbbbbbbbbbbbbbbbbbbbbbbbbbbbbbbbbbbbbbbbbbbbb",
     "bbbbbbbbbchbbbebmBmbbfbBTWdbbbbbbbbbbbbbbbbbbbbbbbbbbbbbbbbbbbbbbbbbbbbbtbbbbbbbbbbbbbbbbbbbb",
     "bbbbbbdFdbbbbbbbbbbbbdbbbbbbbbbbbbbbbbbbbbbbbbbbbbbbbbbbbbbbbbbbbbbbbbbbbbbbbbbbbbbkbbbbcbbbb",
     "bbbbbebbbcbbdbbbbbbbbbbbbbbbbbbbbfbfbbbbbbbbbbbbbbbebbbcbdbbbbbbbbbbbwdbbbdBFpBrbogDcBEAihmfB",
     "OzBaBVhBoFgBkFzlbpbhbcRjbcdbBqbjBXlBzEvwEGoBgBGJwBgBMMkBaBahbsBaBaBaebbbhblBaBaBaBaBaBaBaBaBa",
     "BaBaBaBaBaBaBaBaBcBczbgBazbgBazbgBazbgBazbgbbCSykbuggKbCkDHsBi"]⟩,
  ⟨["math"],
    ["BrbqdBfbBdbbbBtbebBlbBfbBCadcbBaccdUhdJWnbBbdlbdbnboevflfCnnebdcefsbebckbbcggbdcccbdbgdobbCqy",
     "bgbceceBgbbgcoKiieucDmbBeBbbbyblhRdcmkegecccdfobbbcglifcCfbbbBdejdMyCmJwTsBwvcgDASqbBFrgbbGgb",
     "qdBdbbbBdbbbFbbgeFEfcCXDwDhbCtbccbcccebmbbbhbCnbecibhbBcbebfbbdhbNccLgcByIIqebBbbcbbcbbkbebbb",
     "bgbebbbbbbdbcbbcbbbbbbbbbbcbbcebhbebebbbkbrfdbfbrCac"]⟩,
  ⟨["modifiercombiningmark", "mcm"], ["CKiccbFbbgbdcSncbddbBfb"]⟩,
  ⟨["noncharactercodepoint", "nchar"],
    ["DSDcBgUgcDSYocDSYocDSYocDSYocDSYocDSYocDSYocDSYocDSYocDSYocDSYocDSYocDSYocDSYocDSYocDSYoc"]⟩,
  ⟨["otheralphabetic", "oalpha"],
    ["BGfbBdnWeobbbcbcbbCulBwnbhqbDxheeccebBjbBeqDylDxcdjbdbeEcbCimdhguCcccpbcfdkcBddCghcccckbkcBdd",
     "CgfecccebBecdbldCgibdbcvcwdedCghccccjckcBebChfddbdkbBofCfhbdbdiclcBddCghbdbdiclcpbmeCghbdbdkb",
     "kcBddCxgbbbiscCjbchsbDvbcgbcqbGhtjlbBkEgmbbcexeedbdchdenmbbkeCLocBecBecBecCotHgcBibEomejIofCf",
     "kcuCwcldBxfBwpCidBejccCflBytPwBiCOnCaDKgBgBTQaiBicNqbibxfDkcByqbbCfbBmfBcmBteBwmBlbCpombicBtd",
     "BybbdccfbBsffbJdiBDZvbDEdfCMgdbcfeBEieCnbMjcDbbJzdCboBtcldBtjjbCjdBkmscCfdBwnocDojcbgbcbGbkxe",
     "CghcccckbkcDgjbbcbbebcDznbdEcsJdhchBdcDepbbEclDzoJxnJngbcccdbbbFmhcgebBckBqfbeslBuoPribhDfwbo",
     "EsgdbbcbdbbdbCofbcbeNkejcbbBwhddYYnrFJcbbCdheDpcBDAybNKjhbrchbcbfDwbDHvbCZwBagBagBa"]⟩,
  ⟨["otherdefaultignorablecodepoint", "odi"], ["BGpbFIlcCKhcDHnbGLibDACpbDbjBWMIhbbBeDsEyJgFIm"]⟩,
  ⟨["othergraphemeextend", "ogrext"],
    ["DRybybNubybDybybIybbbecbcjcDzbybEpbpbDMrbBebBNkbfbbbfcDxbCtcBOibGCvcBTWtbEebBGNlcGWmbEmbKebob",
     "jbDsbjbcbbdfbIqbmbJhbKcbYjbmbCHfbBEOkcBKXncggBTLAzDs"]⟩,
  ⟨["otheridcontinue", "oidc"], ["HbbBBrbGAjjCLcbCIzcGKrbDAEjb"]⟩,
  ⟨["otheridstart", "oids"], ["JHlcDGjbvbFVwc"]⟩,
  ⟨["otherlowercase", "olower"],
    ["GobpbThjhcBefDsbCabFCzbEPzClnbBiBlBAnbnbqnIdqBGqBaCWocBUGkcIcbEzddcBHiejbBIWsbcdbBqbjDDZhCk"]⟩,
  ⟨["othermath", "omath"],
    ["DqbBHxdcbBacccKQybBbdlbBgeycocCnnebdcefsbebckbbdfgbdcccbdbgdeffCxfcebcbcbbbfccecesccbbbhbbgcL",
     "eeGmcbbybrbRdcmjfffcccdfobbbcgycCfbbbBdejcNecBfkPnwCleBgcDCLfbbbebIdbbbDCOvDhbCtbccbcccebmbbb",
     "hbCnbecibhbBcbebfbbdhbNcczbzbBfbzbBfbzbBfbzbBfbzbicByIIqebBbbcbbcbbkbebbbbgbebbbbbbdbcbbcbbbb",
     "bbbbbbcbbcebhbebebbbkbrfdbfbr"]⟩,
  ⟨["otheruppercase", "oupper"], ["MQqqBGgBaGSIyBagBagBa"]⟩,
  ⟨["patternsyntax", "patsyn"],
    ["BhpkhBaebbBaeBihbbbcbbbcebebdbxbBfbLUeyipctbkLtBBsGeYgBeBRoTsEyOvdezpbCZQzcKbc"]⟩,
  ⟨["patternwhitespace", "patws"], ["jfsbDwbLYmcyc"]⟩,
  ⟨["prependedconcatenationmark", "pcm"], ["CHcgIhbBxbOucDcbDVXybpb"]⟩,
  ⟨["quotationmark", "qmark"], ["BibebFbbpbLWuizcFIdbRpendDABpeHhbebDmc"]⟩,
  ⟨["radical"], ["RPwBabDlmIg"]⟩,
  ⟨["regionalindicator", "ri"], ["HGOkBa"]⟩,
  ⟨["softdotted", "sd"],
    ["EbcHobKvbBebCabubMibDubbbJMnbBzbnbdbFcbGbbQfbIgcEGgbGELhcBycBycBycBycBycBycBycBycBycBycBycByc",
     "DFybLtcBab"]⟩,
  ⟨["sentenceterminal", "sterm"],
    ["BhbmbqbCAbbFrdGybBrdJmbCjbbbdcLhcCPwcBEkbecBDtbHqcGbcBtbfbMccNqeGgckcccBddHfcCncBJwbxcjdEUxdL",
     "ubnbwcQnbBSHwbKkcItbdbOscDicDrbFwcFrdFocJpbBFCwbccChbdcGnbmbqbCnbEDwcBXdfBseHhcEneExdEzcgbqcD",
     "kcbcEebLmcEncOjcfpEbcJpdTxbbbJrcDjcQecBAqcCwcBCMbcFdbCnclbVhcLkbBDOgbLImb"]⟩,
  ⟨["whitespace", "wspace", "space"], ["jfsbDwbBabIHjbDPnlBdcfbBvbFXwb"]⟩,
  ⟨["terminalpunctuation", "term"],
    ["BhbkbbblcdbBFybibTtbCfbCubobbdGybBrlbbJbcCcgbiBfbKbcBWucGqbegLzcBEjiBDtbEudCtcGbddbBneccMccNq",
     "eGgckcbdBddHffCkcBJwbxcjdEUxdLubnbebkbbcdcQmcBSHvcKjdItfOscDicDrbFvdFrdExbqcJpbBFCwbccCfdbeGn",
     "bkbbblcdbCnbcbBPqbBwbBSobHrbLycFwgCqgDleBKqfBseHhhEieExdEzcgbqcDkfEebLmcEndmcNuedpEbcJpdTxbbb",
     "JrcDjcecPydBtbYvcCwcBYxfBAMzcFdbCndkbVhcLjcBDOgbLIle"]⟩,
  ⟨["unifiedideograph", "uideo"],
    ["TSaJToCmBFBkBICscbbbckbbbbccdDVEcCLFcBgGDugIocINqoLBlpXyGRqHHzfGFg"]⟩,
  ⟨["uppercase", "upper"],
    ["CnBaDxxbhBhbbbbbbbbbbbbbbbbbbbbbbbbbbbbbbbbbbbbbbbbbbbbbbbbbbbbbbbcbbbbbbbbbbbbbbbcbbbbbbbbbb",
     "bbbbbbbbbbbbbbbbbbbbbbbbbbbbbbbbbbbbcbbbbdcbbbcbdcebcbddcbcbbbbbcbbcbbcbdbbbcdbhbcbcbcbbbbbbb",
     "bbbbbbbbcbbbbbbbbbbbbbbbbbcbcbbdbbbbbbbbbbbbbbbbbbbbbbbbbbbbbbbbbbbbbbbbbbbbbbbbbbbbbbbbbbhcb",
     "ccbbebbbbbbbbLdbbbdbibgbbdbbbcbrbjBjbcddbbbbbbbbbbbbbbbbbbbbbbbfbcbbccBzBwbbbbbbbbbbbbbbbbbbb",
     "bbbbbbbbbbbbbbjbbbbbbbbbbbbbbbbbbbbbbbbbbbbbbbbbbbbbbbbbbbbbbbbbbbbbbcbbbbbbbbbbbbcbbbbbbbbbb",
     "bbbbbbbbbbbbbbbbbbbbbbbbbbbbbbbbbbbbbbbbbbbbbbbbbbbbbbbbbbbbbbbbbbbbbbbbbbbbbbbbbbbbbcBmEHdBm",
     "bbfbBBuDiDGlbgBrcdMibbbbbbbbbbbbbbbbbbbbbbbbbbbbbbbbbbbbbbbbbbbbbbbbbbbbbbbbbbbbbbbbbbbbbbbbb",
     "bbbbbbbbbbbbbbbbbbbbbbbbbbbbbbbbbbbbbbbbbbbbbbbbbbbbbbbbbbbbbbbbbbbbbbbbbbbbjbbbbbbbbbbbbbbbb",
     "bbbbbbbbbbbbbbbbbbbbbbbbbbbbbbbbbbbbbbbbbbbbbbbbbbbbbbbbbbbbbbbbbbbbbbbbbbbbbbbbbjiigkiiiiglb",
     "bbbbbbiiCuemememfleKcbebddcdcbdfgbbbbbbecekcfbBaqtbBFmBaCSuBwBwbbdcbbbbbbebbcbidbbbbbbbbbbbbb",
     "bbbbbbbbbbbbbbbbbbbbbbbbbbbbbbbbbbbbbbbbbbbbbbbbbbbbbbbbbbbbbbbbbbbbbbbbbbbbbbbbbbbbbibbbebBT",
     "YjbbbbbbbbbbbbbbbbbbbbbbbbbbbbbbbbbbbbbbbbbbbbbtbbbbbbbbbbbbbbbbbbbbbbbbbbbFfbbbbbbbbbbbbbdbb",
     "bbbbbbbbbbbbbbbbbbbbbbbbbbbbbbbbbbbbbbbbbbbbbbbbbbbbbbbbbbbkbbbbcbbbbbbbbebbbcbbbdbbbbbbbbbbb",
     "bbbbbbbbbfbfbbbbbbbbbbbbbbbebbbcdbfbbbbbbbybBHAhBaBUzBoFgBkGalbpbhbcCQcBzGbwEGoBgBGJwBgBMMqBa",
     "BaBaBaBaBabbccbcccebiBaBaBacbecibhBbcbebfbbdhBbBaBaBaBaBaBaBaBaBaBaBaBezBhzBhzBhzBhzBhbGNlBiD",
     "BiBagBagBa"]⟩,
  ⟨["variationselector", "vs"], ["JCtdbbDJCaqBWNKyJg"]⟩,
  ⟨["xidcontinue", "xidc"],
    ["BwkhBaebbBaBvbkbbbcbfxbBfbRqemofhbbbrEnbcddbbgfbbbubDfbFjbfcGkbBmcbgBpiBtbbbcbcbbiBbeeBdlfCwe",
     "DybickbtcbqChcDxoCcebcbcBusBcelfybgiCxbEzckbtbicccwbhbbdecjccceibecbfcmkbbbcdbgeccwbhbcbcbccb",
     "bfeccddbhebbhqldbjbdbwbhbcbfckbdbdcbpeckjhbdbicccwbhbcbfcjcccdhdecbfckbbqcbgddbedcbbbcdcdddme",
     "fddbecbgbokqnbdbxbqcjbdbehcbdcbceckqebibdbxbkbfcjbdbehcgcbeckbdmnbdbBzbdbffehfckkgbdbsdybjbbc",
     "hdbegbbbigkccnCgfpbkBncbbbfbybbbxcfbbbhbkceBgbxcgklbbbbbekbBkeubsbBkjbCfCwgDacBmbbfbcBrbMvbec",
     "hbbbecBpbecBhbechbbbecpbCfbecCpcdjjoqqDicgdXwcrbBafCxdlhwjwlumnbdbcmDgdbecckBhdblgDlhBrfCskBf",
     "bmemkBocflBseBaglBlBceClbBdclgknbiobqBxCzdkrjmEmmCeikdBxclfBrcdqdbBnfUocgcBmcgcibbbbbbbBfcCbb",
     "hbbddbhdecgenfdbhpcBxctbBcbnbqnBznebdmrbebckbbcggbbbbbbqceffebrBpDZbIvgjmBmbbfbcCehbpyjhbhbhb",
     "hbhbhbhbhbBgTxdzpbfcfeDicccdbDrfBrbDqrBgBwqTsJToCmBGUfCpBucKjdBcuBwekbElBljcDzcCpccbbbivCcebt",
     "CamCskkgydbbBxcBkmBddCnolgBfbCdjockgxdCvydcqcfkgcgcgjhbhbBrbogEtbcckgQNsmxeBxMNcOccEcBmhmffmb",
     "nbfbbbcbcbEeBhFjgIksCmcCcBokgqqqdcydBhbbbdbbbbbbbbEwtkhBaebbBakDmdgcgcgcdBjmbBabtbcbpcoBiEtCr",
     "CbFgbFaBddBxpbBfBgnBefBrfBecBkeibfBqGcckgBkeBkeBoiCamlbpbhbcblbpbhbcdCamLzjwkiygbBqbjCrgcbbBs",
     "bcdbcxkxjBfCntbckwkBaCsCegcCmebcfibdbBdcdebBgBddBdBjibBezCckwktnsEgCvCdBznBznBoikgBmdfbxJqBqb",
     "cdcqdCdBhkbiBhBfwBqvBbxjCtBfqjCihbnzhkgCbbkeeiBkcbjCreebnbbBjsbBlgeCkhbbbebpbkhChfkgebicccwbh",
     "bcbfbkcccdcbgbfhchdflkbbcbbBmbkbbcbbebincBdCxfkeeBeCsbbikGkCccjxgBiCndblkBmCfhkguBcBbcpekghHd",
     "ChDxCwvicbcibcbBebccjmkCsicBucibcBbClibiCwdbsCvHrBhpkgjbBtbjpkyBecwboCvhbcbBsdbbcbjikggbcbBlb",
     "cbghkLyxjrbBpdfnlDhbDbBJmDyEhrHoDXkDtpBPgqwkFXrfWlKDdCgCOsVxhBfbkgDbbkgBecflCdjemkjvftQqBtdkH",
     "qCmEyCxeCfhrCmcbclcoJCaiBVqBpkNFrebhbcbLfpbBddcboeiPgDKuEdfndjhkdcGErkTyBucxUwfdgiichBeeFsdRb",
     "DhbCtbccbcccebmbbbhbCnbecibhbBcbebfbbdhbNcczbzbBfbzbBfbzbBfbzbBfbzbicByTsCdeByibobwfbpBQmBfgg",
     "IfhbrchbcbffCkBhbEiBtdockebMjBfrCgScBqIgBrSrhbebcbpbHplhBpCyekBTuebBbbcbbcbbkbebbbbgbebbbbbbd",
     "bcbbcbbbbbbbbbbcbbcebhbebebbbkbrfdbfbrFAakBNqCLFcBgGDugIocINqoLBlpXyDQwUwCFyHHzfGFgBONHgJg"]⟩,
  ⟨["xidstart", "xids"],
    ["CnBagBaBvbkbebfxbBfbRqemofhbbbEzfbcddbbgbbdbbbubDfbFjiGkbBmcbgBpCtBbeeBtBrBjcbDvbbpchckdcbqbb",
     "BeBdDllbyBhjcebfwebjbdbxzhlfybgrBqCgCcdbsbhkpqeicccwbhbbdedbqbncbdockbigeccwbhbcbcbcBfebbtdqj",
     "bdbwbhbcbfdbsbpcxblicccwbhbcbfdbBecbdpbrbbgddbedcbbbcdcdddmwbCaibdbxbqdbBadcbccBebeibdbxbkbfd",
     "bBfcbcpcrjbdbBpcbqbfdidygfsdybjbbchCgBwbbnhCgcbbbfbybbbkbbkbcfbbveBgbClibBkBbfElBrubqgeedbdch",
     "denmbrBmbbfbcBrbMvbechbbbecBpbecBhbechbbbecpbCfbecCpBlqqDicgdXwcrbBafCxdlhsntosonbdpCaBjbebCp",
     "DlhBpbbfCskBfBxBecflBseBaCcxjCbDebDpBvriCcBenckBsBaBkBpdkBkclfBrcdBpebgbcdbfHkCmKscgcBmcgcibb",
     "bbbbbBfcCbbhbbddbhdecgenfdbhEmbnbqnDxbebckbbcggbbbbbbqceffebrBpDZbIvgedcmBmbbfbcCehbqxjhbhbhb",
     "hbhbhbhbhVedzjhfcfeDigdbDmbefBrbDqrBgBwqTsJToCmBGUfCpBucKjdqkcuBvqBfcDcBnjcDzcCpccbbbivqbdbeb",
     "xBdCaoByCkgdbbclBckxzBdhBvBcbqfbkkfbBpxdbiuxdbdBybbdccfcbbbydclhdmgcgcgjhbhbBrbogElBdQNsmxeBx",
     "MNcOccEcBmhmffbbkbnbfbbbcbcbEeBhFjgIksCmcCcBokEpbbbdbbbbbbbbEwBkBagBalCecBfdgcgcgcdBjmbBabtbc",
     "bpcoBiEtCrCbKhBddBxBvBgnBefBmkBecBkeibfBqGcsBkeBkeBoiCamlbpbhbcblbpbhbcdCamLzjwkiygbBqbjCrgcb",
     "bBsbcdbcxkxjBfCntbckwkBaCsCegcCmbpebdbBdBqBddBdBjibBcBbCckwktnsEgCvCdBznBznBkBmBcjxJqBqgcqdCh",
     "BdkbiwBqsBuvBbxmCbCfccbnBtBgzBaBkBdbcbiBjdbmBwoevbbbBjsbztcClhbbbebpbkhBvBmicccwbhbcbfdbsbmfB",
     "ekbbcbbBmbbzbbbBsCbseudBeBwucbbHcBvBpeBkBwubChBrnbCtBbBlhHdBsEmCmBficbcibcbypbbbDqicBnqbbbBcb",
     "kBohbvblButbsCvHrBhBfjbBlrbBxBeEihbcbBmvbzgbcbBgobMptpbbnbBiEubDbBJmDyEhrHoDXkDtpBPgrgzFXrfWl",
     "KDdBeCPuVxhBfrDbrBesBwqeBfvftQqBtIdCmEyCxfbConCmcbbBcJCaiBVqBpkNFrebhbcbLfpbBddcboeiPgDKuEdfn",
     "djhkIWkDhbCtbccbcccebmbbbhbCnbecibhbBcbebfbbdhbNcczbzbBfbzbBfbzbBfbzbBfbzbiCSyBfggKbCkFqBtkhq",
     "bMjBesBsSqBcIuBecbTbhbebcbpbHpChCqhbBUiebBbbcbbcbbkbebbbbgbebbbbbbdbcbbcbbbbbbbbbbcbbcebhbebe",
     "bbbkbrfdbfbrGOaCLFcBgGDugIocINqoLBlpXyDQwUwCFyHHzfGFg"]⟩
]

end PageHarvest.Regex.Property
