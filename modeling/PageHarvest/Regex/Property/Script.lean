import PageHarvest.Regex.Property.Basic

/-!
# Scripts

The characters of each script in version 16.0 of the Unicode character database. `script` counts a
character to the one script that is its own, `scriptExtension` to each script that it is used in.
A script that has the same characters either way stands in the first list alone.
-/

namespace PageHarvest.Regex.Property

/-- Characters by their own script. -/
def script : List Entry := [
  ⟨["adlam", "adlm"], ["HDEuCyekec"]⟩,
  ⟨["ahom"], ["EBRcBbcpex"]⟩,
  ⟨["anatolianhieroglyphs", "hluw"], ["ESSeWl"]⟩,
  ⟨["arabic", "arab"],
    ["CHcfbgbobdbBgbklBabEebBiDcBwJgBfbcfCxbBdDNTwElqNzcDccCchbBgqEifbFfFVnBfCpdCdeDGLsebBbbcbbcbbk",
     "bebbbbgbebbbbbbdbcbbcbbbbbbbbbbcbbcebhbebebbbkbrfdbfbrCac"]⟩,
  ⟨["armenian", "armn"], ["BZdBmcBycdDOZjf"]⟩,
  ⟨["avestan", "avst"], ["DXCyCcdh"]⟩,
  ⟨["balinese", "bali"], ["KFwCzbBy"]⟩,
  ⟨["bamum", "bamu"], ["CLCqDkCVCqVx"]⟩,
  ⟨["bassavah", "bass"], ["FHKiBecg"]⟩,
  ⟨["batak", "batk"], ["KNgCaie"]⟩,
  ⟨["bengali", "beng"], ["DPoebicccwbhbbdecjccceibecbfcz"]⟩,
  ⟨["bhaiksuki", "bhks"], ["EDOijbBtbokBd"]⟩,
  ⟨["bopomofo", "bopo"], ["BCscRLxBrEiBg"]⟩,
  ⟨["brahmi", "brah"], ["DZAeDaeBkjb"]⟩,
  ⟨["braille", "brai"], ["PDwJw"]⟩,
  ⟨["buginese", "bugi"], ["JWaBccc"]⟩,
  ⟨["buhid", "buhd"], ["IUyu"]⟩,
  ⟨["canadianaboriginal", "cans"], ["HOyYqVoCsDTPqq"]⟩,
  ⟨["carian", "cari"], ["DTYmBx"]⟩,
  ⟨["caucasianalbanian", "aghb"], ["DUXsCalb"]⟩,
  ⟨["chakma", "cakm"], ["DZKaCbbs"]⟩,
  ⟨["cham"], ["CMJwCdjockce"]⟩,
  ⟨["cherokee", "cher"], ["HLgDicgCFJeDc"]⟩,
  ⟨["chorasmian", "chrs"], ["DYXcBc"]⟩,
  ⟨["common", "zyyy"],
    ["aCnBagBaBvbpbfxbBfbRhBnffcuEmbjbgbbbYnbgbobdbBgbGabTwbEzcBVtbPpeLebCGldCtcHvcbbBVhbnbhebgbdcb",
     "BDtmcDjbldlbprBhClBmbdcgbBbbrBpdeZqwlvBJsJwYecBgbEbTsDqPmvbbbzpieeDncdbDmcFrqBgBmjbBwCmBfDdBv",
     "bDkGmJToCmBHSiBiDydGjkJkbGebPfbocBEZqcIakwBjbtbeFrbbBgBagBalkbBtcCmhbhkfJydeBtdjDcnBzBtIuBbCS",
     "HweFVgJqgQuGaEmCiJmkBncCkdrichBeeCjIfumumDjjzFfDhbCtbccbcccebmbbbhbCnbecibhbBcbebfbbdhbNccLgc",
     "ByHThCqCyCjBBeBseDwmpcpbpbBlkGsCeBabcnBsejhcogFyBLwerdndEpeDrgmebpmeCeikgBoiBecmecCkNcmocndkf",
     "CehpclgjhFrbDyBSUXbbBeDs"]⟩,
  ⟨["coptic", "copt", "qaac"], ["BMgoPJkEmfh"]⟩,
  ⟨["cuneiform", "xsux"], ["EFBsBJmDyEhbflHo"]⟩,
  ⟨["cypriot", "cprt"], ["DVZkgcbbBsbcdbcb"]⟩,
  ⟨["cyprominoan", "cpmn"], ["EKYyDv"]⟩,
  ⟨["cyrillic", "cyrl"], ["BNkFdcGnIVolGebCybGFnBgBTOaDsBHEccDHPgCkBhb"]⟩,
  ⟨["deseret", "dsrt"], ["DUMaDc"]⟩,
  ⟨["devanagari", "deva"], ["DKqDdepcBaCIJgBgBREmk"]⟩,
  ⟨["divesakuru", "diak"], ["ECKuhcbcibcbBebccmjk"]⟩,
  ⟨["dogra", "dogr"], ["ECAyCi"]⟩,
  ⟨["duployan", "dupl"], ["GMDsEdfndjhkce"]⟩,
  ⟨["egyptianhieroglyphs", "egyp"], ["ELDgBQskFXr"]⟩,
  ⟨["elbasan", "elba"], ["DUVwBo"]⟩,
  ⟨["elymaic", "elym"], ["DYYyx"]⟩,
  ⟨["ethiopic", "ethi"],
    ["GVgCvbechbbbecBpbecBhbechbbbecpbCfbecCpcBgdBaJVaxjhbhbhbhbhbhbhbhBVKcgcgcgjhbhEPYfhbebcbp"]⟩,
  ⟨["garay", "gara"], ["DXZcBmdBdic"]⟩,
  ⟨["georgian", "geor"], ["GHsBmbbfbcBrbeEJwBrcdGEaBmbbfb"]⟩,
  ⟨["glagolitic", "glag"], ["QRgDsGIZghbrchbcbf"]⟩,
  ⟨["gothic", "goth"], ["DUEaBb"]⟩,
  ⟨["grantha", "gran"], ["EADsebicccwbhbcbfcjcccdcbgbfhchdf"]⟩,
  ⟨["greek", "grek"],
    ["BHwebdcebbebbbbdbbbubCloqJNqfByfefDgbMiwcgcBmcgcibbbbbbbBfcCbbpbocgbtcdbjLjbCAJebBGNiDbrbDAXr",
     "Cs"]⟩,
  ⟨["gujarati", "gujr"], ["DZldbjbdbwbhbcbfckbdbdcbpecmhh"]⟩,
  ⟨["gunjalagondi", "gong"], ["EEBwgbcbBlbcbghk"]⟩,
  ⟨["gurmukhi", "guru"], ["DUndbgeccwbhbcbcbccbbfeccddbhebbhr"]⟩,
  ⟨["gurungkhema", "gukh"], ["FDRsCg"]⟩,
  ⟨["hani", "han"],
    ["RPwBabDlmIgBvbbbzjoeBLcJToCmBFBkBHSiOccEcBSIicmcCCOkCLFcBgGDugIocINqoLBlpXyDQwUwCFyHHzfGFg"]⟩,
  ⟨["hangul", "hang"], ["GLkJwLLecJxDqEjBfCnBfBTAnBdYtQNsmxeBxPAiBfdgcgcgcd"]⟩,
  ⟨["hanifirohingya", "rohg"], ["DXWqBoik"]⟩,
  ⟨["hanunoo", "hano"], ["ITsv"]⟩,
  ⟨["hatran", "hatr"], ["DWIatbcff"]⟩,
  ⟨["hebrew", "hebr"], ["CCvCdiBbegDOVwBabfbbbcbcbk"]⟩,
  ⟨["hiragana", "hira"], ["SHdDigdFPEvLbsbBddYMvb"]⟩,
  ⟨["imperialaramaic", "armi"], ["DWBwwbj"]⟩,
  ⟨["inherited", "qaai", "zinh"],
    ["BDoEiKrcRklBabBCieGOxBfTtdbnbhebgbdcHqCmUecHmBhFTxeEdcCZUjqqoBLnbIsbGFabCTCuBucxUydrichBeeBTL",
     "HiJg"]⟩,
  ⟨["inscriptionalpahlavi", "phli"], ["DXGqtfi"]⟩,
  ⟨["inscriptionalparthian", "prti"], ["DXFkwci"]⟩,
  ⟨["javanese", "java"], ["CMEyDackec"]⟩,
  ⟨["kaithi", "kthi"], ["DZFcCpkb"]⟩,
  ⟨["kannada", "knda"], ["ETcnbdbxbkbfcjbdbehcgcbeckbd"]⟩,
  ⟨["katakana", "kana"], ["SKvDmcdJgqIaBvbDkCZHekbBtCOUcebhbcbbLbdByboe"]⟩,
  ⟨["kawi"], ["EERwrbBpdBd"]⟩,
  ⟨["kayahli", "kali"], ["CMAaBubb"]⟩,
  ⟨["kharoshthi", "khar"], ["DWTcebcfibdbBdcdekhj"]⟩,
  ⟨["khitansmallscript", "kits"], ["FJIibKGxScBpb"]⟩,
  ⟨["khmer", "khmr"], ["IXkDqckgkSsBg"]⟩,
  ⟨["khojki", "khoj"], ["DZTwsbBv"]⟩,
  ⟨["khudawadi", "sind"], ["EAAqChfk"]⟩,
  ⟨["kiratrai", "krai"], ["FIIiCg"]⟩,
  ⟨["laoo", "lao"], ["FMvcbbbfbybbbxcfbbbhbkce"]⟩,
  ⟨["latin", "latn"],
    ["CnBagBaBvbpbfxbBfbRhBnfJXbBmgBxfefnbCsCnJwOfbnbqnFlcgbBbbrBpECtBgBULmDydCpccbbbivoBFkBrbjbeBE",
     "DqhBOkBagBaDCfgbBqbjDDNpBfgg"]⟩,
  ⟨["lepcha", "lepc"], ["KPsCedpdd"]⟩,
  ⟨["limbu", "limb"], ["JMeBfbmemebdm"]⟩,
  ⟨["lineara", "lina"], ["DVFsLzjwki"]⟩,
  ⟨["linearb", "linb"], ["DSYqmbBabtbcbpcoBiEt"]⟩,
  ⟨["lisu"], ["CKKuBwBUMab"]⟩,
  ⟨["lycian", "lyci"], ["DTXgBd"]⟩,
  ⟨["lydian", "lydi"], ["DWKmBafb"]⟩,
  ⟨["mahajani", "mahj"], ["DZNcBn"]⟩,
  ⟨["makasar", "maka"], ["EEQqz"]⟩,
  ⟨["malayalam", "mlym"], ["EYanbdbBzbdbgeqcBa"]⟩,
  ⟨["mandaic", "mand"], ["DDgBccb"]⟩,
  ⟨["manichaean", "mani"], ["DXAmBnem"]⟩,
  ⟨["marchen", "marc"], ["EDSqBgcwbo"]⟩,
  ⟨["masaramgondi", "gonm"], ["EDYehbcbBsdbbcbjik"]⟩,
  ⟨["medefaidrin", "medf"], ["FISeDn"]⟩,
  ⟨["meeteimayek", "mtei"], ["CMSmxHtBuck"]⟩,
  ⟨["mendekikakui", "mend"], ["HCUyHpcq"]⟩,
  ⟨["meroiticcursive", "merc"], ["DWPkyeucBu"]⟩,
  ⟨["meroitichieroglyphs", "mero"], ["DWOeBg"]⟩,
  ⟨["miao", "plrd"], ["FIZoCxeCfhr"]⟩,
  ⟨["modi"], ["EBHgCrlk"]⟩,
  ⟨["mongolian", "mong"], ["JCiccbbugDlhBrDSCbn"]⟩,
  ⟨["mroo", "mro"], ["FHEuBfbkec"]⟩,
  ⟨["multani", "mult"], ["DZYuhbbbebpbl"]⟩,
  ⟨["myanmar", "mymr"], ["GBoGeCGAyBfDtBgBPAmu"]⟩,
  ⟨["nabataean", "nbat"], ["DWEiBfij"]⟩,
  ⟨["nagmundari", "nagm"], ["HBPoBq"]⟩,
  ⟨["nandinagari", "nand"], ["ECQyicBucl"]⟩,
  ⟨["newtailue", "talu"], ["JRcBseBagldc"]⟩,
  ⟨["newa"], ["EANoDobf"]⟩,
  ⟨["nkoo", "nko"], ["CYiChcd"]⟩,
  ⟨["nushu", "nshu"], ["FJIfbYVmPg"]⟩,
  ⟨["nyiakengpuachuehmong", "hmnp"], ["HAEaBtdockec"]⟩,
  ⟨["ogham", "ogam"], ["INoBd"]⟩,
  ⟨["olchiki", "olck"], ["KSuBw"]⟩,
  ⟨["olonal", "onao"], ["HBZkBreb"]⟩,
  ⟨["oldhungarian", "hung"], ["DXRsBznBzhg"]⟩,
  ⟨["olditalic", "ital"], ["DUCeBkjd"]⟩,
  ⟨["oldnortharabian", "narb"], ["DWYaBg"]⟩,
  ⟨["oldpermic", "perm"], ["DUFgBr"]⟩,
  ⟨["oldpersian", "xpeo"], ["DUIiBkeo"]⟩,
  ⟨["oldsogdian", "sogo"], ["DYQiBo"]⟩,
  ⟨["oldsoutharabian", "sarb"], ["DWWuBg"]⟩,
  ⟨["oldturkic", "orkh"], ["DXMuCv"]⟩,
  ⟨["olduyghur", "ougr"], ["DYUqBa"]⟩,
  ⟨["oriya", "orya"], ["EEjdbicccwbhbcbfcjcccdhdecbfcs"]⟩,
  ⟨["osage", "osge"], ["DUSuBkeBk"]⟩,
  ⟨["osmanya", "osma"], ["DUQyBeck"]⟩,
  ⟨["pahawhhmong", "hmng"], ["FHMeCskkbhbvft"]⟩,
  ⟨["palmyrene", "palm"], ["DWDcBg"]⟩,
  ⟨["paucinhau", "pauc"], ["EDCaCf"]⟩,
  ⟨["phagspa", "phag"], ["CLSqCe"]⟩,
  ⟨["phoenician", "phnx"], ["DWJgBcdb"]⟩,
  ⟨["psalterpahlavi", "phlp"], ["DXHwshemh"]⟩,
  ⟨["rejang", "rjng"], ["CMBwBklb"]⟩,
  ⟨["runic", "runr"], ["IOuCxdl"]⟩,
  ⟨["samaritan", "samr"], ["DAuBucp"]⟩,
  ⟨["saurashtra", "saur"], ["CLVcCsim"]⟩,
  ⟨["sharada", "shrd"], ["DZOyDs"]⟩,
  ⟨["shavian", "shaw"], ["DUPcBw"]⟩,
  ⟨["siddham", "sidd"], ["EBCiCccBm"]⟩,
  ⟨["signwriting", "sgnw"], ["GWTkZcpfbp"]⟩,
  ⟨["sinhala", "sinh"], ["FCzdbsdybjbbchdbegbbbigkcdDULgu"]⟩,
  ⟨["sogdian", "sogd"], ["DYSeBq"]⟩,
  ⟨["sorasompeng", "sora"], ["DZIezhk"]⟩,
  ⟨["soyombo", "soyo"], ["ECXsDf"]⟩,
  ⟨["sundanese", "sund"], ["KKuCmJwi"]⟩,
  ⟨["sunuwar", "sunu"], ["EDLwBiok"]⟩,
  ⟨["sylotinagri", "sylo"], ["CLQeBt"]⟩,
  ⟨["syriac", "syrc"], ["CQyobCicdKml"]⟩,
  ⟨["tagalog", "tglg"], ["ISmwjb"]⟩,
  ⟨["tagbanwa", "tagb"], ["IWenbdbc"]⟩,
  ⟨["taile", "tale"], ["JPgBecf"]⟩,
  ⟨["taitham", "lana"], ["JXgClbBdclgkgo"]⟩,
  ⟨["taiviet", "tavt"], ["CMOuCpyf"]⟩,
  ⟨["takri", "takr"], ["EBMeCggk"]⟩,
  ⟨["tamil", "taml"], ["EJicbgddbedcbbbcdcdddmefddbecbgbovEALhBynb"]⟩,
  ⟨["tangsa", "tnsa"], ["FHGqDbbk"]⟩,
  ⟨["tangut", "tang"], ["FJIebBfJCaiBDoTsj"]⟩,
  ⟨["telugu", "telu"], ["EOenbdbxbqcjbdbehcbdcbceckhj"]⟩,
  ⟨["thaana", "thaa"], ["CVwBy"]⟩,
  ⟨["thai"], ["FHxCgfBc"]⟩,
  ⟨["tibetan", "tibt"], ["FRsCubBkeBnbBkbpbhec"]⟩,
  ⟨["tifinagh", "tfng"], ["RCyCehcob"]⟩,
  ⟨["tirhuta", "tirh"], ["EASmCuik"]⟩,
  ⟨["todhri", "todr"], ["DVDgCa"]⟩,
  ⟨["toto"], ["HATkBf"]⟩,
  ⟨["tulutigalari", "tutg"], ["EAIqkbbcbbBmbkbbcbbebkbcic"]⟩,
  ⟨["ugaritic", "ugar"], ["DUHcBebb"]⟩,
  ⟨["vaii", "vai"], ["CKMqLo"]⟩,
  ⟨["vithkuqi", "vith"], ["DVAelbpbhbcblbpbhbc"]⟩,
  ⟨["wancho", "wcho"], ["HAVgCgfb"]⟩,
  ⟨["warangciti", "wara"], ["ECHcDfmb"]⟩,
  ⟨["yezidi", "yezi"], ["DYLkBqbdcc"]⟩,
  ⟨["yiii", "yi"], ["CIPkBSvdCd"]⟩,
  ⟨["zanabazarsquare", "zanb"], ["ECUqCu"]⟩
]

/-- Characters by the scripts that use them, where the set differs from `script`. -/
def scriptExtension : List Entry := [
  ⟨["adlam", "adlm"], ["CIhbBgbJWobFHhbGLRiCyekec"]⟩,
  ⟨["arabic", "arab"],
    ["CHcfbIhbBiDcBwJgBfbcfCxbBdIVnbFHhbCZRaElqRdcCchbBgqEifbFfBMhBcEIeBfCpdCdeDGLsebBbbcbbcbbkbebb",
     "bbgbebbbbbbdbcbbcbbbbbbbbbbcbbcebhbebebbbkbrfdbfbrCac"]⟩,
  ⟨["armenian", "armn"], ["BDwbVgBmcBycdDOZjf"]⟩,
  ⟨["avestan", "avst"], ["HbbRFscDFQcCcdh"]⟩,
  ⟨["bengali", "beng"], ["BAybCMucrcBaebicccwbhbbdecjccceibecbfczHDhbbbccbbibibcbebcdCBAfb"]⟩,
  ⟨["bopomofo", "bopo"], ["BBjbbdnbqcRBxdekbnkecbgbHnbjBrEiBgCZLtcKwf"]⟩,
  ⟨["buginese", "bugi"], ["JWaBcccCCKtb"]⟩,
  ⟨["buhid", "buhd"], ["IUncju"]⟩,
  ⟨["carian", "cari"], ["HbbLZmbcbFGdbDCLqBx"]⟩,
  ⟨["caucasianalbanian", "aghb"], ["BDsbBsbBsbDTQnCalb"]⟩,
  ⟨["chakma", "cakm"], ["DTmkCKekDTFqCbbs"]⟩,
  ⟨["cherokee", "cher"], ["BDodbbgcwclcGFuDicgCFJeDc"]⟩,
  ⟨["common", "zyyy"],
    ["aCnBagBaBvbmbcbfxbBfbRhdbkbbdbbjbbbgffcuEwbgbbbYnbIhbTwbCAubPpeGDbmcBhbBfbkbcbhbldlbprBhClBmb",
     "dcgbBbbrBpdeZqwlvBJsJwYecBgbEbTsxbyckbebbbBaQcbdbnbnbvbUjyBfbBxpmeGfkfDsBfbJToCmBHSqBaDydBLob",
     "ocBFHskwvcmbtbeFrbbBgBagBagExhbhkfPmnBzBtCYNbJqgQuGaEmCiJmkBncCkdrichBeeCjIfumumDjBbhFfDhbCtb",
     "ccbcccebmbbbhbCnbecibhbBcbebfbbdhbNccLgcByHThCqCyCjBBeBseDwmpcpbpbBlkGsCeBabcnBsejxgFyBLwerdn",
     "dEpeDrgmebpmeCeikgBoiBecmecCkNcmocndkfCehpclgjhFrbDyBSUXbbBeDs"]⟩,
  ⟨["coptic", "copt", "qaac"], ["HbbWmbdcbbEecEeoPJkEmfhKtbDCPcBc"]⟩,
  ⟨["cypriot", "cprt"], ["DTImdeBtdjCOmgcbbBsbcdbcb"]⟩,
  ⟨["cyprominoan", "cpmn"], ["DTImcRQkDv"]⟩,
  ⟨["cyrillic", "cyrl"], ["BAybCpdbbbbbbcbfbJeLsIVolGebCybExbGApBgCpbBTLkDsBHEccDHPgCkBhb"]⟩,
  ⟨["devanagari", "deva"], ["BAybCJrDfcBrHIeBnbcBNabBZFrkGkBgBREmk"]⟩,
  ⟨["dogra", "dogr"], ["DOmmCIDckBQIoCi"]⟩,
  ⟨["duployan", "dupl"], ["HbbWtcbbycQIhbFUQlEdfndjhkci"]⟩,
  ⟨["elbasan", "elba"], ["HbbWrbDTScBo"]⟩,
  ⟨["ethiopic", "ethi"],
    ["BEcbFRdCvbechbbbecBpbecBhbechbbbecpbCfbecCpcBgdBaJVaxjhbhbhbhbhbhbhbhBVKcgcgcgjhbhEPYfhbebcbp"]⟩,
  ⟨["garay", "gara"], ["CHobobdbDVQuBmdBdic"]⟩,
  ⟨["georgian", "geor"], ["HbbBVlbEFeBmbbfbcBwEJwBrcdBJmbEUnBmbbfbJzb"]⟩,
  ⟨["glagolitic", "glag"], ["HbbWpbbbOsbcbJxbEIrbFVibEKrDsSpbBTNfbEOTkhbrchbcbf"]⟩,
  ⟨["gothic", "goth"], ["HbbWqccbBobDSYoBb"]⟩,
  ⟨["grantha", "gran"], ["DNtcrcYqoGKabbcBeddcBNabDNRjebicccwbhbcbfbkcccdcbgbfhchdfERrcbb"]⟩,
  ⟨["greek", "grek"],
    ["HbbWmccbbbbbkbBubcbBqicebbebbbbdbbbubCloqJNqfByfefDgdMgwcgcBmcgcibbbbbbbBfcCbbpbocgbtcdbjDqbH",
     "sbCAJebBGNiDbrbDAXrCs"]⟩,
  ⟨["gujarati", "gujr"], ["DNtcrcKxdbjbdbwbhbcbfckbdbdcbpecmhhCHNsk"]⟩,
  ⟨["gunjalagondi", "gong"], ["HbbDHkcEANigbcbBlbcbghk"]⟩,
  ⟨["gurmukhi", "guru"], ["DNtcrcFzdbgeccwbhbcbcbccbbfeccddbhebbhrCHSzk"]⟩,
  ⟨["gurungkhema", "gukh"], ["DOnbFADeCg"]⟩,
  ⟨["hani", "han"],
    ["HbbRIuBabDlmIgBaqbdbnbnbncbgjHfbFsqBgBmjbBwBoCeBxpmBzbDkzkfDsBfbJToCmBFBkCQyiBFBcOccEcBHrcKwf",
     "BQPocmcBLRasLRycFEsCLFcBgGDugIocINqoLBlpXyDQwUwCFyHHzfGFg"]⟩,
  ⟨["hangul", "hang"], ["GLkJwLJldekbnodgbHnbCbDqEjBfCnBfBTAnBdYtQNsmxeBxOMzcKwfCgBfdgcgcgcd"]⟩,
  ⟨["hanifirohingya", "rohg"], ["CHobobdbBgbFrbDVHjBoik"]⟩,
  ⟨["hanunoo", "hano"], ["ITsx"]⟩,
  ⟨["hebrew", "hebr"], ["BDvcYyCdiBbegDOVwBabfbbbcbcbk"]⟩,
  ⟨["hiragana", "hira"], ["SErdekbnqgbbecdDiciDmcCZTgcKwfkbBtcCOUrLbsbBddYMvb"]⟩,
  ⟨["inherited", "qaai", "zinh"],
    ["BEdbcbbmbcdhcbcqbcbsbfbeCGmcGOxBfBDbCcbbbfUecHmBgDFSqqqoBLnbCZQoBucxUydrichBeeBTLHiJg"]⟩,
  ⟨["javanese", "java"], ["CMEyDablec"]⟩,
  ⟨["kaithi", "kthi"], ["DOokNXxbBUFekBNMsCpkb"]⟩,
  ⟨["kannada", "knda"], ["DNtcrcBEonbdbxbkbfcjbdbehcgcbeckbdGAebbcgbxbbbCASxg"]⟩,
  ⟨["katakana", "kana"], ["BDtbBdbQZtdekbnqgbbecDnedDsJgqIaBvbDkCYWbcKwClCOUaebhbcbbLbdByboe"]⟩,
  ⟨["kayahli", "kali"], ["CMAaBw"]⟩,
  ⟨["khojki", "khoj"], ["EDikCHOikBOBmsbBv"]⟩,
  ⟨["khudawadi", "sind"], ["DOmcCIDmkBOIgChfk"]⟩,
  ⟨["latin", "latn"],
    ["CnBagBaBvbmbcbfxbBfbRhdbkbbdbbjbbbgfBbpbcbbmbcdhcbcBmbfbenKrcBVecCXkbEOiBmgBxfefnbCsCfbhJwLrb",
     "CnbnbqnDfbCfcgbBbbrBpECtBgPrbBTUmiBaDydCpccbbbivoLqbTtBrbjbeBEDqhBOkBagBaDCfgbBqbjDDNpBfgg"]⟩,
  ⟨["limbu", "limb"], ["DOnbFXqBfbmemebdm"]⟩,
  ⟨["lineara", "lina"], ["DTItBtBVgLzjwki"]⟩,
  ⟨["linearb", "linb"], ["DSYqmbBabtbcbpcoBiEtfdeBtdj"]⟩,
  ⟨["lisu"], ["BAybqbRDkcBSFsBwBUMab"]⟩,
  ⟨["lycian", "lyci"], ["MGobDHQrBd"]⟩,
  ⟨["lydian", "lydi"], ["HbbRFtbDEXqBafb"]⟩,
  ⟨["mahajani", "mahj"], ["HbbDHkmCIDckBNUsBn"]⟩,
  ⟨["malayalam", "mlym"], ["DNtcrcBJmnbdbBzbdbgeqcBaFVebxbCASzd"]⟩,
  ⟨["mandaic", "mand"], ["CJobTrBccb"]⟩,
  ⟨["manichaean", "mani"], ["CJobDUQxBnem"]⟩,
  ⟨["masaramgondi", "gonm"], ["DOmcEAJqhbcbBsdbbcbjik"]⟩,
  ⟨["meroitichieroglyphs", "mero"], ["MGrbDKHmBg"]⟩,
  ⟨["modi"], ["CLSakBPOwCrlk"]⟩,
  ⟨["mongolian", "mong"], ["JCiBagDlhBrCWabFZtcfeDJFwn"]⟩,
  ⟨["multani", "mult"], ["DYkkDWAahbbbebpbl"]⟩,
  ⟨["myanmar", "mymr"], ["GBoGeCFUcbGvBfDtBgBPAmu"]⟩,
  ⟨["nandinagari", "nand"], ["DOmcBImkGBhbibhbCASrgBQYsicBucl"]⟩,
  ⟨["nkoo", "nko"], ["CHobobdbQaChcdDOWsc"]⟩,
  ⟨["olonal", "onao"], ["DOmcGYKwBreb"]⟩,
  ⟨["oldhungarian", "hung"], ["MGobcbFGdbpbDGEgBznBzhg"]⟩,
  ⟨["oldpermic", "perm"], ["HbbWmbfdkbOdbDSMuBr"]⟩,
  ⟨["oldturkic", "orkh"], ["MGobFGfbDFZzCv"]⟩,
  ⟨["olduyghur", "ougr"], ["CJobDUSvbBSfBa"]⟩,
  ⟨["oriya", "orya"], ["DNtcrcPvdbicccwbhbcbfcjcccdhdecbfcsGPebxb"]⟩,
  ⟨["osage", "osge"], ["BDpbcbgbCybDTLvBkeBk"]⟩,
  ⟨["phagspa", "phag"], ["JCkcbbDCjbFZubBTNxCe"]⟩,
  ⟨["psalterpahlavi", "phlp"], ["CJobDUYhshemh"]⟩,
  ⟨["runic", "runr"], ["IOuDl"]⟩,
  ⟨["samaritan", "samr"], ["DAuBucpOJqb"]⟩,
  ⟨["sharada", "shrd"], ["DNtbHKfbbbcccbCATrgcbBNWpDs"]⟩,
  ⟨["shavian", "shaw"], ["HbbDUIaBw"]⟩,
  ⟨["sinhala", "sinh"], ["DOmcBOldbsdybjbbchdbegbbbigkcdFRpbDOTqu"]⟩,
  ⟨["sogdian", "sogd"], ["CJobDWIpBq"]⟩,
  ⟨["sunuwar", "sunu"], ["BDocbbjbcbBcbdbECGkBiok"]⟩,
  ⟨["sylotinagri", "sylo"], ["DOmcEykCHWiBt"]⟩,
  ⟨["syriac", "syrc"], ["BDrcccbbvbcdhcbbBCdboccbBgbklBabFnobCicdKmlIEfbbb"]⟩,
  ⟨["tagalog", "tglg"], ["ISmwjbvc"]⟩,
  ⟨["tagbanwa", "tagb"], ["IUncBpnbdbc"]⟩,
  ⟨["taile", "tale"], ["BDocfcdbEZzkDKwBecf"]⟩,
  ⟨["takri", "takr"], ["DOmcCIDmkBPTuCggk"]⟩,
  ⟨["tamil", "taml"], ["DNtcrcUucbgddbedcbbbcdcdddmefddbecbgbovGKdbCBBkbBOEfbbbCdcETfBynb"]⟩,
  ⟨["tangut", "tang"], ["SEaqTbbEQKmbBfJCaiBDoTsj"]⟩,
  ⟨["telugu", "telu"], ["DNtcrcZqnbdbxbqcjbdbehcbdcbceckhjGFabxb"]⟩,
  ⟨["thaana", "thaa"], ["CHoboccbCmkKsByDPGqbkb"]⟩,
  ⟨["thai"], ["BAybBabBrbBtbEClCgfBc"]⟩,
  ⟨["tibetan", "tibt"], ["FRsCubBkeBnbBkbpbhecMEve"]⟩,
  ⟨["tifinagh", "tfng"], ["BDqbbbcbbbPZaCehcob"]⟩,
  ⟨["tirhuta", "tirh"], ["DNtcrcHKmbCASzkBPAcCuik"]⟩,
  ⟨["todhri", "todr"], ["BDpbcbcbjbbbCwbDTWbCa"]⟩,
  ⟨["toto"], ["BAybGZSlBf"]⟩,
  ⟨["tulutigalari", "tutg"], ["EXakGBqbbbCASxgHfbBOJekbbcbbBmbkbbcbbebkbcic"]⟩,
  ⟨["yezidi", "yezi"], ["CHobobdbCmkDWAgBqbdcc"]⟩,
  ⟨["yiii", "yi"], ["SErcfkciIpbBQBcBSvdCdBIIcf"]⟩
]

end PageHarvest.Regex.Property
