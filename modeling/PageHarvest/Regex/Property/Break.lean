import PageHarvest.Regex.Property.Basic

/-!
# Boundary classes

The classes of characters by which texts are cut into graphemes, words and sentences, of version
16.0 of the Unicode character database.
-/

namespace PageHarvest.Regex.Property

/-- Classes for graphemes. -/
def graphemeBreak : List Entry := [
  ⟨["cr"], ["nb"]⟩,
  ⟨["control", "cn"], ["akbcbsDrBhnbCBmbGUrbDAqbccyhBxqDGHjbJgmTUaqBZQueHWxiBTKZlBgDsEyJgFIm"]⟩,
  ⟨["extend", "ex"],
    ["BDoEiKphKdBtbbbcbcbbCulBwvqbDxhcgccbeBjbBeBbDnlCgjjbyebjbdbfBrdChjBqybBgCdbbbeiebdhkcBdbCgbbb",
     "ceibjbkcBabccCfbececcddbBecdblcCfbefbcebucwgbbCgbbcbeibhdkcBebChbbbmbjbBobdbCdbbdfdbehclcBdbC",
     "gbccbbddbehclcBccCfcbbceibjbkcBdbCubebcdbbibDdbchmiDubcjlhCvcBbbbbbbCdobfbcflbBkjbDyebgbccczc",
     "edqenbccgbpbBBbdBKkeBcdBdcBecCmcbhibcljbBtdbbEncBibEodecjbgdIlccbCgbbhbbbbcigkcbBwBfBxeBwkedB",
     "mjmcBgecgCebbcdbbfCeiccFwdbnbhebgbdcHqCmUebHnBhEOcdFlbDsBgVigEbcBSQeebkBgcDccKmbdbebzcfbFvcBa",
     "snbBmizlbbBsdBwbcecccbBkbCpgccccmbibBvbBzbbdccfcbbBqcibJebcbebBDZsbBCjqqqOccXhbIsbFtfCMgdbcfe",
     "BodebGjcWbeCnfMfcDbeCslBxeEtbCcpBpbcckdBxecchbCjdBkfbiCkbmcCajbbiecbDrdcegbcbGbbdivcCfcbbbbmb",
     "jbohdfCpbcgbbcbbdedbbocDhicdbbxbDdbcgbbcbbcbcJbbcegcbcBbcDhicbbcEcbbbciDxbbbcebfJzjbcJlbkeebF",
     "oeccebBgkBogceibjgcdBunbcPqhbgbbDewchbcbcEsgdbbcbhbbCucdbbbNjclcCaffdxbHXtbgpQYymddDSafChhBOi",
     "bCleDdblcBDAxcGYzBucxUwfdgiichBeeFsdCYdCdeByibobwfbpCAihbrchbcbfDwbGehOlbCjeToeJucBCihEfhEBgf",
     "BSXYuDsEyJg"]⟩,
  ⟨["l"], ["GLkDsCFOqBd"]⟩,
  ⟨["lf"], ["kb"]⟩,
  ⟨["lv"],
    ["CNDobBbbBbbBbbBbbBbbBbbBbbBbbBbbBbbBbbBbbBbbBbbBbbBbbBbbBbbBbbBbbBbbBbbBbbBbbBbbBbbBbbBbbBbbB",
     "bbBbbBbbBbbBbbBbbBbbBbbBbbBbbBbbBbbBbbBbbBbbBbbBbbBbbBbbBbbBbbBbbBbbBbbBbbBbbBbbBbbBbbBbbBbbB",
     "bbBbbBbbBbbBbbBbbBbbBbbBbbBbbBbbBbbBbbBbbBbbBbbBbbBbbBbbBbbBbbBbbBbbBbbBbbBbbBbbBbbBbbBbbBbbB",
     "bbBbbBbbBbbBbbBbbBbbBbbBbbBbbBbbBbbBbbBbbBbbBbbBbbBbbBbbBbbBbbBbbBbbBbbBbbBbbBbbBbbBbbBbbBbbB",
     "bbBbbBbbBbbBbbBbbBbbBbbBbbBbbBbbBbbBbbBbbBbbBbbBbbBbbBbbBbbBbbBbbBbbBbbBbbBbbBbbBbbBbbBbbBbbB",
     "bbBbbBbbBbbBbbBbbBbbBbbBbbBbbBbbBbbBbbBbbBbbBbbBbbBbbBbbBbbBbbBbbBbbBbbBbbBbbBbbBbbBbbBbbBbbB",
     "bbBbbBbbBbbBbbBbbBbbBbbBbbBbbBbbBbbBbbBbbBbbBbbBbbBbbBbbBbbBbbBbbBbbBbbBbbBbbBbbBbbBbbBbbBbbB",
     "bbBbbBbbBbbBbbBbbBbbBbbBbbBbbBbbBbbBbbBbbBbbBbbBbbBbbBbbBbbBbbBbbBbbBbbBbbBbbBbbBbbBbbBbbBbbB",
     "bbBbbBbbBbbBbbBbbBbbBbbBbbBbbBbbBbbBbbBbbBbbBbbBbbBbbBbbBbbBbbBbbBbbBbbBbbBbbBbbBbbBbbBbbBbbB",
     "bbBbbBbbBbbBbbBbbBbbBbbBbbBbbBbbBbbBbbBbbBbbBbbBbbBbbBbbBbbBbbBbbBbbBbbBbbBbbBbbBbbBbbBbbBbbB",
     "bbBbbBbbBbbBbbBbbBbbBbbBbbBbbBbbBbbBbbBbbBbbBbbBbbBbbBbbBbbBbbBbbBbbBbbBbbBbbBbbBbbBbbBbbBbbB",
     "bbBbbBbbBbbBbbBbbBbbBbbBbbBbbBbbBbbBbbBbbBbbBbbBbbBbbBbbBbbBbbBbbBbbBbbBbbBbbBbbBbbBbbBbbBbbB",
     "bbBbbBbbBbbBbbBbbBbbBbbBbbBbbBbbBbbBbbBbbBbbBbbBbbBbbBbbBbbBbbBbbBbbBbbBbbBbbBbbBbb"]⟩,
  ⟨["lvt"],
    ["CNDpBbbBbbBbbBbbBbbBbbBbbBbbBbbBbbBbbBbbBbbBbbBbbBbbBbbBbbBbbBbbBbbBbbBbbBbbBbbBbbBbbBbbBbbBb",
     "bBbbBbbBbbBbbBbbBbbBbbBbbBbbBbbBbbBbbBbbBbbBbbBbbBbbBbbBbbBbbBbbBbbBbbBbbBbbBbbBbbBbbBbbBbbBb",
     "bBbbBbbBbbBbbBbbBbbBbbBbbBbbBbbBbbBbbBbbBbbBbbBbbBbbBbbBbbBbbBbbBbbBbbBbbBbbBbbBbbBbbBbbBbbBb",
     "bBbbBbbBbbBbbBbbBbbBbbBbbBbbBbbBbbBbbBbbBbbBbbBbbBbbBbbBbbBbbBbbBbbBbbBbbBbbBbbBbbBbbBbbBbbBb",
     "bBbbBbbBbbBbbBbbBbbBbbBbbBbbBbbBbbBbbBbbBbbBbbBbbBbbBbbBbbBbbBbbBbbBbbBbbBbbBbbBbbBbbBbbBbbBb",
     "bBbbBbbBbbBbbBbbBbbBbbBbbBbbBbbBbbBbbBbbBbbBbbBbbBbbBbbBbbBbbBbbBbbBbbBbbBbbBbbBbbBbbBbbBbbBb",
     "bBbbBbbBbbBbbBbbBbbBbbBbbBbbBbbBbbBbbBbbBbbBbbBbbBbbBbbBbbBbbBbbBbbBbbBbbBbbBbbBbbBbbBbbBbbBb",
     "bBbbBbbBbbBbbBbbBbbBbbBbbBbbBbbBbbBbbBbbBbbBbbBbbBbbBbbBbbBbbBbbBbbBbbBbbBbbBbbBbbBbbBbbBbbBb",
     "bBbbBbbBbbBbbBbbBbbBbbBbbBbbBbbBbbBbbBbbBbbBbbBbbBbbBbbBbbBbbBbbBbbBbbBbbBbbBbbBbbBbbBbbBbbBb",
     "bBbbBbbBbbBbbBbbBbbBbbBbbBbbBbbBbbBbbBbbBbbBbbBbbBbbBbbBbbBbbBbbBbbBbbBbbBbbBbbBbbBbbBbbBbbBb",
     "bBbbBbbBbbBbbBbbBbbBbbBbbBbbBbbBbbBbbBbbBbbBbbBbbBbbBbbBbbBbbBbbBbbBbbBbbBbbBbbBbbBbbBbbBbbBb",
     "bBbbBbbBbbBbbBbbBbbBbbBbbBbbBbbBbbBbbBbbBbbBbbBbbBbbBbbBbbBbbBbbBbbBbbBbbBbbBbbBbbBbbBbbBbbBb",
     "bBbbBbbBbbBbbBbbBbbBbbBbbBbbBbbBbbBbbBbbBbbBbbBbbBbbBbbBbbBbbBbbBbbBbbBbbBbbBbbBbbBb"]⟩,
  ⟨["prepend", "pp"], ["CHcgIhbBxbOucDcbBRnbDUGkbpbJkcUfbCBlbbbJobCvgBAybRbb"]⟩,
  ⟨["regionalindicator", "ri"], ["HGOkBa"]⟩,
  ⟨["spacingmark", "sm"],
    ["DKtbCdbcdiebcBycChcgcccCcbCgdCobCgdibbcCbcCibgcccEkbbcddbdCadCjeCjcCgbcbbcBubocChcfdbdCbcCycg",
     "htcClbExbFicClbGvbjczcBsbCSvbhibcNiecdecbgIqcCgbbbvgFpbCfeCmbBebecClbcdbbCbiicGpbvbCAShccbDkc",
     "ByqFmbBwbBwcecccEhcccybGbbccfbJdcbcbcbbBLXjbbbExbBtdecElbycChbBwdjbobDpddcGqdBfcChbbeccccvcDh",
     "cpbbcDzdicdbEdcgbbcbbcbJecgecbEjdicbbEfbbcEgbhbKbdjbJofbchbbbFmdieebDgbBdcCkbPrbobEcbhbcbIffe",
     "cbbNmcmbBwcicYZadFJgCd"]⟩,
  ⟨["t"], ["GRwDkCWXnBx"]⟩,
  ⟨["v"], ["GPcCuCWZwxCERcbde"]⟩,
  ⟨["zwj"], ["MDpb"]⟩
]

/-- Classes for words. -/
def wordBreak : List Entry := [
  ⟨["aletter", "le"],
    ["CnBagBaBvbkbebfxbBfbSmgBiEifbccebbgbbdbbbubDfbFjiGkbBmcebbbBpbbEabBsBrBjcbDvbbpchckdcbpcbBeBd",
     "DllbyBhjcebfwebjbdbxzhlfybgrBqCgCcdbsbhkpqeicccwbhbbdedbqbncbdockbigeccwbhbcbcbcBfebbtdqjbdbw",
     "bhbcbfdbsbpcxblicccwbhbcbfdbBecbdpbrbbgddbedcbbbcdcdddmwbCaibdbxbqdbBadcbccBebeibdbxbkbfdbBfc",
     "bcpcrjbdbBpcbqbfdidygfsdybjbbchMbbClibBkBbfKpBmbbfbcBrbMvbechbbbecBpbecBhbechbbbecpbCfbecCpBl",
     "qqDicgdXwcrbBafCxdlhsntosonbdGtDlhfcBibbfCskBfIrxJeBvriCcBenckBsBaBkBpdkBkclfBrcdBpebgbcdbfHk",
     "CmKscgcBmcgcibbbbbbbBfcCbbhbbddbhdecgenfdbhEmbnbqnDxbebckbbdfgbbbbbbeblceffebrBpBFhCaCRuIvged",
     "cmBmbbfbcCehbqxjhbhbhbhbhbhbhbhDcbSbbCbcHsBrbDqrBgBPToBSvCpBucKjdqkcuBvqBfcDcyHqccbbbivqbdbeb",
     "xBdCaoByCkgdbbclBckxzBdhBvBcbBwBpxdbiFslhdmgcgcgjhbhbCggElBdQNsmxeBxNGuhmfCeDuBhNzsCmcCcBomEm",
     "fbFfBkBagBaCrBfdgcgcgcdBjmbBabtbcbpcoBiEtCrCbKhBddBxBvBgnBefBmkBecBkeibfBqGcsBkeBkeBoiCamlbpb",
     "hbcblbpbhbcdCamLzjwkiygbBqbjCrgcbbBsbcdbcxkxjBfCntbckwkBaCsCegcCmbpebdbBdBqBddBdBjibBcBbCckwk",
     "tnsEgCvCdBznBznBkBmBcjxJqBqgcqdChBdkbiwBqsBuvBbxmCbCfccbnBtBgzBaBkBdbcbiBjdbmBwoevbbbBjsbztcC",
     "lhbbbebpbkhBvBmicccwbhbcbfdbsbmfBekbbcbbBmbbzbbbBsCbseudBeBwucbbHcBvBpeBkBwubChBrnbMpBsEmCmBf",
     "icbcibcbypbbbDqicBnqbbbBcbkBohbvblButbsCvHrBhBfjbBlrbBxBeEihbcbBmvbzgbcbBgobMptpbbnbBiEubDbBJ",
     "mDyEhrHoDXkDtpBPgrgzFXrfWlKDdBeCPuVxhBfrDbrBesBwqeBfvftQqBtIdCmEyCxfbConCmcbbBCVkEdfndjhkIWkD",
     "hbCtbccbcccebmbbbhbCnbecibhbBcbebfbbdhbNcczbzbBfbzbBfbzbBfbzbBfbzbiCSyBfggKbCkFqBtkhqbMjBesBs",
     "SqBcIuBecbTbhbebcbpbHpChCqhbBUiebBbbcbbcbbkbebbbbgbebbbbbbdbcbbcbbbbbbbbbbcbbcebhbebebbbkbrfd",
     "bfbrYeBagBagBa"]⟩,
  ⟨["cr"], ["nb"]⟩,
  ⟨["doublequote", "dq"], ["Bib"]⟩,
  ⟨["extend"],
    ["BDoEiKphKdBtbbbcbcbbCulBwvqbDxhcgccbeBjbBeBbDnlCgjjbyebjbdbfBrdChjBqybBhCcdbsbhkcBddCebbhcccd",
     "jbkcBabcdCebbfeccddbBecdbldCebbibdbducwgbdCebbhcccdhdkcBebChfddbejbBofCdbbhbdbehclcBddCebbhbd",
     "behclcpbmeCdcbhbdbejbkcBddCsbegbbbiscCjbchmiDubcjlhCvcBbbbbbbecBxubcflbBkjbDwuxeedbdchdenmbbk",
     "eBBbdBKkeBcdBdcBecCmBgjbBtdbbEncBibEomemIlfCfkbBdcbBwBfBxfBvrBmjmdBenCeoBwuFwdbvebgbcdHqCmUeb",
     "HnBhEOcdFlbDsBgVigEbcBSQeebkBgcDccKmbdbebxfebDfcBysBasnbBmiznBseBvoBkbCpombicBtdBybbdccfcbbBp",
     "ffcJcibcBDZsbBCjqqqOccXhbIsbFtfCMgdbcfeBodebGjcWbeCnfMfcDbeCslBxeEsdCbpBpbcckeBtlhbCjdBkoqcBs",
     "bmdBwoiebcDomgbcbGbmveCdcbhcccdjbkcchdfCpjbbcbbebfbbocDesxbDduJbhcjBbcDerEcnDxpJwpJlgbccebbbc",
     "FlhchdbBckBohbeibjlBuqPpibiDewboEsgdbbcbhbbCofbcbfNjejcbbBwhdfxbHXtbgpQYysDSafChhBOibbCdheDdb",
     "lcBDAxcGYzBucxUwfdgiichBeeFsdCYdCdeByibobwfbpCAihbrchbcbfDwbGehOlbCjeToeJucBCihEfhEBgfBSXYuDs",
     "EyJg"]⟩,
  ⟨["extendnumlet", "ex"], ["DrbMBfbpctbDGAocydJfb"]⟩,
  ⟨["format", "fo"], ["GrbCBmbGUrbDAtcBafBxfbkDGHjbJpdTUaqBZQueHWxiBTKZmb"]⟩,
  ⟨["hebrewletter", "hl"], ["CFgBbeeDOVybbkbnbfbbbcbcbk"]⟩,
  ⟨["katakana", "ka"], ["SGnfDxcdDnbeJgqIaBvbDkCZHeCeCOUcebhbcbbLbdByboe"]⟩,
  ⟨["lf"], ["kb"]⟩,
  ⟨["midletter", "ml"], ["CgbEubBBrbSdbFsbJXybDGBbbCnbHob"]⟩,
  ⟨["midnum", "mn"], ["BsbobBGcbUcbFacDqbPfbJFfbDGChbdbHbbob"]⟩,
  ⟨["midnumlet", "mb"], ["BubMCfckbDGDpbGybgb"]⟩,
  ⟨["newline", "nl"], ["lcEqbLZmc"]⟩,
  ⟨["numeric", "nu"],
    ["BwkCEwgDmkbbEjbskHqkHqcDcbFbkEokEokEokEokEokEokEokEokEokDskEokCskKskCskCTqkBmkLokEylGjkgkHakD",
     "ikFekgkCAEokBAckBmkHqkwkDikPqkBFMckCCkkDFykgkBEqkCzbpbBikCikFokKskNekEokOkkDykguCykQgkDykZmkD",
     "ikJmkCskQgkYYgkDMckDikFekUokBKDykECqByDNckQgkTikJnkBGvkHBak"]⟩,
  ⟨["regionalindicator", "ri"], ["HGOkBa"]⟩,
  ⟨["singlequote", "sq"], ["Bnb"]⟩,
  ⟨["wsegspace"], ["BgbIMhbDPnhbdDgbFXwb"]⟩,
  ⟨["zwj"], ["MDpb"]⟩
]

/-- Classes for sentences. -/
def sentenceBreak : List Entry := [
  ⟨["aterm", "at"], ["BubMCrbDGDpbHfb"]⟩,
  ⟨["cr"], ["nb"]⟩,
  ⟨["close", "cl"],
    ["BibedBxbbbBdbbbBtbpbFMseCUncDPjizckcCccocYjeBdcBPgghoDbcBfkPnwCleBgcBNmoocckybsiQlkcibdCZRqcI",
     "hcBcqccqgGncBxbbbBdbbbbcbcDPOsd"]⟩,
  ⟨["extend", "ex"],
    ["BDoEiKphKdBtbbbcbcbbCulBwvqbDxhcgccbeBjbBeBbDnlCgjjbyebjbdbfBrdChjBqybBhCcdbsbhkcBddCebbhcccd",
     "jbkcBabcdCebbfeccddbBecdbldCebbibdbducwgbdCebbhcccdhdkcBebChfddbejbBofCdbbhbdbehclcBddCebbhbd",
     "behclcpbmeCdcbhbdbejbkcBddCsbegbbbiscCjbchmiDubcjlhCvcBbbbbbbecBxubcflbBkjbDwuxeedbdchdenmbbk",
     "eBBbdBKkeBcdBdcBecCmBgjbBtdbbEncBibEomemIlfCfkbBdcbBwBfBxfBvrBmjmdBenCeoBwuFwdbvebgbcdHqCmUec",
     "HmBhEOcdFlbDsBgVigEbcBSQeebkBgcDccKmbdbebxfebDfcBysBasnbBmiznBseBvoBkbCpombicBtdBybbdccfcbbBp",
     "ffcJcibcBDZsbBCjqqqOccXhbIsbFtfCMgdbcfeBodebGjcWbeCnfMfcDbeCslBxeEsdCbpBpbcckeBtlhbCjdBkoqcBs",
     "bmdBwoiebcDomgbcbGbmveCdcbhcccdjbkcchdfCpjbbcbbebfbbocDesxbDduJbhcjBbcDerEcnDxpJwpJlgbccebbbc",
     "FlhchdbBckBohbeibjlBuqPpibiDewboEsgdbbcbhbbCofbcbfNjejcbbBwhdfxbHXtbgpQYysDSafChhBOibbCdheDdb",
     "lcBDAxcGYzBucxUwfdgiichBeeFsdCYdCdeByibobwfbpCAihbrchbcbfDwbGehOlbCjeToeJucBCihEfhBTCAfDsEyJg"]⟩,
  ⟨["format", "fo"], ["GrbCBmbJibGLibDAqbccBafBxfbkDGHjbJpdTUaqBZQueHWxiBTKZmb"]⟩,
  ⟨["lf"], ["kb"]⟩,
  ⟨["lower", "lo"],
    ["DtBaBvbkbebBkybibbbbbbbbbbbbbbbbbbbbbbbbbbbbbbbbbbbbbbbbbbbbbbbbbbbbbbbcbbbbbbbbbbbbbbbcbbbbb",
     "bbbbbbbbbbbbbbbbbbbbbbbbbbbbbbbbbbbbbbbbbcbbbbdcbbbcbdcebcbddcbcbbbbbcbbcbbcbdbbbcccdgbcbcbbb",
     "bbbbbbbbbbbbbcbbbbbbbbbbbbbbbbbccbbbdbbbbbbbbbbbbbbbbbbbbbbbbbbbbbbbbbbbbbbbbbbbbbbbbbbbbbbbb",
     "bbhcbccbbebbbbbbbbCrbBkhcBefFkbbbdbcesbBbBjbcddbbbbbbbbbbbbbbbbbbbbbbbfbbcbccBzBwbbbbbbbbbbbb",
     "bbbbbbbbbbbbbbbbbbbbbbjbbbbbbbbbbbbbbbbbbbbbbbbbbbbbbbbbbbbbbbbbbbbbbbbbbbbbcbbbbbbbbbbbbcbbb",
     "bbbbbbbbbbbbbbbbbbbbbbbbbbbbbbbbbbbbbbbbbbbbbbbbbbbbbbbbbbbbbbbbbbbbbbbbbbbbbbbbbbbbbbbbbbbbb",
     "BwBpEItbBDjgDFujbbEnHkCnbbbbbbbbbbbbbbbbbbbbbbbbbbbbbbbbbbbbbbbbbbbbbbbbbbbbbbbbbbbbbbbbbbbbb",
     "bbbbbbbbbbbbbbbbbbbbbbbbbbbbbbbbbbbbbbbbbbbbbbbbbbbbbbbbbbbbbbbbbbbbbbbbbbbbbbbjbbbbbbbbbbbbb",
     "bbbbbbbbbbbbbbbbbbbbbbbbbbbbbbbbbbbbbbbbbbbbbbbbbbbbbbbbbbbbbbbbbbbbbbbbbbbbbbbbbbbbjigkiiiig",
     "kiiiiociiiiiifbcgbddbciecciikdbcErbnbqnEfbdcdbBbbebebccieebBhqebBGlBaCTqBwbbdcbbbbbbebbcbidbb",
     "bbbbbbbbbbbbbbbbbbbbbbbbbbbbbbbbbbbbbbbbbbbbbbbbbbbbbbbbbbbbbbbbbbbbbbbbbbbbbbbbbbbbbbbbbbbbb",
     "bbbchbbbebmBmbbfbBTWdbbbbbbbbbbbbbbbbbbbbbbbbbbbbbbbbbbbbbbbbbbbbbtbbbbbbbbbbbbbbbbbbbbbbbbbb",
     "dFdbbbbbbbbbbbbdbbbbbbbbbbbbbbbbbbbbbbbbbbbbbbbbbbbbbbbbbbbbbbbbbbbbbbbbbbbbbkbbbbcbbbbbbbbbe",
     "bbbcbbdbbbbbbbbbbbbbbbbbbbbfbfbbbbbbbbbbbbbbbebbbcbdbbbbbbbbbbbwdbbbdBFpBrbogDcBEAihmfBOzBaBV",
     "hBoFgBkFzlbpbhbcRjbcdbBqbjBXlBzEvwEGoBgBGJwBgBMMkBaBahbsBaBaBaebbbhblBaBaBaBaBaBaBaBaBaBaBaBa",
     "BaBaBaBaBaBcBczbgBazbgBazbgBazbgBazbgbbCSykbuggKbCkDHsBi"]⟩,
  ⟨["numeric", "nu"],
    ["BwkCEwgDmkbcEibskHqkHqcDcbFbkEokEokEokEokEokEokEokEokEokDskEokCskKskCskCTqkBmkLokEylGjkgkHakD",
     "ikFekgkCAEokBAckBmkHqkwkDikPqkBFMckCCkkDFykgkBEqkCzbpbBikCikFokKskNekEokOkkDykguCykQgkDykZmkD",
     "ikJmkCskQgkYYgkDMckDikFekUokBKDykECqByDNckQgkTikJnkBGvkHBak"]⟩,
  ⟨["oletter", "le"],
    ["RbbeeIabBkhgmBabbbFdbSqbEoBbefBsBrBjcbDvbbpchckdcbqbbBeBdDllbyBhjcebfwebjbdbxzhlfybgrBqCgCcdb",
     "sbhkpqeicccwbhbbdedbqbncbdockbigeccwbhbcbcbcBfebbtdqjbdbwbhbcbfdbsbpcxblicccwbhbcbfdbBecbdpbr",
     "bbgddbedcbbbcdcdddmwbCaibdbxbqdbBadcbccBebeibdbxbkbfdbBfcbcpcrjbdbBpcbqbfdidygfsdybjbbchCgBwb",
     "cmhCgcbbbfbybbbkbcjbcfbbveBgbClibBkBbfElBrubqgeedbdchdenmbCnBrcMubechbbbecBpbecBhbechbbbecpbC",
     "fbecCpBlqEjXwcrbBafCxdlhsntosonbdpCaBjbebCpDlhfcBibbfCskBfBxBecflBseBaCcxjCbDebDpBvriCcBenckB",
     "sBaBkBpdkBksBrcdBpebgbcdbBPqeCtdceEKtCehbqxjhbhbhbhbhbhbhbhDcbSbdzjhfcfeDigdbDmbefBrbDqrBgBwq",
     "TsJToCmBGUfCpBucKjdqkcCobqbBgDcBnjEabgbDzbdhbdbebxBdCaoByCkgdbbclBckxzBdhBvBcbqfbkkfbBpxdbiux",
     "dbdBybbdccfcbbbydclhdmgcgcgjhbhFpBjBdQNsmxeBxMNcOccEcCpbbkbnbfbbbcbcbEeBhNzsCmcCcBomEmfbFfEbC",
     "ecBfdgcgcgcdBjmbBabtbcbpcoBiEtCrCbKhBddBxBvBgnBefBmkBecBkeibfEsDaDuBoiCaDoCamLzjwkizcEvgcbbBs",
     "bcdbcxkxjBfCntbckwkBaCsCegcCmbpebdbBdBqBddBdBjibBcBbCckwktnsEgCvHbBkBmgBfbKmBqgcqdChBdkbiwBqs",
     "BuvBbxmCbCfccbnBtBgzBaBkBdbcbiBjdbmBwoevbbbBjsbztcClhbbbebpbkhBvBmicccwbhbcbfdbsbmfBekbbcbbBm",
     "bbzbbbBsCbseudBeBwucbbHcBvBpeBkBwubChBrnbCtBbBlhHdBsIdicbcibcbypbbbDqicBnqbbbBcbkBohbvblButbs",
     "CvHrBhBfjbBlrbBxBeEihbcbBmvbzgbcbBgobMptpbbnbBiEubDbBJmDyEhrHoDXkDtpBPgrgzFXrfWlKDdBeCPuVxhBf",
     "rDbrBesBwqeBfvftQqBtPnCxfbConCmcbbBcJCaiBVqBpkNFrebhbcbLfpbBddcboeiPgDKuEdfndjhkNBcbThBtkhqbM",
     "jBesBsSqBcIuBecbTbhbebcbpbHpFebBUiebBbbcbbcbbkbebbbbgbebbbbbbdbcbbcbbbbbbbbbbcbbcebhbebebbbkb",
     "rfdbfbrGOaCLFcBgGDugIocINqoLBlpXyDQwUwCFyHHzfGFg"]⟩,
  ⟨["scontinue", "sc"], ["BscmcBGcbSkbGscSwbGBxbfbDBecGAubDAAwcbcBccBdccccbkbGmcmcCub"]⟩,
  ⟨["sterm", "st"],
    ["BhbBdbCAbbFrdGybBrdJmbCjbbbdcLhcCPwcBEkbecBDtbHqcGbcBtbfbMccNqeGgckcccBddHfcCncBKucjdEUxdLubn",
     "bwcQnbBSHwbKkcItbdbOscDicDrbFwcFrdFocJpbBFCwbccClcGnbBdbCnbEDwcBXdfBseHhcEneExdEzcgbqcDkcbcEe",
     "bLmcEncOjcfpEbcJpdTxbbbJrcDjcQecBAqcCwcBCMbcFdbCnclbVhcLkbBDOgbLImb"]⟩,
  ⟨["sep", "se"], ["FdbLZmc"]⟩,
  ⟨["sp"], ["jbbctbExbIHjbDPnlBkbBvbFXwb"]⟩,
  ⟨["upper", "up"],
    ["CnBaDxxbhBhbbbbbbbbbbbbbbbbbbbbbbbbbbbbbbbbbbbbbbbbbbbbbbbbbbbbbbbcbbbbbbbbbbbbbbbcbbbbbbbbbb",
     "bbbbbbbbbbbbbbbbbbbbbbbbbbbbbbbbbbbbcbbbbdcbbbcbdcebcbddcbcbbbbbcbbcbbcbdbbbcdbhcbcbcbbbbbbbb",
     "bbbbbbbbcbbbbbbbbbbbbbbbbbccbbbdbbbbbbbbbbbbbbbbbbbbbbbbbbbbbbbbbbbbbbbbbbbbbbbbbbbbbbbbbbhcb",
     "ccbbebbbbbbbbLdbbbdbibgbbdbbbcbrbjBjbcddbbbbbbbbbbbbbbbbbbbbbbbfbcbbccBzBwbbbbbbbbbbbbbbbbbbb",
     "bbbbbbbbbbbbbbjbbbbbbbbbbbbbbbbbbbbbbbbbbbbbbbbbbbbbbbbbbbbbbbbbbbbbbcbbbbbbbbbbbbcbbbbbbbbbb",
     "bbbbbbbbbbbbbbbbbbbbbbbbbbbbbbbbbbbbbbbbbbbbbbbbbbbbbbbbbbbbbbbbbbbbbbbbbbbbbbbbbbbbbcBmEHdBm",
     "bbfbBBuDiDGlbOkbbbbbbbbbbbbbbbbbbbbbbbbbbbbbbbbbbbbbbbbbbbbbbbbbbbbbbbbbbbbbbbbbbbbbbbbbbbbbb",
     "bbbbbbbbbbbbbbbbbbbbbbbbbbbbbbbbbbbbbbbbbbbbbbbbbbbbbbbbbbbbbbbbbbbbbbbjbbbbbbbbbbbbbbbbbbbbb",
     "bbbbbbbbbbbbbbbbbbbbbbbbbbbbbbbbbbbbbbbbbbbbbbbbbbbbbbbbbbbbbbbbbbbbbbbbbbbbjiigkiiiiglbbbbbb",
     "biiyiiiiiiflflemflfKbbebddcdcbdfgbbbbbbecekcfbBaqtbBFmBaCSuBwBwbbdcbbbbbbebbcbidbbbbbbbbbbbbb",
     "bbbbbbbbbbbbbbbbbbbbbbbbbbbbbbbbbbbbbbbbbbbbbbbbbbbbbbbbbbbbbbbbbbbbbbbbbbbbbbbbbbbbbibbbebBT",
     "YjbbbbbbbbbbbbbbbbbbbbbbbbbbbbbbbbbbbbbbbbbbbbbtbbbbbbbbbbbbbbbbbbbbbbbbbbbFfbbbbbbbbbbbbbdbb",
     "bbbbbbbbbbbbbbbbbbbbbbbbbbbbbbbbbbbbbbbbbbbbbbbbbbbbbbbbbbbkbbbbcbbbbbbbbebbbcbbbdbbbbbbbbbbb",
     "bbbbbbbbbfbfbbbbbbbbbbbbbbbebbbcdbfbbbbbbbybBHAhBaBUzBoFgBkGalbpbhbcCQcBzGbwEGoBgBGJwBgBMMqBa",
     "BaBaBaBaBabbccbcccebiBaBaBacbecibhBbcbebfbbdhBbBaBaBaBaBaBaBaBaBaBaBaBezBhzBhzBhzBhzBhbGNlBiD",
     "BiBagBagBa"]⟩
]

end PageHarvest.Regex.Property
