import PageHarvest.Regex.Property.Basic

/-!
# Ages

The characters that each version of the Unicode character database added, oldest version first.
-/

namespace PageHarvest.Regex.Property

/-- The additions of each version. -/
def age : List Entry := [
  ⟨["1.1", "v11"],
    ["aTieBeCeDlhBvbkwCsBacscebdbfhbbbubBsbhdbbbbbbbbsnmbCobmbBpjCbccccdBcciccCdBmchbBnbbBmkbjmBbff",
     "xbobdbbBaftnocCucfbpbBeckTzdbCbcscfdzqdbicccwbhbbdecbbhcccdjbecbfcvhbcgeccwbhbcbcbccbbfeccdle",
     "bbhpmdbhbbbdbwbhbcbfckbdbdcbpbfkrdbicccwbhbccecidccdicecbdelrcbgddbedcbbbcdcdddibdefddbejbpmo",
     "dbibdbxbkbfehbdbehcjcekscbibdbxbkbfehbdbehchbbcekscbibdbxbqegcdbejbicekFpCgeBdBlcbbccbbcbgebh",
     "bdbbbbccbnbdcfbbbgckccRiBmkBnebeDmfCqfDeEOkFzfDmgwcgcBmcgcibbbbbbbBfcCbbpbocgbtcdbjbBvbxBjhdB",
     "brlBlsBeCfBaBwnDnvJiobbErFdBlBblvFjvFukDcqugDiFpebecBcbBjbbbedbbhchoBfdyboDDhCehbbDgegcDqgBoe",
     "DqbqDsBddBkBcBcdBypmeBvbEpeDvcBfJWbBEXyYJqJXuIchmfgzbfbbbcbcbEeBhObqCmcCcBomBkemvekbtbeedbbbF",
     "fcbbDqcDqdgcgcgcddhbhod"]⟩,
  ⟨["2.0", "v20"],
    ["CCvrbnubDMxCubBhhBbegbbbvdhbbFQnbUhbCATwQNsEIFycDSYocDSYocDSYocDSYocDSYocDSYocDSYocDSYocDSYoc",
     "DSYocDSYocDSYocDSYoHLXi"]⟩,
  ⟨["2.1", "v21"], ["MJsbDGOtb"]⟩,
  ⟨["3.0", "v30"],
    ["TieBeicsEnfBxbkfDjjtbEmbdbbbbbbbBebmbCobmbBqcceDocGabHsdDucfbpbBqfbobBedBbCbBxCFhcbsdybjbbchd",
     "begbbbisdOjbBrbxdhbbdbpcbBwBibfbcbhdegBaQghbClbbbechbbbecBnbbbecBfbbbechbbbechbhbxbBfbbbechbB",
     "nbtgBcBjDhmYgjBddDdFnDpdkwpbkgDkiBqCWbbygDrdBycDhcCubDzjKjbErbbBeFicRpiBhbDicPiJwCCeBabDlmIgB",
     "amCiddbNpyWmJTeBFEgBSvdscqbmbdbbBGScbBVvd"]⟩,
  ⟨["3.1", "v31"],
    ["BMycDQQcBgBXwBfbemBbGzBmcBmCZDqJmkBndGyVaDhbCtbccbcccebmbbbebcbCnbecibhbBcbebfbbdhbNaeLeeByPD",
     "wCLEtBETdUwBPCQtbBeDs"]⟩,
  ⟨["3.2", "v32"],
    ["UybLqbtnEacBcbFrcCfcccccBxqNmcMjbDNhcCHjnbhlxjumnbdbcDIxbgfebhfnbCkcByhDepGmmJioEubBeCaKyuFvk",
     "DkiwcDmmckIooDmBceqJwTsBZndDjcicDqbJgqDdpDdpBRDicqbmbdbBGJaChBJdbdqCbcBsbJbc"]⟩,
  ⟨["4.0", "v40"],
    ["UzbsdEpcClrDcifdFvfTwejjCmdFtcpbBtdBddQubHcbCpbbbFgbDgdnbCpbChbEziHlcEFnbskKcBddmemebdBqcfEdB",
     "gBDoEeBCpcIwbZjcLqbKqcEmiocBRaoCRncBxbBrcDaeGleDvcBfbJToCmCOQvbCvcQxmbBabtbcbpcoBiEtfdeBtdjWe",
     "BebbFecBmDcckBGwgcbbBsbcdbcbCYUiDjNybBTKDaJg"]⟩,
  ⟨["4.1", "v41"],
    ["VvlKsfGdeJmcGobBidCpbsbCggJhBeUhbDcbStbBvbBMncLjcbbKgbClbClbBnbBfbBfbBfbpbBnbxcBfBaCGcBqgBagk",
     "ecBgBcccBGmDkZhcbhBxfBdeCbbDcbpbYulWabDxcslfqKkhBGhgJcBvbBvBhEdoBtkCcjbqxjhbhbhbhbhbhbhbhBhye",
     "cBJuqGsbBPItwCToxIzBsBFEaEcBFqkBFaCxUnBkeoCIsebcfibdbBbedejijCXPvCsBRac"]⟩,
  ⟨["5.0", "v50"],
    ["WgoLndMzbBqgqeGkbTxChOucbcBHicncFIjCyeBtWlhBzcBCueDpcCbbXbmBBmbKqeBGjhfeMenheBULjefcLaCeBKOmB",
     "afbIRgBHvFpDvneCOGisBQuc"]⟩,
  ⟨["5.1", "v51"],
    ["BHweccDjbHbbFkqIsflfBgfLqsTdcIobBjbHybBdcEebEebBacicuiHhbgbBdcmgdhSxcDtbddCzbfbcbhdegBaCmecDB",
     "ebBBxBrdmCsCedpdBzMtBcGzeDmgNsbFjbDqbCbeBYabvkdeKebBfeBFffeBpdfKudbdegNqBgyectBDkbGguBPPoiBZo",
     "LouBgcsiBcFbfcEdEgfEyCrjmBmDglbGeCdjockceBFSudBHpmCaBuFaBddBxCKdBafbCXSjbLRqBseDw"]⟩,
  ⟨["5.2", "v52"],
    ["BYqcBCcBucpHlbCzbgbBjcEybCFpeHleHgfCqfDegTsbYgjVoCsGycBubCrClbBdclgkgoVaBjKgbBAudFvdCcbXibBAr",
     "cBddekbtbbeyDjbBNhfKsbncEdhMhbBOcmBPLsiBXkBwQaDkMakGkBcDwBddDablecEyBceCpyfIqBuckQOkxeBxNBbdF",
     "GcwbjHecMmBgEyCcdBdcBbfiEyCvUpBfTtCoLVqBPfCTNdlfBfcblbbbcbdbdfibhbzbbccbkecbEhbpBiojCQLjGDp"]⟩,
  ⟨["6.0", "v60"],
    ["BYscJobCkbSmBccbIlctbgcBbfTmgQrbqbtbWbeCvcBIocDEnCaieTobZoiBcbBFjlBCcbtbbeBdbecBcbBjbbbedjcCa",
     "dybobocCDkbobBPodBSEncLncbcokDcbBDugcgcgjhbhBEMtqHRiDaeBeBHEeVxBALbcYMgpcocpbpDcbblbbbcbdbdfi",
     "bhbkgjbbccbkecbkCxBabcBvjvcGsBhpgbCsdumBlbfvrpClbbbHabedCksyFrfbqbdbbbbbbbdbgcebbcebmelBwCsCg",
     "EmCUQmIo"]⟩,
  ⟨["6.1", "v61"],
    ["CCtbEmbZrbblCdBbTdbBMrcStbfbBvdEBbdmgJwiBreECqbbbBYqcBzbfbCecHukBRAebCNniBjbJicwbCzcBCoxBDZzc",
     "FUuCegcCRozhkgCbboCiCvhkBTuCeikBHKoCrlBvqrBVWiebBbbcbbcbbkbebbbbgbebbbbbbdbcbbcbbbbbbbbbbcbbc",
     "ebhbebebbbkbrfdbfbrCacYicBLseHgbqbdbbbbbbbdbgcebbceb"]⟩,
  ⟨["6.2", "v62"], ["MKgb"]⟩,
  ⟨["6.3", "v63"], ["CIebJYve"]⟩,
  ⟨["7.0", "v70"],
    ["BIlbQiiDpcEobZrblgCybEqbhbYpbBzbCybExbIukDKriVccPlpVxcJdpBBhdBFqhBDtbBQidkBacBgcBidmbiXuhBTOv",
     "gJmmldccCrbSuBfEveGuBwecBFIvhBHdctbMhBcBjbBwBrOzBoiCalbFoLzjwkiJoClijRwBgBgBnemFhshemhBVjbIaB",
     "nDibmbgulsbBrEkChfkhdbicccwbhbcbfcjcccdjbfhchdfKhCuikGkCccsCcCrlkWkDfmbRgCfDFiBqHumfbBALfBfbk",
     "ecDsBecgkCskkbhbvftBEMaEdfndjhkciQKyHpcqCZwbBgwvcUmmjbCsbwmBlbfefmrhCtbbbHabecClcehBdsbBpbDiC",
     "scnBwCskqndeFkDhBrmeCeikgBoiBe"]⟩,
  ⟨["8.0", "v80"],
    ["DHrcBubUnbNobKabCMvbcgEVobHvcDYeeBRWvjCOubJgbBigMmcXmemDcBFFqcEBgtbcffHgccqcBuYqBznBzhgBVdeof",
     "GehbbbebpblDibDbbYjuLeBadpeqERpbIwHoLQqWlCAWllCHzZcpfbpJHddDacDbfBkiJvbCxfJjcFjbWdjDzfChbCUCl",
     "INq"]⟩,
  ⟨["9.0", "v90"],
    ["DHuiwpBJpbHybedbhxdFRzjOgbCHbeDXccBTZlbKsbBHQdcBEvBkeBkFAobRhDmbbbbTunCCxjbBtbokBddBgcwboBFMv",
     "bBfJBptBDbBGFlhbrchbcbfDIzCxfkecDDbsFmbBFybBpbLocBhdVagbiibcmbmepBmn"]⟩,
  ⟨["10.0", "v100"],
    ["DEmlPlcJsgTsbCgcFYwbJueBBhbBFzbCZabYcfBCmbBPXnvBLPidIQqCuiCacxbfXhhbcbBsdbbcbjikBFGpbYHkKzDdP",
     "gYAegBRpcBicTzmtbiibczbsnBmgCexDCPdLBl"]⟩,
  ⟨["11.0", "v110"],
    ["CAybBnbDybUfdIdbLmbEpbPhbExbENrbBOhBrcdFRmdwzepWpfBCibBPYhfCYhbicMmcBKVccsbBAtBoikRmBoiBqOhbE",
     "odTgbLebBAxbIvCiXlbBBegbcbBlbcbghkLyzBEApDnJPifBCJuuEwhJLwCqBScbCEzbIleOidBcfcedbbeylnkhcBkzD",
     "so"]⟩,
  ⟨["12.0", "v120"],
    ["EStbUgbcbcbbgebhbhccbnbFKhbFPubCbbWtbBTZmgcfBJrcBMBgxBRkbXcbBCpicBuclGdcBZmBynbHQujWJkgebBvjD",
     "mcJCwgPRcdreSAqBtdockecOeCgfbCJzbBKnCjBPebCBgbBkbIvmLddBvbBxbjbBpgdckgdicdBwDgBceedfdng"]⟩,
  ⟨["12.1", "v121"], ["TIdb"]⟩,
  ⟨["13.0", "v130"],
    ["DIckZdbQobEubFAjcGJubBAudBHofKPikBFDgnCYseBqcCbbBFveBGQqbEWxBqbdccJuBcOpbFecZabfcBTmhcbcibcbB",
     "ebccmjkCKkbBEJrblcKFxSpBqjBLWudDpdCjbBYucBjcQtcDmbDxbecBqcgdBdbGmboepthhjdnhBpFrbCdBlkCMSjhBH",
     "TqHHz"]⟩,
  ⟨["14.0", "v140"],
    ["CIfbWwBfbcgivbslBHpbBgbExbDWhbhbjbJfbBAnoEvbBwcYlbBBhbEIobBvbTflBRAtdCYicocbbbfydBFTdbOrqExbB",
     "ucCVglbpbhbcblbpbhbcRjgbBqbjCXxBaIwgCybCGsbFehBHpqHWyDvWDxDbbkBAEwebhbcLceLIbBucxjEmVdcEYvBfB",
     "HxBfBZdhbebcbpFQkdKmbPcbDebGscBsekeidrdgiihCNCpcGEve"]⟩,
  ⟨["15.0", "v150"],
    ["EXnbSgbDTAkdBFzdDIckBNarbBpdBcHXdbjBdBVHkbBibMRauERhgKbCkBhbBPwBqGUcbFvdefDlbZrdpcBkdldbbockc",
     "mbocCTHobBIWsGFg"]⟩,
  ⟨["15.1", "v151"], ["SEmeTbbKEIqXy"]⟩,
  ⟨["16.0", "v160"],
    ["DGpbHCgcBvbKfcCWydFFecBSQvdmdBJOlCaCTwBmdBdicLudCdbBSlkbbcbbBmbkbbcbbebkbcicBCvuBVwBiokBHgbHY",
     "zFXrKZtCgEOkCgLYjbXWiJqgQuIToBrebHCckecRnbfbBubhbvbcbjbIrBl"]⟩
]

end PageHarvest.Regex.Property
