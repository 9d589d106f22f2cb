import PageHarvest.Text.CodeSet

/-!
# Tables of composed characters

How characters are made up of others, and the classes of the marks, in version 17.0 of the Unicode
character database. Syllables of Hangul have no entry, because arithmetic tells their parts.
-/

namespace PageHarvest.Text.NormalTable

/-- The marks of one combining class. -/
structure MarkClass where
  number : Nat
  packed : List String

/-- The characters that stand for a character and another one after it, with these two. -/
def packedPairs : List String := [
  "HkcCnBDobcCnBDpbcCnBDqbcCnBDrbcCnBDwbcCnBDyccCpBFbbcCrBDobcCrBDpbcCrBDqbcCrBDwbcCvBDobcCvBDpbcC",
  "vBDqbcCvBDwccDaBDrbcDbBDobcDbBDpbcDbBDqbcDbBDrbcDbBDwdcDhBDobcDhBDpbcDhBDqbcDhBDwbcDlBDpdcDtBDo",
  "bcDtBDpbcDtBDqbcDtBDrbcDtBDwbcDtBDyccDvBFbbcDxBDobcDxBDpbcDxBDqbcDxBDwbcEbBDobcEbBDpbcEbBDqbcEb",
  "BDwccEgBDrbcEhBDobcEhBDpbcEhBDqbcEhBDrbcEhBDwdcEnBDobcEnBDpbcEnBDqbcEnBDwbcErBDpccErBDwbcCnBDsb",
  "cDtBDsbcCnBDubcDtBDubcCnBFcbcDtBFcbcCpBDpbcDvBDpbcCpBDqbcDvBDqbcCpBDvbcDvBDvbcCpBEabcDvBEabcCqB",
  "EabcDwBEadcCrBDsbcDxBDsbcCrBDubcDxBDubcCrBDvbcDxBDvbcCrBFcbcDxBFcbcCrBEabcDxBEabcCtBDqbcDzBDqbc",
  "CtBDubcDzBDubcCtBDvbcDzBDvbcCtBFbbcDzBFbbcCuBDqbcEaBDqdcCvBDrbcEbBDrbcCvBDsbcEbBDsbcCvBDubcEbBD",
  "ubcCvBFcbcEbBFcbcCvBDvecCwBDqbcEcBDqbcCxBFbbcEdBFbccCyBDpbcEeBDpbcCyBFbbcEeBFbbcCyBEabcEeBEafcD",
  "aBDpbcEgBDpbcDaBFbbcEgBFbbcDaBEabcEgBEaecDbBDsbcEhBDsbcDbBDubcEhBDubcDbBDzbcEhBDzdcDeBDpbcEkBDp",
  "bcDeBFbbcEkBFbbcDeBEabcEkBEabcDfBDpbcElBDpbcDfBDqbcElBDqbcDfBFbbcElBFbbcDfBEabcElBEabcDgBFbbcEm",
  "BFbbcDgBEabcEmBEadcDhBDrbcEnBDrbcDhBDsbcEnBDsbcDhBDubcEnBDubcDhBDybcEnBDybcDhBDzbcEnBDzbcDhBFcb",
  "cEnBFcbcDjBDqbcEpBDqbcDlBDqbcErBDqbcDlBDwbcDmBDpbcEsBDpbcDmBDvbcEsBDvbcDmBEabcEsBEaBicDbBEpbcEh",
  "BEpocDhBEpbcEnBEpBdcCnBEabcDtBEabcCvBEabcEbBEabcDbBEabcEhBEabcDhBEabcEnBEabcImBDsbcJsBDsbcImBDp",
  "bcJsBDpbcImBEabcJsBEabcImBDobcJsBDoccHoBDsbcIuBDsbcVeBDsbcVfBDsbcHqBDsbcIwBDsdcCtBEabcDzBEabcCx",
  "BEabcEdBEabcDbBFcbcEhBFcbcSwBDsbcSxBDsbcQxBEabcZiBEabcEcBEaecCtBDpbcDzBDpdcDaBDobcEgBDobcHpBDpb",
  "cIvBDpbcHqBDpbcIwBDpbcIiBDpbcJoBDpbcCnBEdbcDtBEdbcCnBEfbcDtBEfbcCrBEdbcDxBEdbcCrBEfbcDxBEfbcCvB",
  "EdbcEbBEdbcCvBEfbcEbBEfbcDbBEdbcEhBEdbcDbBEfbcEhBEfbcDeBEdbcEkBEdbcDeBEfbcEkBEfbcDhBEdbcEnBEdbc",
  "DhBEfbcEnBEfbcDfBFabcElBFabcDgBFabcEmBFadcCuBEabcEaBEahcCnBDvbcDtBDvbcCrBFbbcDxBFbbcIgBDsbcJmBD",
  "sbcIfBDsbcJlBDsbcDbBDvbcEhBDvbcVmBDsbcVnBDsbcDlBDsbcErBDsNacGmBDpbcBJdBDpccBJhBDpbcBJjBDpbcBJlB",
  "DpccBJrBDpccBJxBDpbcBKbBDpbcBLiBDpBacBJlBDwbcBJxBDwbcBKjBDpbcBKnBDpbcBKpBDpbcBKrBDpbcBLjBDpBacB",
  "KrBDwbcBLdBDwbcBKxBDpbcBLdBDpbcBLhBDpfcBLqBDpbcBLqBDwBscBOfBDobcBOfBDwccBOdBDpecBNqBDwfcBOkBDpb",
  "cBOiBDobcBOtBDulcBOiBDuBgcBPoBDuxcBPlBDobcBPlBDwccBPjBDpecBQsBDwfcBPqBDpbcBPoBDobcBPzBDuycBRwBE",
  "dbcBRxBEdCwcBOgBDubcBPmBDuocBOaBDubcBPgBDubcBOaBDwbcBPgBDwdcBOfBDubcBPlBDudcBVsBDwbcBVtBDwbcBOg",
  "BDwbcBPmBDwbcBOhBDwbcBPnBDwdcBOiBDsbcBPoBDsbcBOiBDwbcBPoBDwbcBOoBDwbcBPuBDwdcBWiBDwbcBWjBDwbcBP",
  "dBDwbcBQjBDwbcBOtBDsbcBPzBDsbcBOtBDwbcBPzBDwbcBOtBDzbcBPzBDzbcBOxBDwbcBQdBDwdcBPbBDwbcBQhBDwLlc",
  "CIpCKhbcCIpCKibcCJwCKibcCIpCKjbcCJyCKiFycCPhCKiccCOnCKircCPeCKiXacDMeDMyicDMmDMydcDMpDMyFvcDShD",
  "RybcDShDSxOqcEHbEHqdcEHbEGsbcEHbEHrCucEJyEMpCccELyELqbcELzELqbcELyEMpEucEQwERmEqcEVnEWjhcEVuEWj",
  "bcEVuEWkccEVuEVqbcEVyEWjExcFAsFAkbcFAtFAkbcFAsFBjFmcFGjFFuccFGjFFzbcFGmFFubcFGjFGpWmcGCzGDiEDcc",
  "KGbKHxccKGdKHxccKGfKHxccKGhKHxccKGjKHxecKGnKHxBpcKIcKHxccKIeKHxdcKIgKHxbcKIhKHxccKIkKHxBAzcCnBE",
  "zbcDtBEzbcCoBDvbcDuBDvbcCoBExbcDuBExbcCoBFlbcDuBFlbcHrBDpbcIxBDpbcCqBDvbcDwBDvbcCqBExbcDwBExbcC",
  "qBFlbcDwBFlbcCqBFbbcDwBFbbcCqBFhbcDwBFhbcKoBDobcKpBDobcKoBDpbcKpBDpbcCrBFhbcDxBFhbcCrBFkbcDxBFk",
  "bcVgBDubcVhBDubcCsBDvbcDyBDvbcCtBDsbcDzBDsbcCuBDvbcEaBDvbcCuBExbcEaBExbcCuBDwbcEaBDwbcCuBFbbcEa",
  "BFbbcCuBFibcEaBFibcCvBFkbcEbBFkbcHzBDpbcJfBDpbcCxBDpbcEdBDpbcCxBExbcEdBExbcCxBFlbcEdBFlbcCyBExb",
  "cEeBExbcLLmBDsbcLLnBDsbcCyBFlbcEeBFlbcCyBFhbcEeBFhbcCzBDpbcEfBDpbcCzBDvbcEfBDvbcCzBExbcEfBExbcD",
  "aBDvbcEgBDvbcDaBExbcEgBExbcDaBFlbcEgBFlbcDaBFhbcEgBFhbcIfBDpbcJlBDpbcIfBDwbcJlBDwbcMuBDobcMvBDo",
  "bcMuBDpbcMvBDpbcDcBDpbcEiBDpbcDcBDvbcEiBDvbcDeBDvbcEkBDvbcDeBExbcEkBExbcLMwBDsbcLMxBDsbcDeBFlbc",
  "EkBFlbcDfBDvbcElBDvbcDfBExbcElBExbcNiBDvbcNjBDvbcNoBDvbcNpBDvbcLNeBDvbcLNfBDvbcDgBDvbcEmBDvbcDg",
  "BExbcEmBExbcDgBFlbcEmBFlbcDgBFhbcEmBFhbcDhBEybcEnBEybcDhBFkbcEnBFkbcDhBFhbcEnBFhbcNwBDpbcNxBDpb",
  "cNyBDwbcNzBDwbcDiBDrbcEoBDrbcDiBExbcEoBExbcDjBDobcEpBDobcDjBDpbcEpBDpbcDjBDwbcEpBDwbcDjBDvbcEpB",
  "DvbcDjBExbcEpBExbcDkBDvbcEqBDvbcDkBDwbcEqBDwbcDlBDvbcErBDvbcDmBDqbcEsBDqbcDmBExbcEsBExbcDmBFlbc",
  "EsBFlbcEaBFlbcEmBDwbcEpBDybcErBDyccOtBDvfcCnBExbcDtBExbcCnBDxbcDtBDxbcHmBDpbcIsBDpbcHmBDobcIsBD",
  "obcHmBDxbcIsBDxbcHmBDrbcIsBDrbcLPoBDqbcLPpBDqbcJyBDpbcJzBDpbcJyBDobcJzBDobcJyBDxbcJzBDxbcJyBDrb",
  "cJzBDrbcLPoBDubcLPpBDubcCrBExbcDxBExbcCrBDxbcDxBDxbcCrBDrbcDxBDrbcHuBDpbcJaBDpbcHuBDobcJaBDobcH",
  "uBDxbcJaBDxbcHuBDrbcJaBDrbcLQmBDqbcLQnBDqbcCvBDxbcEbBDxbcCvBExbcEbBExbcDbBExbcEhBExbcDbBDxbcEhB",
  "DxbcIeBDpbcJkBDpbcIeBDobcJkBDobcIeBDxbcJkBDxbcIeBDrbcJkBDrbcLRgBDqbcLRhBDqbcQaBDpbcQbBDpbcQaBDo",
  "bcQbBDobcQaBDxbcQbBDxbcQaBDrbcQbBDrbcQaBExbcQbBExbcDhBExbcEnBExbcDhBDxbcEnBDxbcQpBDpbcQqBDpbcQp",
  "BDobcQqBDobcQpBDxbcQqBDxbcQpBDrbcQqBDrbcQpBExbcQqBExbcDlBDobcErBDobcDlBExbcErBExbcDlBDxbcErBDxb",
  "cDlBDrbcErBDrhcBKjBEhbcBKjBEibcLTgBDobcLThBDobcLTgBDpbcLThBDpbcLTgBGcbcLThBGcbcBJdBEhbcBJdBEibc",
  "LToBDobcLTpBDobcLToBDpbcLTpBDpbcLToBGcbcLTpBGcbcBKnBEhbcBKnBEibcLTwBDobcLTxBDobcLTwBDpbcLTxBDpd",
  "cBJhBEhbcBJhBEibcLUeBDobcLUfBDobcLUeBDpbcLUfBDpdcBKpBEhbcBKpBEibcLUmBDobcLUnBDobcLUmBDpbcLUnBDp",
  "bcLUmBGcbcLUnBGcbcBJjBEhbcBJjBEibcLUuBDobcLUvBDobcLUuBDpbcLUvBDpbcLUuBGcbcLUvBGcbcBKrBEhbcBKrBE",
  "ibcLVcBDobcLVdBDobcLVcBDpbcLVdBDpbcLVcBGcbcLVdBGcbcBJlBEhbcBJlBEibcLVkBDobcLVlBDobcLVkBDpbcLVlB",
  "DpbcLVkBGcbcLVlBGcbcBKxBEhbcBKxBEibcLVsBDobcLVtBDobcLVsBDpbcLVtBDpdcBJrBEhbcBJrBEibcLWaBDobcLWb",
  "BDobcLWaBDpbcLWbBDpdcBLdBEhbcBLdBEibcLWiBDobcLWjBDobcLWiBDpbcLWjBDpbcLWiBGcbcLWjBGcccBJxBEiccLW",
  "rBDoccLWrBDpccLWrBGcbcBLhBEhbcBLhBEibcLWyBDobcLWzBDobcLWyBDpbcLWzBDpbcLWyBGcbcLWzBGcbcBKbBEhbcB",
  "KbBEibcLXgBDobcLXhBDobcLXgBDpbcLXhBDpbcLXgBGcbcLXhBGcbcBKjBDoccBKnBDoccBKpBDoccBKrBDoccBKxBDocc",
  "BLdBDoccBLhBDoecLTgBGfbcLThBGfbcLTiBGfbcLTjBGfbcLTkBGfbcLTlBGfbcLTmBGfbcLTnBGfbcLToBGfbcLTpBGfb",
  "cLTqBGfbcLTrBGfbcLTsBGfbcLTtBGfbcLTuBGfbcLTvBGfbcLUmBGfbcLUnBGfbcLUoBGfbcLUpBGfbcLUqBGfbcLUrBGf",
  "bcLUsBGfbcLUtBGfbcLUuBGfbcLUvBGfbcLUwBGfbcLUxBGfbcLUyBGfbcLUzBGfbcLVaBGfbcLVbBGfbcLWyBGfbcLWzBG",
  "fbcLXaBGfbcLXbBGfbcLXcBGfbcLXdBGfbcLXeBGfbcLXfBGfbcLXgBGfbcLXhBGfbcLXiBGfbcLXjBGfbcLXkBGfbcLXlB",
  "GfbcLXmBGfbcLXnBGfbcBKjBDubcBKjBDsbcLXoBGfbcBKjBGfbcBKeBGfccBKjBGcbcMAgBGfbcBJdBDubcBJdBDsbcBJd",
  "BDoccBJdBGffcGmBGcbcLXsBGfbcBKpBGfbcBKgBGfccBKpBGcbcMAwBGfbcBJhBDoccBJjBDoccBJjBGfbcMApBDobcMAp",
  "BDpbcMApBGcbcBKrBDubcBKrBDsbcBLiBDoecBKrBGcbcBLiBGcbcBJlBDubcBJlBDsbcBJlBDodcMDaBDobcMDaBDpbcMD",
  "aBGcbcBLdBDubcBLdBDsbcBLjBDoccBKzBEhbcBKzBEibcBLdBGcbcBLjBGcbcBJxBDubcBJxBDsbcBJxBDoccBJtBEibcG",
  "mBDofcLYaBGfbcBLhBGfbcBLmBGfccBLhBGcbcMCsBGfbcBJrBDoccBKbBDoccBKbBGfPycMSmBFsbcMSoBFstcMSqBFsBf",
  "cMUyBFsbcMVcBFsbcMVaBFsCbcMWxBFsfcMXcBFsdcMXfBFsycMYdBFsccMYfBFsBbcMZcBFsdcMZjBFsdcMZlBFsccMZoB",
  "FsxcCjBFsccNAnBFslcMZtBFsbcCiBFsbcCkBFsbcNAqBFsbcNArBFsdcNBeBFsbcNBfBFsdcNBiBFsbcNBjBFshcNBmBFs",
  "bcNBnBFsdcNBuBFsbcNBvBFsdcNByBFsbcNBzBFsBjcNDaBFsbcNDgBFsbcNDhBFsbcNDjBFsBxcNBoBFsbcNBpBFsbcNCj",
  "BFsbcNCkBFshcNDqBFsbcNDrBFsbcNDsBFsbcNDtBFsFBrcSHnSKnccSHpSKnccSHrSKnccSHtSKnccSHvSKnccSHxSKncc",
  "SHzSKnccSIbSKnccSIdSKnccSIfSKnccSIhSKnccSIjSKndcSImSKnccSIoSKnccSIqSKnhcSIxSKnbcSIxSKoccSJaSKnb",
  "cSJaSKoccSJdSKnbcSJdSKoccSJgSKnbcSJgSKoccSJjSKnbcSJjSKoxcSHiSKnkcSKrSKnocSLfSKnccSLhSKnccSLjSKn",
  "ccSLlSKnccSLnSKnccSLpSKnccSLrSKnccSLtSKnccSLvSKnccSLxSKnccSLzSKnccSMbSKndcSMeSKnccSMgSKnccSMiSK",
  "nhcSMpSKnbcSMpSKoccSMsSKnbcSMsSKoccSMvSKnbcSMvSKoccSMySKnbcSMySKoccSNbSKnbcSNbSKoxcSLaSKndcSNvS",
  "KnbcSNwSKnbcSNxSKnbcSNySKnecSOjSKnDCPfcDVDyBDvBbcDVEgBDvEBmcDZGbDZHiccDZGdDZHipcDZGnDZHiFbcDZLx",
  "DZLnbcDZLyDZLnUucEAGlEAGcbcEAGlEAHbCdcEAIsEALlccEAIuEAKxjcEAJbEALedcEAJgEALlCacEALeEALeccEALeEA",
  "KubcEALeEALlJjcEAUrEAUsbcEAUrEAUiccEAUrEAUvJscEBEmEBEdbcEBEnEBEdBIjcECMvECMqBBGbcFDSwFDSwbcFDSw",
  "FDThbcFDSwFDSxbcFDThFDSxbcFDSwFDSybcFDSzFDSxbcFDTaFDSxbcFDSzFDSyEQqcFIJvFIJvbcFIJrFIJvbcFIJxFIJ",
  "v"]

/-- The characters that never stand in a normal text, with all that they are made up of. -/
def packedSplits : List String := [
  "BGabBDobbBDpcbBEhbcBDwBDpBwbBAvkbChjbHbCFhcDLlDMybcDLmDMybcDLnDMybcDLsDMybcDLxDMybcDLyDMybcDMhD",
  "MybcDMlDMyEvcDQvDRwbcDQwDRwccDRjDRwDgcDWkDWudcDWqDWuBjcDViDWubcDVjDWubcDVoDWudcDWdDWuJucEFpEGqb",
  "cEFqEGqBMkcFUgFYtkcFUqFYtfcFUvFYtfcFVaFYtfcFVfFYtncFUeFYrkcFWbFWcccFWbFWebcFYoFWqccFYpFWqjcFWbF",
  "WqscFXiFYtkcFXsFYtfcFXxFYtfcFYcFYtfcFYhFYtncFXgFYrFYucBKjBDpccBKnBDpccBKpBDpccBKrBDpccBKxBDpccB",
  "LdBDpccBLhBDpCkcBJdBDpdbBKrlcBJhBDpccBJjBDpidBKrBDwBDpicBJlBDpidBLdBDwBDpicBJxBDpdcGmBDpbbDskcB",
  "JrBDpccBKbBDpcbGydbMDebbMDfLhbBKbebCxbcCnBDyTqbSEybbSEzCXucQGbBFsDABsbCBDgbbBMZsbbCCBybbCBIebbB",
  "PZdbbBDPybbBFUbbbCILobbCILobbBHVlbbCDFtbbBGKdbbBHVcbbBLCobbBSVxbbBWHpbbBYVvbbBZKkbbBZWqbbCCTjbb",
  "BODubbBPIhbbBQTdbbBRWwbbBYCbbbCDBubbCGHtbbBDTabbBFPtbbBONsbbBRFnbbBYVdbbCHWwbbBJIubbBQJzbbBYRlb",
  "bCAAubbBLKrbbBXEmbbBZOhbbBJXibbBNBbbbBPLibbBROebbCCVubbBEDabbBEYpbbBFJybbBMEebbBOLvbbBRFcbbBTAt",
  "bbBWMjbbBYTqbbBYWybbCBTnbbCFGsbbCGWlbbCHVmbbBTQybbBUAhbbBVOybbBXXpbbCDRobbCIApbbCAPabbBHRbbbBJZ",
  "obbBVCqbbBWRebbBRIgbbBTTibbCBHybbCFElbbBHQubbBIZqbbBOElbbBPPqbbBQBnbbBVKpbbBVUtbbCEXvbbBFJmbbBW",
  "RrbbBFAabbBEZkbbBUGibbBVQcbbBXZdbbCEZlbbCAVobbBLKxbbBODubbCAQobbBDQfbbBIUxbbBKJybbBRTnbbBSMibbB",
  "FMdbbBTVfbbBEFfbbBKFxbbBDOnbbBPFgbbBMLcbbBVKcbbBFStbbBHMcbbBTBtbbBYCnbbCANibbBOUsbbCCKubbBPCqbb",
  "BLMsbbBXOvbbBLSybbBSLxbbBDUsbbBEVpbbBEZhbbBNOzbbBVHvbbBXKhbbCAOwbbCDFrbbBFKvbbBFXqbbBHWtbbBJYqb",
  "bBMObbbBQKsbbBTXabbCERtbbCGMkbbCIBnbbCIDqbbBFHjbbBMXybbBOSdbbCCHubbBJUabbBKYqbbBLCybbBMCobbBQCh",
  "bbBQXlbbBSDlbbBUDebbBVSebbBWQpbbCCFmbbBYIwbbCCPfbbCDUgbbBFChbbBFHrbbBGCjbbBQSmbbBZUobbCANibbBJX",
  "hbbBKIvbbBLRnbbBOUgbbBVBibbBRSvbbBDWubbBGYjbbBIUxbbBJMwbbBKKibbBRVebbBSCfbbBWIkbbBWPabbCDJobbCF",
  "EkbbCFHobbCFPobbBEDfbbBUCcbbCDEqbbCFCabbBKRxbbBDTebbBEQcbbBIVebbBIYhbbBMMjbbBODubbBRCobbBSUkbbB",
  "YJkbbCCSqbbCIKzbbBMVobbCEWsbbBFGrbbBNExbbBNJnbbBPJtbbBPXcbbBRYnbbBSLlbbBTPrbbBVJkbbCFSgbbBEVtbb",
  "BLEsbbCEZobbBEJjbbBJGrbbBPQgbbCCFqbbBKEtbbBKVsbbBNKxbbBRTnbbCFAcbbBFCzbbBFVrbbBIZtbbBMRbbbBNDeb",
  "bBNQmbbBPGfbbBRYkbbBSQsbbBWHdbbBZVbbbBZVtbbCDFobbCFDqbbBFNrbbBPYgbbBFWfbbBRCqbbBSEabbBYTebbCFBf",
  "bbCHFjbbCIBvbbBNFzbbBPPbbbBXFcbbBUNbbbBUQibbBVEobbBRLwbbBQQrbbCAUabbBDVkbbBXRybbBFDqbbBFBrbbBJV",
  "ybbBLLbbbBVHebbBIRdbbBPIkbbBMXgbbCCGhbbBZQabbCEXxbbCAChbbBJXrbbBEUabbBGMidbBHLycbBMUudbBFAcbbBR",
  "PybbBSZqbbBTXsbbBTZabbBTZhbbBUAxbbCFIcbbBVGgbbBWJtcbBYUccbCAQidbCCQabbCCXpebCFXvbbCFYibbCGAabbC",
  "HSubbCCWkbbCFBzbbBEEobbBEQpbbBEUnbbBFJdbbBFKebbBFOjbbBGKzbbBGPabbBGSubbBHKybbBHOybbBIZsbbBJAcbb",
  "BKOybbBKXcbbBKYobbBLCkbbBMJnbbBMPebbBMVxbbBNPdbbBPLvbbBPScbbBQCgbbBQYwbbBRGdbbBRZmbbBTRdbbBTXub",
  "bBTYfbbBTYebbBTYmbbBTYsbbBTYzbbBUAvbbBUAwbbBUHsbbBUKfbbBUWmbbBVSebbBVSzbbBVVdbbBWGwbbBWMnbbBXFh",
  "bbBXKrbbBXKrbbBYDbbbBZXobbCACsbbCAQrbbCASvbbCBIpbbCBKqbbCCLabbCCQabbCFDrbbCFOpbbCFQxbbBKNtbbILG",
  "gbbBXGydbBDPmbbBEYnbbBEVobbBECubbBEUfbbBEWmbbBFJbbbBFLabbBGKzbbBGIfbbBGKvbbBGNqbbBHLybbBHPjbbBH",
  "UybbBHVobbBIFybbBINobbBJXqbbBJXxbbBKDlbbBKGbbbBKRobbBKWcbbBKTkbbBKYobbBKWubbBLCkbbBLEybbBLUibbB",
  "LXsbbBLZubbBMJubbBMUubbBNBbbbBNBfbbBNDmbbBOSfbbBOUsbbBPJtbbBPZnbbBPYxbbBQCgbbBQLybbBQYwbbBTIdbb",
  "BRGnbbBRLfbbBRPybbBSCnbbBSIgbbBSKhbbBSSzbbBSTbbbBSZqbbBTAhbbBTBgbbBTEobbBTEebbBTTkbbBUMbbbBUWmb",
  "bBVDrbbBVMhbbBVSebbBWEwbbBWMnbbBXTabbBXZbbbBZHxbbBZZlbbCACcbbCACsbbCAOdbbCAQibbCAOpbbCAQrbbCAQo",
  "bbCAPxbbCASvbbCAVybbCBKqbbCCGebbCCSgbbCDDpbbCDMcbbCEZsbbCFDrbbCFIcbbCFNfbbCFOpbbCFPbbbCFQxbbCGS",
  "wbbCILobbIBDybbIBDsbbIFNpbbWOzbbYHcbbYIjbbIRBlbbIVBcbbJHXzbbCIIdbbCILaCqcCFpCEeccCGoCEhlcCGfCEr",
  "bcCGfCEsbdCGfCEmCErbdCGfCEmCEsbcCFgCEhbcCFgCEibcCFgCEmbcCFhCEmbcCFiCEmbcCFjCEmbcCFkCEmbcCFlCEmb",
  "cCFmCEmccCFoCEmbcCFpCEmbcCFqCEmbcCFrCEmbcCFsCEmccCFuCEmccCFwCEmbcCFxCEmccCFzCEmbcCGaCEmccCGcCEm",
  "bcCGdCEmbcCGeCEmbcCGfCEmbcCGgCEmbcCFlCEjbcCFhCEpbcCFrCEpbcCGaCEpDDBscGUFvGUGjbcGUFwGUGjbdGUFwGU",
  "GjGUGsbdGUFwGUGjGUGtbdGUFwGUGjGUGubdGUFwGUGjGUGvbdGUFwGUGjGUGwDjcGUJpGUGjbcGUJqGUGjbdGUJpGUGjGU",
  "GsbdGUJqGUGjGUGsbdGUJpGUGjGUGtbdGUJqGUGjGUGtEHLgbBDQjbbBDQebbBDQnbbHMIkbbBEBobbBEEobbBEFbbbBEHu",
  "bbBEMkbbBENpbbBEQpbbBEPrbbTYcbbHOGobbBEUnbbBEUubbBEVkbbBEWdbbHNVobbTZdbbBEVnbbBEWzbbHNXjbbBEXjb",
  "bBEXwbbBDVwbbBEYebbBEYnbbJPDnbbBFAzbbBFBnbbUApbbBFDrbbBFEcbbBFFubbBFFzbbUCrbbBFJbbbBFJdbbBFKebb",
  "BFLabbBFLlbbBFLmbbBFMdbbBFObbbBFOjbbBFOsbbBFPrbbBFQbbbBFQdbbBFQdbbBFQdbbHPTkbbBQPcbbBFTabbBFTvb",
  "bHQFjbbBFUhbbBFUnbbBFVibbBGBebbBFXgbbBFXwbbBFZcbbBGBibbBGEobbBGFobbBGIdbbBGItbbBGKabbBGKabbBGKv",
  "bbBGLnbbBGLvbbBGMkbbBGZmbbBGPabbBGZnbbBGRxbbBGTgbbBFBrbbBHRqbbBHGobbBHIabbBHIzbbBHDzbbBHKkbbBHK",
  "jbbBHPcbbHTUybbBHRubbBHRzbbBHSobbBHTibbBHTqbbBHWcbbHUMibbHUOwbbBIBkbbBIDfbbBIDrbbBIAqbbBIGcbbUU",
  "wbbUVkbbBIMibbBIOkbbBIOkbbHVRcbbBITnbbBIUibbBIUxbbBIVjbbHWEabbBIVvbbBIWcbbBKCpbbBIXebbVAnbbBIZo",
  "bbBJAcbbBJDgbbBJBhbbHXFobbBJIhbbHXFqbbBJJybbBJJvbbBJKmbbBJOjbbBJOkbbVHfbbBJPlbbBJRcbbBJRxbbBJTp",
  "bbVJebbHYPfbbVKebbBJWibbBJWlbbBJWobbBJXibbJVVubbBJZibbHZFtbbHZFtbbBXGbbbBKAsbbBKAsbbVNbbbIFCqbb",
  "IWYsbbBKDebbBKDnbbVOdbbBKFibbBKHhbbBKHrbbBKIzbbBKOfbbVRmbbVQibbBKOybbIAPobbBKQxbbBKVwbbBKWabbBK",
  "WcbbBKWabbBKXubbBKYobbBKZybbBKZkbbBKZvbbBLBqbbBLCkbbBLCobbBLDobbBLDzbbBLGnbbBLJtbbBLLcbbBLPwbbI",
  "CFcbbBLPdbbBLMqbbBLQubbBLRvbbBLVobbICNxbbBLXybbBLUjbbBLThbbWAwbbBMArbbBMBmbbBMCrbbBMBfbbWDgbbBM",
  "JnbbBMKqbbIECgbbBMPfbbBMZwbbBMTdbbWJxbbBMVxbbWJgbbWHwbbBEXebbBEXhbbBNAebbBMWibbBWSzbbZSbbbBNBbb",
  "bBNBfbbBNBlbbBNDubbBNDjbbIFMxbbWLtbbBNJubbBNFhbbBNNebbBNPdbbIFTlbbBNPmbbBNLfbbBNUqbbWOzbbBNWkbb",
  "BOAdbbBOCwbbBOKebbIGPfbbBOMdbbWTsbbBOOvbbIHJbbbBOQubbWVubbBORybbBOTrbbBOUsbbBOUtbbIIBtbbHWXfbbI",
  "IFybbBPAkbbIIXgbbBPEtbbBPFhbbBPBjbbBPIcbbBPJqbbBPLvbbBPJtbbBPLhbbBPLwbbBPMjbbIJBabbBPJgbbBPSxbb",
  "BPVibbXEpbbBPYxbbBPYtbbIJRtbbBPQvbbBQFebbIJXebbIJZabbBQIobbBQMzbbBQLybbBQLvbbXIkbbBQNqbbBQPpbbB",
  "QPjbbBQRlbbHNVxbbBQXhbbILAxbbBRAqbbILNnbbBRGabbBRGnbbBRHobbIMKubbBRJkbbBRKfbbIMWjbbINEybbBRTabb",
  "BRTrbbXTcbbBRUrbbXTobbXTobbBSAxbbBSBsbbBSCnbbBSDhbbBSFybbXXjbbBSJkbbIOTqbbBSKkbbIOXebbBSMibbHYQ",
  "hbbBSSmbbIQBhbbIQCebbIQHobbYGabbYGmbbBTBgbbIQOhbbIQOgbbIQPtbbIQQtbbBTCwbbBTCxbbBTCxbbBTEobbYIjb",
  "bBTHbbbYIwbbYLybbIRTlbbBTOobbBTQybbBTTkbbYOxbbISNmbbBTYsbbISRybbISTpbbBUAxbbBUElbbYRvbbBUHsbbBU",
  "IcbbBUIhbbITUibbIUFvbbIUFvbbBUOkbbYZybbIUPvbbBUWsbbBUWvbbZBjbbIUYabbBVHabbZGabbBVHwbbBVHrbbBVIu",
  "bbIWBubbBVMpbbZJtbbBVQlbbBVSsbbBVVhbbZLsbbIXBsbbIXCxbbZNdbbIXInbbBWHebbIXMkbbBWIfbbBWMcbbBWMnbb",
  "IYCgbbIYFbbbBWQabbIYKebbBWQqbbIFJbbbZRxbbBWTebbBWWhbbZTzbbBWYobbBIJdbbIZDvbbIZEjbbIFLbbbIFLkbbB",
  "XGbbbBXGebbCCKcbbZXrbbBXLpbbBXLjbbBXMbbbBFIhbbBXMvbbBXMxbbBXNhbbBXOwbbJANcbbBXOvbbBXQzbbBXTrbbB",
  "XWnbbBXRfbbBXXdbbBXYtbbBYDbbbBXTbbbBXXqbbBXXsbbBXYibbJAWsbbJBIpbbJBCvbbBAFbbbBYIzbbBYJbbbBYKkbb",
  "JDTibbBYNkbbJBZwbbBAGzbbBAHdbbJCEzbbJCQcbbBAHnbbBYWmbbBYWybbBYXjbbBYXlbbBYZxbbBYYqbbBZDubbBZCcb",
  "bBZHxbbBZEubbBZHjbbBZIkbbBALrbbBZLxbbBZNdbbBAMzbbBZQubbBZQxbbJETbbbBZVjbbBZVqbbBAPhbbBZWsbbTZfb",
  "bJFPmbbJFWobbBAUobbBAUxbbCAMybbCAPxbbCAVybbCBDtbbJHCqbbCBHbbbCBHxbbCBLjbbCBOxbbJIBnbbHOYebbCBSd",
  "bbCBRobbCBTobbHPGobbCCCibbCCGebbJKOwbbJKPxbbCCTobbCCXdbbCCYjbbJLCgbbCCYtbbCDJsbbCDPvbbCDPwbbCDM",
  "ibbCEAzbbCECbbbJMXmbbCEQlbbBBWnbbCESdbbJNMdbbBBZqbbCFClbbBJMobbCFGdbbJOXpbbJPFubbBCEwbbBCFebbCF",
  "NkbbJPYwbbBCHmbbJQEgbbCFPbbbCFPbbbCFQfbbJQPibbCFXibbBCMlbbCGAbbbCGExbbCGFybbCGIgbbBCSkbbJSRgbbC",
  "GSwbbCHEmbbCHLtbbBDCgbbBDDlbbCHPvbbJUUobbBDDwbbJUWrbbJVGwbbJVLxbbCICxbbBDHmbbCIFhbbCIFmbbCIFtbb",
  "CIGdbbCIGkbbCIHvbbJWTs"]

/-- The combining classes. -/
def markClasses : List MarkClass := [
  ⟨1, ["BFofJSdbnhBMncedkcdcDKJdbBKQgfBEYbbHWqd"]⟩,
  ⟨6, ["FJIuc"]⟩,
  ⟨7,
    ["DMybExbExbExbExbJvbExbBIgbEEebGvbDcbCBPbbBNAkbHcbDibEdbGwbDdcKfbEubJsbJmbOwbKebBNibCZGxb"]⟩,
  ⟨8, ["SKnc"]⟩,
  ⟨9,
    ["DNpbExbExbExbExbExbExbExbEfcqbEubEhbExbHtbGycCPlcBebGbbZdbItbDxcCscGQtbBUKkbBlbFvbFmbEebLxb",
     "JmbBJSrbCHibBpbobCfbErcFjbEmbGybDubEydEjbExbJsbExbEobEmbKjbJzcGfbDfbsbDdbQfbKacDdbQjcYZcb"]⟩,
  ⟨10, ["CEab"]⟩,
  ⟨11, ["CEbb"]⟩,
  ⟨12, ["CEcb"]⟩,
  ⟨13, ["CEdb"]⟩,
  ⟨14, ["CEeb"]⟩,
  ⟨15, ["CEfb"]⟩,
  ⟨16, ["CEgb"]⟩,
  ⟨17, ["CEhb"]⟩,
  ⟨18, ["CEibob"]⟩,
  ⟨19, ["CEjc"]⟩,
  ⟨20, ["CElb"]⟩,
  ⟨21, ["CEmb"]⟩,
  ⟨22, ["CEnb"]⟩,
  ⟨23, ["CEpb"]⟩,
  ⟨24, ["CErb"]⟩,
  ⟨25, ["CEsb"]⟩,
  ⟨26, ["DRCob"]⟩,
  ⟨27, ["CJzbBAab"]⟩,
  ⟨28, ["CKabBAab"]⟩,
  ⟨29, ["CKbbBAab"]⟩,
  ⟨30, ["CIabCbb"]⟩,
  ⟨31, ["CIbbCbb"]⟩,
  ⟨32, ["CIcbCbb"]⟩,
  ⟨33, ["CKfb"]⟩,
  ⟨34, ["CKgb"]⟩,
  ⟨35, ["CLkb"]⟩,
  ⟨36, ["CRpb"]⟩,
  ⟨84, ["ERlb"]⟩,
  ⟨91, ["ERmb"]⟩,
  ⟨103, ["FKac"]⟩,
  ⟨107, ["FKqe"]⟩,
  ⟨118, ["FOyc"]⟩,
  ⟨122, ["FPoe"]⟩,
  ⟨129, ["FWbb"]⟩,
  ⟨130, ["FWcbhecb"]⟩,
  ⟨132, ["FWeb"]⟩,
  ⟨202, ["BEvcecKClb"]⟩,
  ⟨214, ["LHmb"]⟩,
  ⟨216, ["BEpbEPhbGOMlchf"]⟩,
  ⟨218, ["LJebGXbb"]⟩,
  ⟨220,
    ["BEkecfceclfekddceeccVubebebggcbBabFncfbcbFbbgbcbCpbcbcdbcbbdbbbbbbbGnbkbDndCjdBzfpbcbcbddgb",
     "ccDjbCEvcBbbbbFmbHqbDHlbImbDybCbgcbbcccfbsbibFdbNwfcenbIebhbebBpbdbbbBCqbdeBZPjdPabBFPqhBLn",
     "bIsbCSqbBsbGpbBOdcbdCscdbbeBybbbCVLtihcHIwbJwbBCih"]⟩,
  ⟨222, ["CDebsbHKlbIRzb"]⟩,
  ⟨224, ["SGkc"]⟩,
  ⟨226, ["GUGrb"]⟩,
  ⟨228, ["CDybHEwbCAfcGXeb"]⟩,
  ⟨230,
    ["BDovBoibbddddebdbhnKpfKgebdcggcbccbubCxiChccfbcEphcebbccccCpbbcbcdbcbbdbbbbbbbcGehbbBiebjbd",
     "bfEbcdeBqffoccbcbdgdbccfDdbbcGnbCChcccBLtdBSfbNkbImbDpiBzfgceccfbsdgbeEybbhNkdhcebtbdcHqcbh",
     "bceBlfbcbBBtccedcebfbbbgbEOcdJeBgBTPvbekBgcDccTasRebbcdcfcbbBFOwhhcBZyfCMubBobGqbWceCnfMfcF",
     "zdbbCbbbbOpdXnhdfIzbBGWvhBMTifBgeFsdFFfhbrchbcbfDwbGehOlbCjeTrbJubJkbcbhcfbWsg"]⟩,
  ⟨232, ["BEjbebCjbKCbbGXhbGJKhc"]⟩,
  ⟨233, ["BHcbcbcbKBxb"]⟩,
  ⟨234, ["BHdcbcIXtbBCjb"]⟩,
  ⟨240, ["BGfb"]⟩
]

end PageHarvest.Text.NormalTable
