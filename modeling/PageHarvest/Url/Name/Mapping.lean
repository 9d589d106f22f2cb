import PageHarvest.Text.CodeSet

/-!
# Characters of names

What a character of a host name stands for: itself, other characters, such as its small letter, or
nothing; a character that no name may have stands for none of these. The tables are those of version
17.0 of the Unicode processing for international names. They leave out what `Text.normalize` does
anyway: characters that are only composed of others stand for themselves here.
-/

namespace PageHarvest.Url.Name

open Text

/-- Characters at equal distances that stand for one other character each, at equal distances too. -/
structure Run where
  first : Nat
  count : Nat
  step : Nat
  target : Nat
  targetStep : Nat

namespace Run

/-- The code of the character that the one with code `n` stands for, if it is in the run. -/
def image? (r : Run) (n : Nat) : Option Nat :=
  let k := (n - r.first) / r.step
  if r.first ≤ n ∧ (n - r.first) % r.step = 0 ∧ k < r.count then some (r.target + k * r.targetStep)
  else none

/-- The steps of characters and targets that occur. -/
def steps : Nat → Nat × Nat
  | 0 => (1, 1)
  | 1 => (2, 2)
  | 2 => (1, 2)
  | 3 => (1, 0)
  | _ => (2, 1)

/-- Reads runs: for each the distance from the start of the run in front, the count, the kind of its
steps and the first target. -/
def ofNumbers (start : Nat) : List Nat → List Run
  | gap :: count :: kind :: target :: rest =>
    let (step, targetStep) := steps kind
    ⟨start + gap, count, step, target, targetStep⟩ :: ofNumbers (start + gap) rest
  | _ => []

end Run

/-- The characters that stand for one other character. -/
def packedRuns : List String := [
  "CnBaaDtDrbaBgkbaDticaBydbaBKuebaBxbbaEhgxaIqyhaJoBoybJxCacbLxfdbMciebMkjxbMtBubaJvbdbOogbaElcba",
  "WxbcbOxebaWybbaPcccaXacbaPgdbaSjbccXdcbaPmcbaXkbbaXncbaXtbbaXsbbaPtebaXzbbaYccbaYfbdbQbgbaYqbba",
  "QicbaYtdbaQncbaYybbaQqccaZaccbQuebaZibbaQzebaRdribRurjbSlwbaThcbaPpbbaRfbubTlBobaPycjbVbybaQVdb",
  "baWacbaPubbaQVedbaWgcbaOubbaYzbbaZcbfbWlEcbaEabbaXqbbaEcbbaEkbccYjcbaYrbccEpBpbaXnbbaEebbaElbba",
  "EqbbaZlDtbaBKrBrcbBHxgbaBIdjbaBMxhceBKedcaBKgdceBLkdbaBLmcraBKjsjaBLbBsbaBLvbbaBKkbbaBKqbbaBLdb",
  "baBLlbbaBLjbbaBLebbaBKycmbBLxybaBKsbccBKzdbaBKqbbaBKncbaBNccbaBLbbbaBNfddaBIhdqaBQmqBgaBPgDcrbB",
  "RdBqBbbBStCcbaBVjbhbBUwpBwbBVlDtBmaCAzDTbbaFSdPoBmaRBcBnbaRCpgbaRCvBvbaGKaBDkgaHOiDGaccBPicbaBP",
  "ubcaBPxcbaBPybbaBQgbbaBRfbbaCKZjbbaKVahBraGJoBtdaGLhEhbaDtbbaIwbcbDudbaDxbbaSjbiaDzjbaEhbbaVbbd",
  "cEidccEncbaDtbcaWucbaKZqbccDucbaDxbccXdcbaXgbbaDzcccEdcbaMtbbaEhbbaWybcaLAkcbaEibcaEmcbaLArbbaX",
  "zbbaEobbaLAzbdaBKkdcaBLecbaEbbbaEkbcaEnccaBKkcbaBKzbcaBLepbaBPtBjbaWwbbaDvbbaWzbbaJgbbaXgbbaDyb",
  "ccXjcbaXpbdaXsdbaLEhbbaZtbbaXxbbaLErbbaZvbbaYbbccYacdaYddbaYibcaYscbaQlbcaYzcbaLAqbcaZbcbaEsbda",
  "ZgdbaBKqCnCxbLJlFzbaLNddbaIpcBwbLPpEaiaLTgqgaLTwqiaLUmqiaLVcqgaLVsrebLWjpiaLWyDccaMAacbaLXobbaB",
  "KenbaLXqbbaBKfbbaLXsbbaBKgncaMBgcbaLXubbaBKhncaMBwcbaLXybbaBLlbbaMCbmbaLXwbbaBLkbbaLYabbaBLmfld",
  "BgrbaMDsBebaBgBwbaBgrbaBwbbaEbdgaCagbaBrbbaMXmbbaCjbcaBocbaEgbkaBwkbaBrbbaMXmbbaCjbcaBodbaDtbba",
  "DxbbaEhbbaEqbbaXdbbaEabeaEdebaEibcaElDzbaDvfbaXfdcaDzcddEadbaLjbcdEbccdEedbaEgedaEidcdEkibaEscb",
  "aBLhcbaEscbaEdbbaIvbcaDudcdDxcbaDybbaMPybccEfceaCFgebaEbdbaBKybcdBKlcbaBKybbaMXlfcdDwcbaDxbcaEb",
  "ybaEbebaEofbaEqdbaEebcaDvcbaEfbbaEbebaEofbaEqdbaEebcaDvcbaEfebaMSaBCfjaBxDiBaaDtBaBaaDtBabaBwCR",
  "uBwaQTcDsbaQUzcbaXvbbaLEjbbaYnddbQVggbaWvbbaYbbccWudbaQVrdbaQVuhbaEcbbaEobcaWdcBybQWfEdcbRAihba",
  "RApEvbaREvLsbaBOVlDgbaCILrnbaBDOabbaBDPobbaBDQcbbaBDQlbbaBDRlbbaBDTdbbaBDTkbbaBDUebbaBDVebbaBET",
  "zbbaBEVlbbaBEVrbbaBEWobbaBEXibbaBEYdbbaBFAebbaBFAzbbaBFBkbbaBFHjbbaBFKzbbaBFMbbbaBFMgbbaBFNkbba",
  "BFNtbbaBFOubbaBFPhbbaBFQgbbaBFSgbbaBFSybbaBFTzbbaBGXbbbaBGZvbbaBHRnbbaBHSkbbaBHSsbbaBHTdbbaBHTv",
  "bbaBHWtbbaBIPcbbaBIQybbaBIVobbaBIWlbbaBIXebbaBIYabbaBJAcbbaBJAfbbaBJOdbbaBJOnbbaBJOzbbaBJPmbbaB",
  "JTybbaBJUgbbaBJUlbbaBJYybbaBJZibbaBJZvbbaBKAdbbaBKCmbbaBKDdbbaBKDvbbaBKGxbbaBLDgbbaBLFabbaBLFvb",
  "baBMIhbbaBMImbbaBMLrbbaBMMhbbaBMMubbaBMNpbbaBMPcbbaBMPhbbaBMZobbaBNAmbbaBNBsbbaBOOubbaBORibbaBO",
  "SfbbaBOUlbbaBOVjbbaBOVsbbaBOVzbbaBOXzbbaBOYebbaBOZkbbaBQOxbbaBRGcbbaBRGobbaBRGtbbaBRGxbbaBRHfbc",
  "cBRHxcbaBRLcbbaBRTkbbaBRTpbbaBSGqbbaBSHabbaBSIybbaBSJfbbaBSJobbaBSJwbbaBSNjbbaBSNqbbaBSWkbbaBSW",
  "rbbaBSYobbaBSZfbbaBTBabbaBTKdbbaBTKkbbaBTLbbbaBTXqbbaBUCmbbaBUCsbbaBUJsbbaBUNbbbaBUOvbbaBVDjbba",
  "BVImbbaBWEobbaBWFpbbaBWHubbaBWJtbbaBWMjbbaBWMubbaBWNabbaBWOhbbaBWRfbbaBWRpbbaBXExbbaBXFebbaBXFn",
  "bbaBXFwbbaBXGmbbaBXHbbbaBXHfbbaBXKgbbaBXKkbbaBXKqbbaBYWjbbaBYXnbbaBZPobbaBZQabbaBZQxbbaCABubbaC",
  "AChbbaCAFabbaCAGubbaCBCpbbaCBDebbaCBDtbbaCBFcbbaCBGnbbaCBOebbaCBOqbbaCBRfbbaCCAtbbaCCBybbaCCJzb",
  "baCCKubbaCCKzbbaCCTlbbaCDAnbbaCDFibbaCDFobbaCDFtbbaCEPrbbaCEQabbaCEWabbaCFBybbaCFCbbbaCFDwbbaCF",
  "HxbbaCFIkbbaCFIobbaCFIvbbaCFMpbbaCFNxbbaCFOdbbaCFOrbbaCFVcbbaCFXbbbaCFXfbbaCGEgbbaCGEjbbaCGFcbb",
  "aCGOubbaCGQqbbaCGQxbbaCGTpbbaCGTzbbaCGUcbbaCGUmbbaCGVqbbaCHKvbbaCIAfbbaCIApbbaCICbbbaCICxbbaCID",
  "fbbaCIDpbbaCIDtbbaCIFhbbaCIFlbbaCIGcbbaCIGhbbaCIGubbaCIHvbbaCIIkbbaCIIsbbaCIKzbbaCILobbaCILsBrb",
  "aBgcbaBuCabaSFicbaBFNtbcaBFNwJocaGLkcbaGRybbaGLmbcaGSacdaGLndgaGSegbaGMkbdaGLqdbaGMrbkaGLtkvaGP",
  "dwcaGMeccaGTbcccGTgcbaGTnbccGTrcbaGMmbccGTxccaGMncccGMqcbaGMtbdcGMxdeaGNcebaGNibbaGNmbbaGNwbbaG",
  "OdbbaGOibcaGUrcdaGOtdcaGQmcbaGQqbcaGQzcbaGRcbbaGRmbbaGRpebaBDOabbaBDTkbbaBDOjbbaBGXfbbaBDOkbbaB",
  "DPtbbaBDOlbbaBSJybbaBDRlbbaBDOzbbaBDObbbaBHTxbbaBHAmbbaBDVeGjbaBGHzbbaBJUibbaBMLrbbaBUUpzccGLkc",
  "ccGLnccaGLqcccGLtcccGLwceaGLzebaCNDobbaCOWubbaCPTkbbaCRMqbbaCSJgbbaCTFwbbaCUZcbbaCWSibbaCXOybba",
  "CZIebbaDAEubbaDBBkbbaDBYabbaDCUqdbaCXGicbaBDOabbaBDTkbbaBDOjbbaBGXfbbaBDTsbbaBEVtbbaBDOdbbaBEVr",
  "bbaBDRpbbaBFNtbbaBNAmbbaBQOxbbaBOZkbbaBNBsbbaCDFtbbaBGZvbbaBMPhbbaBNLqbbaBNAnbbaBTXubbaBFVpbbaB",
  "RJdbbaCBGrbbaBTYzbbaBFIibbaBUDsbbaBSKdbbaBHWtbbaCCRxbbaBETebbaBFPobbaBPGibbaCFOvbbaBDYnbbaBEXlb",
  "baBORjbbaBDOkbbaBDPtbbaBDOlbbaBJOobbaBFUpbbaBFNnbbaBIRvbbaBIPybbaBTApbbaBDXxbbaCBIdbbaBFOmbbaBH",
  "TkBgfcSKwfmcSLfmecSMeefaSMlfbaSMsbbaSMvbbaSMybbaSNbbfaSNefdcSNkdfaSNpfeaSNvBRQzxbCKYzCmobCLBlBc",
  "ccBQgFehbCLHrqBfbCLIhCkbaCLKpjcbCLLaebaLEfbfbCLLfnbaCLLscbaXpdcbCLLxgkbCLMdubaXqbbaXgbbaXlbbaXw",
  "bbaXucbaZubbaYxbbaZtbbaCMWxbibCLNhqbaCLMabbaYsbbaLFabcbCLOaebaXobibCLOfqbaPvvbaElbbaDvbbaDybbaE",
  "jbbaCLPudbaLjbbaNbBHjbaCLHvbbaCMVvbbaXvbbaCMWwkbaZdhDcaHLgBEEqbaCFybbaCFgbcaCFjcdaCFrdccCGecbaB",
  "rBncdCLlcedCLveedCLyeedCMaeedCLueedCLzeedCLteedCNkeedCNmeedCMeeedCMdeedCMgeedCMhecdCMnccdCMmccd",
  "CMoccdCMiccdCMyccdCMrcedCNpeedCNveedCNzeedCNxecdCOgcedCOhecdCOmcedCOneedCOkecdCPeccdCPfBjedCNte",
  "cdCOtccdCOsccdCOudcdCOxccdCOrccdCOvcedCPcecdCJxuedCOyUmbaBsbbaSErccaCgcbaBhbbaClbcaSFmBabaMDwbb",
  "aMDvbcdDrccaBocccEtccaSFkccaSFgccaSFaccaSEyceaSFcgccDngddDrdbaBsbbaSErdbaChbbaCgbbaClbbaBhbbaMD",
  "wbcaBocccEtccaSFkcbaBjbbaBmbcaBqcbaBtbccCicbaCjcbaDobcaBkcbaCmvcaCIjccaCIkccaCIlccaCImccaCIncdd",
  "CIodcdCIpcedCIqecdCIrcedCIseedCIteedCIueedCIveedCIwecdCIxccdCIyccdCIzccdCJacedCJbeedCJceedCJdee",
  "dCJeeedCJfeedCJgeedCJheedCJieedCJpeedCJqeedCJreedCJseedCJteedCJueedCJvecdCJwccdCJxcedCJyqBgaBhB",
  "gBaaDtBaBkaDnBkcaPSvcbaBubcaSFccbaSErbbaSOhbbaSNybfcSKvfdcSNjdbaSMdbbaSOibfcSKwfmcSLfmecSMeefaS",
  "MlfbaSMsbbaSMvbbaSMybbaSNbbfaSNefdcSNkdfaSNpfbaSNvbbaSNzbcaSKndcaGLkcbaGRybbaGLmbcaGSacdaGLndga",
  "GSegbaGMkbdaGLqdbaGMrbkaGLtngaGPdigaGPjigaGPpidaGPvgcaGgcbaGqcbaGkbbaGjbbaMJpcbaOAkbeaMSmebaOGm",
  "bbaOIdBOcBoaDUNoGuBkaDUUiHklaDVBrmpaDVCdqhaDVCticaDVDbSzcaBBscbaIwbbaZpbbaWxcbaZzbbaCMXqbbaBAbb",
  "baBAabcaXacbaLFdbbaXcbbaXibbaBAfbbaXobbaXmbbaXkbbaZrbbaLjbbaZsbbaXrbbaYubcaBAgcbaXwbbaGZKmbbaCL",
  "LubbaXybbaGZKnbbaZebbaGZKobbaJobcaYgcbaEjbbaYkbbaGZKqbcaYncbaYqbbaBAebbaBAcbbaCMXrbbaBAdbbaYybb",
  "aQVpcbaZfbcaZxcbaZobdaRgdbaGZKsbbaGZLmBVaBzaDXUeIawaDYAyEHkBgaECIiBGLcBgaFITkDszaFIWxBJRqBaaDtB",
  "akaBwCRoBaaDtBaBaaDtBaBaaDtBahaDtisaEbsBaaDtBaBaaDtBacbDtdbaDwdbaDzdcaEceeaEgfiaElieaDtfcbDydga",
  "EbhlaEilBaaDtBaBaaDtBacaDtdeaDwgiaEcjhaEliBaaDtBacaDtdeaDwffaEbgbaEhehaEliBaaDtBaBaaDtBaBaaDtBa",
  "BaaDtBaBaaDtBaBaaDtBaBaaDtBaBaaDtBaBaaDtBaBaaDtBaBaaDtBaBaaDtBaBaaDtBabaLtbbaVvdraBKjrbaBKqbhaB",
  "LbhbaMXbbraBKjrcdBLbcgaBLcgbaMWwbbaBKnbccBKqcbaBLebbaBKzbbaBKybraBKjrbaBKqbhaBLbhbaMXbbraBKjrcd",
  "BLbcgaBLcgbaMWwbbaBKnbccBKqcbaBLebbaBKzbbaBKybraBKjrbaBKqbhaBLbhbaMXbbraBKjrcdBLbcgaBLcgbaMWwbb",
  "aBKnbccBKqcbaBLebbaBKzbbaBKybraBKjrbaBKqbhaBLbhbaMXbbraBKjrcdBLbcgaBLcgbaMWwbbaBKnbccBKqcbaBLeb",
  "baBKzbbaBKybraBKjrbaBKqbhaBLbhbaMXbbraBKjrcdBLbcgaBLcgbaMWwbbaBKnbccBKqcbaBLebbaBKzbbaBKybcdBMb",
  "ekaBwkkaBwkkaBwkkaBwkkaBwDDajaBPgjdaBPqdlaBPulccBQhcbaBQkbbaCLBtbbaBVtbccBQscbaBWjbbaBUdbbaBVjb",
  "jaBPgjcaBPqccaBPucccBPxcfaBQafcaBQgcbaBSzbbaBQsbbaBQrbbaBRbbbaBTzbbaCKZpbbaBUfDGlBiaHDGcBXgcaCI",
  "pcbaCIubbaCIxcbaCJwbbaCJabbaCIvbbaCJfbbaCJybeaCJrebaCJbbbaCJhbbaCJpbbaCJdbbaCJqbbaCIzbbaCJcbcaC",
  "IscccCIwcdcCJedbaCLibbaCOgbbaCNhbbaCLjcbaCIqbbaCIucbaCJvdbaCIvcbaCJybeaCJrebaCJbbbaCJhbbaCJpbba",
  "CJdbbaCJqcbaCJcbcaCIscbaCIwcbaCJecbaCJihbaCIufbaCIvcbaCJyccbCJsdbaCJbbbaCJhcbaCJdbbaCJqcbaCJcdb",
  "aCIwcbaCJecbaCJicbaCOgcbaCLjcbaCIqbbaCIucbaCJvdbaCIvbbaCJfbbaCJybcbCJrdbaCJubbaCJbbbaCJhbbaCJpb",
  "baCJdbbaCJqcbaCJcbcaCIscbaCIwcdcCJedbaCLicbaCNhccaCIpcbaCIubbaCIxbcaCJvcbaCJabbaCIvbbaCJfbbaCJy",
  "cdaCJsdbaCJbbbaCJhbbaCJpbbaCJdbbaCJqbbaCIzbbaCJcbcaCIscccCIwcdcCJeibaCIqbbaCIubbaCIxcbaCJwbbaCJ",
  "abbaCIvbbaCJfbbaCJycdaCJsdbaCJbbbaCJhbbaCJpbbaCJdbbaCJqbbaCIzbbaCJcbcaCIscccCIwcdcCJeYcbaDvbbaE",
  "keBaaDtIcbaSLpobaBLFvbbaBIPjbbaBFTcbbaSMhbbaBDTkbbaBHTibbaCAFrbbaBHTxbbaBDUibbaBMRobbaBQVxbbaBM",
  "MjbbaBFEjbbaBKEubbaBEWzbbaBMNgbbaBFCnbbaBVLibbaBSJfbbaCBGzbbaBHRsbbaBFXhbbaBQBsbbaBLIrbbaBLQbbb",
  "aBDOabbaBDOjbbaCCQsbbaBJOobbaBDPtbbaBFUpbbaBLNbbbaCBOqbbaBLGdbbaBUAjbbaBUJybbaBFVkbbaBPWabbaBNA",
  "nbbaBNAmbbaBSJzbbaBFFubbaBGLybbaCDArvbaBKFfbbaBFUlDQtkaBw"]

def runs : List Run := Run.ofNumbers 0 (Packed.numbers packedRuns)

/-- The characters that stand for several others. -/
def packedMany : List String := [
  "GmcBgBDwhcBgBDsfcBgBDpecBgBFbedBxMFsCabdBxMFsBybdBzMFsCaEkcEbBDvccEbEcbcEbEcmcEeHbbcEeHbjcBAyEg",
  "EtcDwOsbcDwOsbcDwOsbcEeEcbcEeEcbcEeEcbcEgEcbcEgEcbcEgEcBlcDwEsbcDwEsbcDwEsIvcBgBDubcBgBDvbcBgBD",
  "ybcBgBFcbcBgBDrbcBgBDzGbcBgBKrkcBgBDpbdBgBDwBDpTucCBdCCgJecCIpCLobcCJwCLobcCOtCLobcCJyCLoCYdcFK",
  "vFJuEycFPtFOsBpcFOlFNtbcFOlFObFydFYoFWbFWqcdFYpFWbFWqFSzcDtBBaIwcLTgBKrbcLThBKrbcLTiBKrbcLTjBKr",
  "bcLTkBKrbcLTlBKrbcLTmBKrbcLTnBKrbcLTgBKrbcLThBKrbcLTiBKrbcLTjBKrbcLTkBKrbcLTlBKrbcLTmBKrbcLTnBK",
  "rbcLUmBKrbcLUnBKrbcLUoBKrbcLUpBKrbcLUqBKrbcLUrBKrbcLUsBKrbcLUtBKrbcLUmBKrbcLUnBKrbcLUoBKrbcLUpB",
  "KrbcLUqBKrbcLUrBKrbcLUsBKrbcLUtBKrbcLWyBKrbcLWzBKrbcLXaBKrbcLXbBKrbcLXcBKrbcLXdBKrbcLXeBKrbcLXf",
  "BKrbcLWyBKrbcLWzBKrbcLXaBKrbcLXbBKrbcLXcBKrbcLXdBKrbcLXeBKrbcLXfBKrdcLXoBKrbcBKjBKrbcBKeBKrdcMA",
  "gBKrfcBKjBKrbcBgBEhccBgBEhbcBgBGcbdBgBDwBGcbcLXsBKrbcBKpBKrbcBKgBKrdcMAwBKrfcBKpBKrbdBgBEhBDobd",
  "BgBEhBDpbdBgBEhBGcodBgBEiBDobdBgBEiBDpbdBgBEiBGcodBgBDwBDobdBgBDwBDpecLYaBKrbcBLhBKrbcBLmBKrdcM",
  "CsBKrfcBLhBKrbcBgBDpbcBgBEizcBgBFnBccMFaMFabdMFaMFaMFaccMFdMFdbdMFdMFdMFdfcBhBhccBgBDtjcClClbcC",
  "lBhbcBhCloeMFaMFaMFaMFaDdcEkElDkdDtBvDvbdDtBvElccGuDvcdDvBvEhbdDvBvEndcGuDyncEgEhkcElEfbdEmDxEe",
  "bcEmEfzdDyDtEqvdBxMFsCdbdBxMFsCfbeBxMFsBxBwbdBxMFsBzbdByMFsBzbdBxMFsCbbdByMFsCbbdBzMFsCbbdCaMFs",
  "CbbdBxMFsCcbdCbMFsCcbdBxMFsCebdBzMFsCebdCbMFsCebdCdMFsCebcBxMFsccEbEbbdEbEbEbbcEbEoccEoEbbdEoEb",
  "EbbeEoEbEbEbbcEbEqccEqEbbdEqEbEbgcEbEbbdEbEbEbbcEbEoccEoEbbdEoEbEbbeEoEbEbEbbcEbEqccEqEbbdEqEbE",
  "bodBwMFsBzGhcMYlMYlbdMYlMYlMYlccMYoMYobdMYoMYoMYoVxcBxBwbcBxBxbcBxBybcBxBzbcBxCabcBxCbbcBxCcbcB",
  "xCdbcBxCebcBxCfbcByBwbdBoBxBpbdBoByBpbdBoBzBpbdBoCaBpbdBoCbBpbdBoCcBpbdBoCdBpbdBoCeBpbdBoCfBpbe",
  "BoBxBwBpbeBoBxBxBpbeBoBxByBpbeBoBxBzBpbeBoBxCaBpbeBoBxCbBpbeBoBxCcBpbeBoBxCdBpbeBoBxCeBpbeBoBxC",
  "fBpbeBoByBwBpvdBoDtBpbdBoDuBpbdBoDvBpbdBoDwBpbdBoDxBpbdBoDyBpbdBoDzBpbdBoEaBpbdBoEbBpbdBoEcBpbd",
  "BoEdBpbdBoEeBpbdBoEfBpbdBoEgBpbdBoEhBpbdBoEiBpbdBoEjBpbdBoEkBpbdBoElBpbdBoEmBpbdBoEnBpbdBoEoBpb",
  "dBoEpBpbdBoEqBpbdBoErBpbdBoEsBpCApeMYlMYlMYlMYlEadCgCgCjbcCjCjbdCjCjCjCIncBgSKnbcBgSKodcSJwSJyD",
  "scSLnSMiJxdBoGLkBpbdBoGLmBpbdBoGLnBpbdBoGLpBpbdBoGLqBpbdBoGLrBpbdBoGLtBpbdBoGLvBpbdBoGLwBpbdBoG",
  "LyBpbdBoGLzBpbdBoGMaBpbdBoGMbBpbdBoGMcBpbdBoCNDoBpbdBoCOWuBpbdBoCPTkBpbdBoCRMqBpbdBoCSJgBpbdBoC",
  "TFwBpbdBoCUZcBpbdBoCWSiBpbdBoCXOyBpbdBoCZIeBpbdBoDAEuBpbdBoDBBkBpbdBoDBYaBpbdBoDCUqBpbdBoCYCyBp",
  "beBoCXAyCXTkBpbeBoCXAyDDIqBpcdBoBDOaBpbdBoBDTkBpbdBoBDOjBpbdBoBGXfBpbdBoBDTsBpbdBoBEVtBpbdBoBDO",
  "dBpbdBoBEVrBpbdBoBDRpBpbdBoBFNtBpbdBoBNAmBpbdBoBQOxBpbdBoBOZkBpbdBoBNBsBpbdBoCDFtBpbdBoBGZvBpbd",
  "BoBMPhBpbdBoBNLqBpbdBoBNAnBpbdBoBTXuBpbdBoBFVpBpbdBoBRJdBpbdBoCBGrBpbdBoBTYzBpbdBoBFIiBpbdBoBDW",
  "tBpbdBoBFZwBpbdBoBIPyBpbdBoBTApBpbdBoBDXxBpbdBoCBIdBpbdBoBFOmBpbdBoBTZpBpbdBoBDYnBpbdBoBXFeBpbd",
  "BoBXFnBpndEiEmDxbcByBxbcByBybcByBzbcByCabcByCbbcByCcbcByCdbcByCebcByCfbcBzBwbcBzBxbcBzBybcBzBzb",
  "cBzCabcBzCbBdcCZIuCNMebcCYCyCXMuCacBzCcbcBzCdbcBzCebcBzCfbcCaBwbcCaBxbcCaBybcCaBzbcCaCabcCaCbbc",
  "CaCcbcCaCdbcCaCebcCaCfbcCbBwbcBxBNAmbcByBNAmbcBzBNAmbcCaBNAmbcCbBNAmbcCcBNAmbcCdBNAmbcCeBNAmbcC",
  "fBNAmbdBxBwBNAmbdBxBxBNAmbdBxByBNAmbcEaDzbdDxEkDzbcDxEobdEeEmDwBwcBDWuBGAmbeSKwSMrSOiSMibeSKwSN",
  "rSMvSKvbeSKwSNzSNaSKwbdSKwSOiSNrbeSKySMlSNzSLkbdSKySNzSMbbdSLaSLdSNzbfSLcSLtSLjSOiSMjbeSLcSOiSL",
  "fSOibdSLeSNzSLtbdSLeSOiSNgbdSLfSKySNqbeSLfSNpSMdSMibeSLfSNtSNqSOibdSLgSNtSNzbdSLgSNzSNebcSLiSLg",
  "bdSLiSMlSOibeSLhSNlSNqSOibeSLiSNrSMaSOibcSLhSNtbfSLhSNtSLkSNpSNgbgSLhSNtSNhSOiSMiSNrbfSLhSNtSNv",
  "SMdSMibdSLkSNpSNgbfSLkSNpSNgSMiSNzbfSLjSNrSLwSKySNtbeSLjSNtSOiSMnbdSLlSOiSLtbdSLnSNrSMkbdSLnSOi",
  "SNdbeSLpSKySLjSNrbfSLpSNzSMbSOiSNgbeSLrSNqSNzSLkbdSLvSNzSMbbdSLvSNzSMibdSMaSOiSLtbcSMhSLrbcSMjS",
  "NrbcSMiSNzbcSMkSMobdSMoSMdSMibdSMpSKySMebfSMrSOiSLvSNzSMibdSMrSOiSMebeSMqSOiSNsSNrbfSMuSKwSLtSM",
  "iSNrbdSMuSLjSNrbcSMuSLnbcSMtSNrbfSMvSKvSNpSMdSMjbeSMvSKxSOiSMibfSMwSMdSLrSLbSNrbdSMvSNpSNzbfSMy",
  "SLjSLzSOiSNrbcSNaSLxbdSNaSMlSMsbdSMySNrSMebdSNaSNzSLtbdSNaSOiSLsbdSMzSOiSLzbeSNdSKySNzSMibdSNcS",
  "NrSMibcSNbSNzbdSNdSNzSMjbdSNbSOiSNrbdSNbSOiSNzbeSNeSKySLjSNtbdSNeSKySNrbdSNeSMdSMpbdSNeSNrSLjbf",
  "SNeSNzSLrSNnSNzbeSNfSLjSNtSNzbcSNfSNqbfSNfSNqSMqSOiSNrbcSNhSLgbeSNhSLgSMiSNzbeSNhSOiSMiSNrbdSNk",
  "SOiSMjbdSNkSOiSNrbdSNmSKwSNzbeSNqSMdSMiSNrbcSNqSNpbdSNrSMuSOibeSNrSOiSMwSNrbcSNsSNgbfSNsSNzSMiS",
  "LmSNzbdSNvSMdSMibcBwBQRxbcBxBQRxbcByBQRxbcBzBQRxbcCaBQRxbcCbBQRxbcCcBQRxbcCdBQRxbcCeBQRxbcCfBQR",
  "xbdBxBwBQRxbdBxBxBQRxbdBxByBQRxbdBxBzBQRxbdBxCaBQRxbdBxCbBQRxbdBxCcBQRxbdBxCdBQRxbdBxCeBQRxbdBx",
  "CfBQRxbdByBwBQRxbdByBxBQRxbdByByBQRxbdByBzBQRxbdByCaBQRxbdEaEiDtbcDwDtbcDtEnbdDuDtEkbcEhEobcEiD",
  "vbcDwEfbdDwEfBybdDwEfBzbcEbEnbcBJTzBLDobcBMSbBGAmbcBHTvBORjbcBMQwBPEpbeBNLqBJZzBDYwBTXubcEiDtbc",
  "EgDtbcBKuDtbcEfDtbcEdDtbcEdDubcEfDubcDzDubdDvDtEebeEdDvDtEebcEiDybcEgDybcBKuDybcBKuDzbcEfDzbcEd",
  "DzbcEaEsbdEdEaEsbdEfEaEsbdDzEaEsbdEmEaEsbcBKuEebcEfEebcDwEebcEdEebcDyEfbcEgEfbcBKuEfbcEfEfbcDvE",
  "fbcEdEfbdEfEfBybdDvEfBybcEfBybdEdEfBybdEfEfBzbdDvEfBzbcEfBzbdEdEfBzbdEfMXpElbeEfMXpElBybcEiDtbd",
  "EdEiDtbdEfEiDtbdDzEiDtbdEkDtDwbfEkDtDwMXpElbgEkDtDwMXpElBybcEiElbcEgElbcBKuElbcEfElbcEiEobcEgEo",
  "bcBKuEobcEfEobcEdEobcEfEobcEiEpbcEgEpbcBKuEpbcEfEpbcEdEpbcEfEpbcEdBLhbcEfBLhccDuEjbcDvDvbcDvDwb",
  "eDvMXpEdDzccDwDubcDzErbcEaDtbcEaEibcEbEgbcEdEdbcEdEfbcEdEmbcEeEfbcEeEgbdEeEhDzbcEeEqbcEfDubdEfE",
  "bEebdEfEhEebcEiEacdEiEiEfbcEiEkbcElEkbcElEobcEpDubdEoMXpEfbdDtMXpEfbcBxBMPhbcByBMPhbcBzBMPhbcCa",
  "BMPhbcCbBMPhbcCcBMPhbcCdBMPhbcCeBMPhbcCfBMPhbdBxBwBMPhbdBxBxBMPhbdBxByBMPhbdBxBzBMPhbdBxCaBMPhb",
  "dBxCbBMPhbdBxCcBMPhbdBxCdBMPhbdBxCeBMPhbdBxCfBMPhbdByBwBMPhbdByBxBMPhbdByByBMPhbdByBzBMPhbdByCa",
  "BMPhbdByCbBMPhbdByCcBMPhbdByCdBMPhbdByCeBMPhbdByCfBMPhbdBzBwBMPhbdBzBxBMPhbdDzDtEeCXJlcDyDybcDy",
  "EbbcDyEebdDyDyEbbdDyDyEebcElEmbcElEmncCBsCBubcCBsCBdbcCBsCBjbcCCcCBubcCBsCBlCecCFgCFsFmcCOtCLon",
  "cCIoCIpbcCIoCIpbcCIoCPhbcCIoCPhbcCIoCJwbcCIoCJwbcCIoCOtbcCIoCOtbcCIoCOsbcCIoCOsbcCIoCOubcCIoCOu",
  "bcCIoCPcbcCIoCPcbcCIoCPcbcCIoCJxbcCIoCJxbcCIoCJxfcCIoCIubcCIoCIvbcCIoCJtbcCIoCJxbcCIoCJybcCIqCI",
  "ubcCIqCIvbcCIqCIwbcCIqCJtbcCIqCJxbcCIqCJybcCIsCIubcCIsCIvbcCIsCIwbcCIsCJtbcCIsCJxbcCIsCJybcCItC",
  "IubcCItCJtbcCItCJxbcCItCJybcCIuCIvbcCIuCJtbcCIvCIubcCIvCJtbcCIwCIubcCIwCIvbcCIwCJtbcCJbCIubcCJb",
  "CIvbcCJbCIwbcCJbCJtbcCJdCIvbcCJdCJtbcCJeCIubcCJeCIvbcCJeCIwbcCJeCJtbcCJfCIvbcCJfCJtbcCJgCJtbcCJ",
  "hCIubcCJhCJtbcCJiCIubcCJiCJtbcCJpCIubcCJpCIvbcCJpCIwbcCJpCJtbcCJpCJxbcCJpCJybcCJqCIvbcCJqCJtbcC",
  "JqCJxbcCJqCJybcCJrCIpbcCJrCIubcCJrCIvbcCJrCIwbcCJrCJsbcCJrCJtbcCJrCJxbcCJrCJybcCJsCIubcCJsCIvbc",
  "CJsCIwbcCJsCJtbcCJsCJxbcCJsCJybcCJtCIubcCJtCIvbcCJtCIwbcCJtCJtbcCJtCJxbcCJtCJybcCJuCIubcCJuCIvb",
  "cCJuCIwbcCJuCJtbcCJuCJxbcCJuCJybcCJvCIubcCJvCJtbcCJvCJxbcCJvCJybcCJyCIubcCJyCIvbcCJyCIwbcCJyCJt",
  "bcCJyCJxbcCJyCJybcCIyCLkbcCIzCLkbcCJxCLkbdBgCKaCKfbdBgCKbCKfbdBgCKcCKfbdBgCKdCKfbdBgCKeCKfbdBgC",
  "KfCLkbcCIoCIzbcCIoCJabcCIoCJtbcCIoCJubcCIoCJxbcCIoCJybcCIqCIzbcCIqCJabcCIqCJtbcCIqCJubcCIqCJxbc",
  "CIqCJybcCIsCIzbcCIsCJabcCIsCJtbcCIsCJubcCIsCJxbcCIsCJybcCItCIzbcCItCJabcCItCJtbcCItCJubcCItCJxb",
  "cCItCJybcCJpCJxbcCJpCJybcCJqCJxbcCJqCJybcCJrCIpbcCJrCJsbcCJrCJtbcCJrCJxbcCJrCJybcCJsCJtbcCJsCJx",
  "bcCJsCJybcCJtCIpbcCJtCJtbcCJuCIzbcCJuCJabcCJuCJtbcCJuCJubcCJuCJxbcCJuCJybcCJxCLkbcCJyCIzbcCJyCJ",
  "abcCJyCJtbcCJyCJubcCJyCJxbcCJyCJybcCIoCIubcCIoCIvbcCIoCIwbcCIoCJtbcCIoCJvbcCIqCIubcCIqCIvbcCIqC",
  "IwbcCIqCJtbcCIqCJvbcCIsCIubcCIsCIvbcCIsCIwbcCIsCJtbcCIsCJvbcCItCJtbcCIuCIvbcCIuCJtbcCIvCIubcCIv",
  "CJtbcCIwCIubcCIwCJtbcCJbCIubcCJbCIvbcCJbCIwbcCJbCJtbcCJdCIvbcCJdCIwbcCJdCJtbcCJeCIubcCJeCIvbcCJ",
  "eCIwbcCJeCJtbcCJfCIvbcCJgCJtbcCJhCIubcCJhCJtbcCJiCIubcCJiCJtbcCJpCIubcCJpCIvbcCJpCIwbcCJpCJtbcC",
  "JqCIvbcCJqCJtbcCJrCIubcCJrCIvbcCJrCIwbcCJrCJsbcCJrCJtbcCJsCIubcCJsCIvbcCJsCIwbcCJsCJtbcCJsCJvbc",
  "CJtCIubcCJtCIvbcCJtCIwbcCJtCJtbcCJuCIubcCJuCIvbcCJuCIwbcCJuCJtbcCJuCJvbcCJvCIubcCJvCJtbcCJvCLkb",
  "cCJyCIubcCJyCIvbcCJyCIwbcCJyCJtbcCJyCJvbcCIoCJtbcCIoCJvbcCIqCJtbcCIqCJvbcCIsCJtbcCIsCJvbcCItCJt",
  "bcCItCJvbcCJbCJtbcCJbCJvbcCJcCJtbcCJcCJvbcCJrCJsbcCJrCJtbcCJsCJtbcCJuCJtbcCJuCJvbcCJyCJtbcCJyCJ",
  "vbdCJoCKcCKfbdCJoCKdCKfbdCJoCKeCKfbcCJfCJxbcCJfCJybcCJhCJxbcCJhCJybcCJiCJxbcCJiCJybcCJbCJxbcCJb",
  "CJybcCJcCJxbcCJcCJybcCIvCJxbcCIvCJybcCIuCJxbcCIuCJybcCIwCJxbcCIwCJybcCJdCJxbcCJdCJybcCJeCJxbcCJ",
  "eCJybcCJcCIubcCJcCIvbcCJcCIwbcCJcCJtbcCJcCIzbcCJbCIzbcCJdCIzbcCJeCIzbcCJfCJxbcCJfCJybcCJhCJxbcC",
  "JhCJybcCJiCJxbcCJiCJybcCJbCJxbcCJbCJybcCJcCJxbcCJcCJybcCIvCJxbcCIvCJybcCIuCJxbcCIuCJybcCIwCJxbc",
  "CIwCJybcCJdCJxbcCJdCJybcCJeCJxbcCJeCJybcCJcCIubcCJcCIvbcCJcCIwbcCJcCJtbcCJcCIzbcCJbCIzbcCJdCIzb",
  "cCJeCIzbcCJcCIubcCJcCIvbcCJcCIwbcCJcCJtbcCJbCJvbcCJcCJvbcCJfCJtbcCJbCIubcCJbCIvbcCJbCIwbcCJcCIu",
  "bcCJcCIvbcCJcCIwbcCJfCJtbcCJgCJtbcCIpCJzbcCIpCJztdCIsCIuCJtbdCIsCIvCIubdCIsCIvCIubdCIsCIvCJtbdC",
  "IsCIwCJtbdCIsCJtCIubdCIsCJtCIvbdCIsCJtCIwbdCIuCJtCIvbdCIuCJtCIvbdCIvCJtCJybdCIvCJtCJxbdCJbCIvCI",
  "ubdCJbCIuCIvbdCJbCIuCJxbdCJbCJtCIvbdCJbCJtCIvbdCJbCJtCIubdCJbCJtCJtbdCJbCJtCJtbdCJdCIvCIvbdCJdC",
  "IvCIvbdCJdCJtCJtbdCJcCIvCJtbdCJcCIvCJtbdCJcCIuCJybdCJcCJtCIwbdCJcCJtCIwbdCJcCJtCJtbdCJcCJtCJtbd",
  "CJeCIvCJxbdCJeCIwCJtbdCJeCIwCJtbdCJfCJtCIvbdCJfCJtCIvbdCJfCJtCJtbdCJfCJtCJybdCJhCIuCJtbdCJhCJtC",
  "JtbdCJhCJtCJtbdCJhCJtCJxbdCJiCJtCJtbdCJiCJtCJybdCJiCJtCJxbdCJpCIwCJtbdCJpCIwCJtbdCJqCJtCIvbdCJq",
  "CJtCJtbdCJsCIvCJtbdCJsCIvCJybdCJsCIvCJxbdCJsCIuCIubdCJsCIuCIubdCJsCIwCJtbdCJsCIwCJtbdCJsCJtCIvb",
  "dCJsCJtCIvbdCJtCIvCIubdCJtCIvCJtbdCJtCIvCJybdCJtCIuCIvbdCJtCIuCJtbdCJtCIwCIubdCJtCIwCJtddCJtCIu",
  "CIwbdCJvCJtCIubdCJvCJtCJtbdCJuCIvCJtbdCJuCIvCJxbdCJuCIuCJtbdCJuCIuCJtbdCJuCIuCJxbdCJuCJtCJybdCJ",
  "uCJtCJxbdCJyCJtCJtbdCJyCJtCJtbdCIqCIwCJybdCIsCIuCJybdCIsCIuCJxbdCIsCIwCJybdCIsCIwCJxbdCIsCJtCJy",
  "bdCIsCJtCJxbdCIuCJtCJybdCIuCIvCJxbdCIuCJtCJxbdCJbCIwCJxbdCJdCIvCJybdCJcCIvCJybdCJeCIvCJybdCJsCI",
  "uCJybdCJsCJtCJybdCJyCIvCJybdCJyCIuCJybdCJyCJtCJybdCJtCJtCJybdCJqCJtCJybdCJuCIvCJybdCJqCJtCIvbdC",
  "JsCIvCJtbdCJhCJtCJybdCJrCJtCJybdCJuCIuCIvbdCJtCIwCJybdCJsCIuCJtbdCJrCJtCJtbdCJsCIuCJtbdCJuCIuCI",
  "vbdCIuCIvCJybdCIvCIuCJybdCJtCIuCJybdCJpCJtCJybdCIqCIvCJybdCJrCJtCJtbdCJhCIuCJtbdCJdCJtCJtbdCJbC",
  "IwCJybdCJuCIuCJyBpdCJdCJsCPebdCJqCJsCPebeCIpCJsCJsCJvbeCIpCJrCIqCIzbeCJtCIvCJtCIxbeCJdCJsCJhCJt",
  "beCIzCJbCJwCJsbeCJhCJsCJyCJvbeCJwCJbCJsCJtbdCJdCJsCJxbsCJdCJsCJxBgCIpCJsCJsCJvBgCJhCJsCJyCJvBgC",
  "JwCJbCJsCJtbiCIuCJsBgCIuCJsCIpCJsCJvbeCIzCOyCIpCJsCzcBgBDtbcBgBDtbcBgBDtbcBgBDtBkcBgCJzbcCJoCJz",
  "bcBgCKaccBgCKbccBgCKcbcCJoCKcbcBgCKdbcCJoCKdbcBgCKebcCJoCKebcBgCKfbcCJoCKfbcBgCKgbcCJoCKgEocCJs",
  "CIkbcCJsCIkbcCJsCIlbcCJsCIlbcCJsCInbcCJsCInbcCJsCIpbcCJsCIpIxcBgBDsDNIccBwBsbcBxBsbcByBsbcBzBsb",
  "cCaBsbcCbBsbcCcBsbcCdBsbcCeBsbcCfBsgdBoDtBpbdBoDuBpbdBoDvBpbdBoDwBpbdBoDxBpbdBoDyBpbdBoDzBpbdBo",
  "EaBpbdBoEbBpbdBoEcBpbdBoEdBpbdBoEeBpbdBoEfBpbdBoEgBpbdBoEhBpbdBoEiBpbdBoEjBpbdBoEkBpbdBoElBpbdB",
  "oEmBpbdBoEnBpbdBoEoBpbdBoEpBpbdBoEqBpbdBoErBpbdBoEsBpbdSFkElSFldcDvDwbcEpEsBccEaEobcEfEobcElDwb",
  "cElElbdEiEiEobcEpDvBbcEfDvbcEfDwbcEfEkBkcDwEcEicSJjSHnbcSLnSLnCldSFkBNBwSFlbdSFkBDOjSFlbdSFkBDT",
  "kSFlbdSFkBIRhSFlbdSFkBQRxSFlbdSFkBLGdSFlbdSFkBTAdSFlbdSFkBFJxSFlbdSFkBMJvSFl"]

def many : List (Nat × List Nat) := Packed.lists 0 (Packed.numbers packedMany)

/-- The characters that stand for nothing. -/
def ignored : CodeSet := .unpack ["GrbZxbFIlcCKhcDhfDApbDgffgGKybCZMpqJfbGebCTOxeHWxiBTLJhJg"]

/-- The characters that stand for themselves. -/
def kept : CodeSet := .unpack [
  "aCnBaBlBhhbbbcbbbcecdbdbxbhBhbbbbbbbbbbbbbbbbbbbbbbbbbbbbbbbbbbbbbbbbbbbbbbbbbbdbbcbbbbbbdbbbbb",
  "bbcbbbbbbbbbbbbbbbbbbbbbbbbbbbbbbbbbbbbbbbbbbbbbcbbbbbbbcbbbcbdcebcbddcbcbbbbbcbbcbbcbdbbbcdbhk",
  "bbbbbbbbbbbbbbcbbbbbbbbbbbbbbbbbcebdbbbbbbbbbbbbbbbbbbbbbbbbbbbbbbbbbbbbbbbbbbbbbbbbbbbbbbbbbbh",
  "cbccbbebbbbbbbbDtjBfgcfDsbjbBgbbbdbbdeibibBbBjibbbbbbbbbbbbbbbbbbbbbbbbbdbcbbbccBzBwbbbbbbbbbbb",
  "bbbbbbbbbbbbbbbbbbbbbbjbbbbbbbbbbbbbbbbbbbbbbbbbbbbbbbbbbbbbbbbbbbbbbbbbbbbbbcbbbbbbbbbbbbcbbbb",
  "bbbbbbbbbbbbbbbbbbbbbbbbbbbbbbbbbbbbbbbbbbbbbbbbbbbbbbbbbbbbbbbbbbbbbbbbbbbbbbbbbbbbbbbbbbbbBpB",
  "ubdcdbCdiBbegrwbDkeDwbBwcChcDxoChcBxcpbBccbblfBghCxbGfbicccwbhbbdecjccceibecbfczcdbgeccwbhbcbcb",
  "ccbbfeccddbhebbhrkdbjbdbwbhbcbfckbdbdcbpecmhhbdbicccwbhbcbfcjcccdhdecbfcskcbgddbedcbbbcdcdddmef",
  "ddbecbgbovfnbdbxbqcjbdbehcbdbcceckhwbdbxbkbfcjbdbehcfdbeckbdmnbdbBzbdbgeqcBabdbsdybjbbchdbegbbb",
  "igkcdmBybheBdBlcbbbfbybbbmbkcfbbbhbkecBgmbChbBkegbbbBebBkbpbnBlGeBwBsbDucIybechbbbecBpbecBhbech",
  "bbbecpbCfbecCpcBgdBagDikYqbBcdDlhwjyjumnbdbcmCacBockgkglfkgDlhBrfCskBfbmemebdBqcflBseBagldCkcCn",
  "bBdclgkgocBucmuCzbGkiCidpdBzkbCbiiBrfBsdblbsbBcnbBiBlCmbbbbbbbbbbbbbbbbbbbbbbbbbbbbbbbbbbbbbbbb",
  "bbbbbbbbbbbbbbbbbbbbbbbbbbbbbbbbbbbbbbbbbbbbbbbbbbbbbbbbbbbbbbbbbbbbbbbbbbbbbbbbbbbbbbbbbbbbbbb",
  "bbbbbbbbbbbbbbfccbbbbbbbbbbbbbbbbbbbbbbbbbbbbbbbbbbbbbbbbbbbbbbbbbbbbbbbbbbbbbbbbbbbbbbbbbbbbbb",
  "bbbbbbbbbbbbbbbbbbbjigkiiiigkiiiioBycebhbhbjecciihbgbvccbbfbmdbidcbcebbbidnbhCnibzoBhtbdblbccfc",
  "dbbbbbbbeblbgefgBwdbfbceGacbcTlwlGeBYnbDzdJtcFiBwBwbbdcbbbbbbebbcbgfbbbbbbbbbbbbbbbbbbbbbbbbbbb",
  "bbbbbbbbbbbbbbbbbbbbbbbbbbbbbbbbbbbbbbbbbbbbbbbbbbbbbbbbbbbbbbbbbbbbbbbibbbebbfBtbbfbcCeiboyjhb",
  "hbhbhbhbhbhbhbEwBiBabebDfKkbbBzbbdfbDiccccbDrgBrDscoCskqCuiBvbOuBQQfdCdjNkvbbbbbbbbbbbbbbbbbbbb",
  "bbbbbbbbbbbbbbbbbbbbbbbbtbbbbbbbbbbbbbbbbbbbbbbbbbbbbcDmiBibbbbbbbbbbbbbdbbbbbbbbbbbbbbbbbbbbbb",
  "bbbbbbbbbbbbbbbbbbbbbbbbbbbbbbbbbbbbbbbbbibbbbcbbbbbbbbebbbcbbbdbbbbbbbbbbbbbbbbbbbbfbfbbbbbbbb",
  "bbbbbbbebbbcbbbbbbbbbbbbbbbBaccBzdkgCeiCsimgEmlBedDableBhbCdjockcDzyBckgcgcgjhbhbBsejbcDgBuckgQ",
  "NsmxeBxMNcOccEcCpdknbfbbbcbcbjDvBhNzsCmcCciBtdBgqvcBsbPgmbBabtbcbpcoBiEtfdeBtdDkbndbBvBuFaBddBx",
  "pBceBkjBefBrfBebBleoDeEockBuBkeBoiCalbBnlbpbhbcdCamLzjwkiybExgcbbBsbcdbcxbCuijBwtbcfBhdBbfBbBmC",
  "eeucBybcfibdbBdcdekhjhCmBgBnemjCcdBdcBbfBahemhDcCvEpBzhBuikgqzBdicIaBfbBqbdccqgijBhBuiBqwBaBmBc",
  "uxjDaeBkjCkbfnzhkgCbbsiBnjDsbulsbBvCkhbbbebpblgChfkgebicccwbhbcbfbkcccdcbgbfhchdflkbbcbbBmbkbbc",
  "bbebkbcicBdDobfBeCuikGkCccBmBiCrlkgntCggkguBcBbcpexHdCiFcBzmicbcibcbBebccmjkCsicBuclBbCuiDfnCvh",
  "kDiiDkBiokgjbBtbokBddBgcwboCvhbcbBsdbbcbjikggbcbBlbcbghkgBsekJmzhrbBpdBdDhbpBynBJnDyEhbflHoDXkD",
  "vnBPgqwkFXrfWlKDdCgCOsVxhBfbkeDdbkgBecgkCskkbhbvftQqCgIwChBgzBsCxeCfhrCmflhjKXyBpBgDtElMWrebhbc",
  "bLfpbBddcboeiPgDKuEdfndjhkceFVkIgBkddQugxprpBucxjEmCiJmkBncCwiEivCsEsumumDjjzBSpZcpfbpBQmBfggIf",
  "hbrchbcbfDwbEiBtdockecMiBfrCgfbRwBqIgBrebHkBfbwicIqhbebcbpbHpcqCxBqekecBEfCqCyCjQscKkBseDwmpcpb",
  "pbBlvfBfbBgBadBjbBdCeBaDsgFyBLxdrdndIkgmebpmeCeikgBoiBecmecojBnNgiocndldCfbbeqcmekhFrbDokbBNpCL",
  "FcBgGMocIOccLBlpXyDQwUwCFyHHzfMOo"]

/-- What a character stands for; `none` if no name may have it. -/
def image? (c : Char) : Option (List Char) :=
  if kept.mem c then some [c]
  else if ignored.mem c then some []
  else
    match runs.findSome? (·.image? c.toNat) with
    | some n => some [Char.ofNat n]
    | none => (many.lookup c.toNat).map fun ns => ns.map Char.ofNat

end PageHarvest.Url.Name
