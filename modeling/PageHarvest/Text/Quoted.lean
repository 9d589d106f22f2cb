import PageHarvest.Text.CodeSet

/-!
# Texts in quotes, with escapes for what does not show

The form in which messages name a text: line ends, tabs, quotes and backslashes are escaped, and a
character that shows nothing of its own is written by its number.
-/

namespace PageHarvest.Text

/-- Characters that show nothing on their own: controls, unassigned and private ones, blanks other
than the space, those that change the character in front of them, and those that may be ignored.
The two half-width sound marks, which have a width, are not among them. -/
def hidden : CodeSet :=
  CodeSet.unpack [
    "aBgDrBimbWwEiicgehbbbubIqhGkbBmcBycdBubbbcbcbjBbegrklbbBuvqbDxibgccbeBgcbbBeBdDllboBrjhdyebjb",
    "dbhpbzfbblfBgqBqCfCdbbbeiebdhkcBdbcbicccwbhbbdedbbcgcccbbncbdeyfbbgeccwbhbcbcbcedyebbhkcdbbmb",
    "bjbdbwbhbcbfdeibbcdbpcemhbicbicccwbhbcbfdbcbgcccpcbdeslbbgddbedcbbbcdcdddmfbbcddbddbvvgdbibdb",
    "xbqdbdetdbcccekhkblbdbxbkbfdccbbcxdbcekbdolbdbBpcbbcfdbdbcedbkeBaccbsdybjbbchjcghhkcdmBwbclii",
    "nBlcbbbfbybbbkbcjbcfbbjkceBgycBbbbbbbobBksbfbcfBxibgbnBlBtebgbccczcedqenbccgbpbBobbfbcFncIybe",
    "chbbbecBpbecBhbechbbbecpbCfbecCpfBddBagDicgcYqbBcdDlhsntdcjsonbdpCacbhibcljdkgkglfkgDlhfcBibb",
    "fCskBfeecdecbghbdBqcflBseBagldCfccdCebbjbbcignkgkgoDiBwkedibBdjmcBgecgCebbcdbbnBwicfpdCkfBrcl",
    "lbnbhebgbdcbfHkCmKscgcBmcgcibbbbbbbBfcCbbpbocgbtcdbjryiBvrccBbbndBiCkFkeZqwlvCRscOndcfBtbbfbc",
    "CehcpxjhbhbhbhbhbhbhbhBhDqBiBabDlmIgBaqbBpgqbDieDxfBrbBzbBqbDijBwbBRIrdCdjNkuBvebkBgcDccgiInu",
    "rbdbebzcfekgCeiCqkmynbBmizlbmBegBwbcecccbnblehbzbBpgcccldbibbckcBgbBzbbdccfcbbbyrcilgcgcgjhbh",
    "bCieEnbcbedkgQNsmxeBxMNcOccEcBmhmffbbybfbbbcbcbZaBgqqkwBjbtbeefbFfeGdbBedgcgcgcddhbhnccmbBabt",
    "bcbpcoBiEtfdeBtdDkbndbBvBtFbBddBxqBbeBkjBefBmkBebBleoBqGcckgBkeBkeBoiCalmbpbhbcblbpbhbcdCamLz",
    "jwkiygbBqbjCrgcbbBsbcdbcxbCuijBwtbcfBhdBbfBbBmCeeucBvpebdbBdkjhjhCmBgBlgmjCcdBdcBbfBahemhDcCv",
    "CdBznBzhBqmkgBmiyicIaBfbBqdbccqgijBnBoiwljwseeBmBcuxjbbCcpheBebccbmBxecccbeozhkjBkfbjsiBjbdlC",
    "ajbbiecbqbulsbBcdcegbcClhbbbebpblgBvbdnkicbicccwbhbcbfdbbbbeccccdbmhBckbbcbbBmbbbcpbbcdbbdbcB",
    "nCeicdbbvbbbdBeBwbcgbbcbbcbceikGkBvbcgecbcBbBkBzicbbcelkgntBrbbbcicgkguBcBbdbbcebjxHdBvjbcbDw",
    "DfmicbcibcbybfbcgebdjkCsicBqiebeBbbkBogceijbgcdBunbcjnCvhkDjbdbbbDkBiokgjbBmobbgkBddBgzbhbcbC",
    "xhbcbBmvbjkggbcbBlecbbbbhkgBsekJmtcejpbBkicdxDibpBynBJnDyEhbflHoDXkDvnBPgrgzFXrfWlKDdBemddkCO",
    "sVxhBfbkeDdbkgBehbkBwhpkkbhbvftQqCgHqDnfzczBsCxfCelnCmeofjKXyBpBgDtElMWrebhbcbLfpbBddcboeiPgD",
    "KuEdfndjhkcbcbFVkJtdQugxprDrEmCiJmkBncCifdwchBeeCjvCodbEsumumDjjzFfDhbCtbccbcccebmbbbhbCnbeci",
    "bhbBcbebfbbdhbNccLgcVqCdeByibobhBRwBfggKbCkFqBtkhckecMiBesBsekfbRwBcekIgBeclebHkBfbdbcbhcfjcI",
    "qhbebcbpbHpcjBwCqhbekecBEfCqCyCjHmebBbbcbbcbbkbebbbbgbebbbbbbdbcbbcbbbbbbbbbbcbbcebhbebebbbkb",
    "rfdbfbrCacKkBseDwmpcpbpbBlkGsCeBdnBsejhcogFyBLxdrdndIkgmebpmeCeikgBoiBecmecojBnNgiocndldCfbbe",
    "qcmekhFrbDzBNpCLFcBgGMocIOccLBlpXyDQwUwCFyHHzfMOoBZLJy"]

def escapeVisible (c : Char) : List Char :=
  if c = '"' then ['\\', '"']
  else if c = '\\' then ['\\', '\\']
  else if c = '\n' then ['\\', 'n']
  else if c = '\r' then ['\\', 'r']
  else if c = '\t' then ['\\', 't']
  else if c.toNat = 0 then ['\\', '0']
  else if 0x20 ≤ c.toNat ∧ c.toNat < 0x7f then [c]
  else if hidden.mem c then
    ['\\', 'u', '\x7b'] ++ Nat.toDigits 16 c.toNat ++ ['\x7d']
  else [c]

def quoted (s : String) : String :=
  String.ofList ('"' :: (s.toList.flatMap escapeVisible ++ ['"']))

end PageHarvest.Text
