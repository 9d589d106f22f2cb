import PageHarvest.Text.CodeSet

/-!
# Directions of writing in names

A name with a character of a script that is written from right to left has to be readable in one
way only. Each of its labels starts with a letter, whose direction is that of the label, and holds
no letters of the other direction; it ends, apart from marks, in a letter or a number, and a label
from right to left does not mix the two kinds of numbers. The classes of characters are those of
version 17.0 of the Unicode character database.
-/

namespace PageHarvest.Url.Name

open Text

/-- How a character takes part in the direction of a text. -/
inductive Direction
  | left
  | right
  | europeanNumber
  | arabicNumber
  | mark
  | neutral
  deriving DecidableEq, Repr

namespace Direction

/-- Letters of scripts from right to left. -/
def rights : CodeSet := .unpack [
  "CCubBtbbbcbcbbCeibcbbbnBwBidbDxpchckxbBeBbDnlCgjcedbyebjbdbfBrdBzdfjBqIVdbDEYvbbkbFxqNzsCmcCcBo",
  "nElFnDKrLbbIrdbcfeBodebGjcDehSqeikBvgJhBfBscBjjBhgCslBxeEsDDUuIahEfhCDpcKk"]

/-- Numbers that belong to scripts from right to left. -/
def arabicNumbers : CodeSet := .unpack ["CHcgDmkbcEibQscDcbDUOzkLiBf"]

/-- Numbers that belong to no direction. -/
def europeanNumbers : CodeSet := .unpack ["BwkEqcfbCJekJQsbdggkBNiuDESykBLfBbCYMmkECqByJMelEDhk"]

/-- Marks, which go with the character in front of them. -/
def marks : CodeSet := .unpack [
  "BDoEiKphKdBtbbbcbcbbCulBwvqbDxhcgccbeBjbBeBbDnlCgjjbyebjbdbfBrdChjBqybBgCdbbbeiebdhkcBdbCgbeeib",
  "ucBabccCfbececcddbBecdblcCfbefbcebucwgbbCgbcbbeibhclcBebCjbmbBybdbCdbbdfdbehclcBdbCgbpcucBccCfc",
  "eeibucBdbCubhdbbDmbchmiDubcjlhCvcBbbbbbbCdobfbcflbBkjbDyebgbccczcedqenbccgbpbBBbdBKkdBdcBecBecC",
  "mcbhibcljbBtdbbEncBibEodecjbgdIlccbCgbbhbbbbcigkcbBwBucmueBwbbfbbfbBojmcBgeccbdCebbcdbbdCgiccFw",
  "dbnbhebgbdcHqCmBBsBhEOcdFlbDsBgVieEdcBSQeebkBgcDccKmbdbebzcfbFvcBasnbBmizlBudBwbceccBnbCpgccccm",
  "bibBvbBzbbdccfcbbBqcibJebcbebBDZsbBCjqqqBLlbIsbFtfCMgdbcfeBodebGjcWbeCnfMfcCzgCslBxeEtbCcpBpbcc",
  "kdBxecchbCjdBkfbiCkbmcCajkecbDrdcbbcgbcbGbbdivcCfcdbBlhdfCsgnbbbbbocDhicdbbxbDggbbecbcJeegcbcBb",
  "cDhicbbcEcbbbcgbbDxdcebfJzjbcJwcbbebFoeccebBggccBogceibjgcdBunbcHqbbdbbHthbgDgwchbcbcEsgdbbcbhb",
  "bCucdbbbNjclcCaffbbbxbHXtbgpQYymddDSafChhBOibCleDdbBDBkcGYzBucxUydrichBeeFsdCYdCdeByibobwfbpCAi",
  "hbrchbcbfDwbGehOlbCjeToeJucJjbcbhcfbSghEfhBTCIvJg"]

/-- Characters without a direction. -/
def neutrals : CodeSet := .unpack [
  "ajfofpkhBagBakbBkbhcbbdcfxbBfbRhchocofjbrEmcibfcbbEgbPnbcdEocbcbbbcDmbElbkbKieTkchbJlbJxiEvhRgb",
  "JqeBQokDybZqcMgbukgldbLtbdcFwBiCEnbbdldndndncmdcyhBwbgegkflfrBwBwcbebckbbdfgbbbbbbeblceffecqBpd",
  "eQgCrBabFswlvBoDuRibNbJwYecFiIvgohJwDqBiBabDlmIgBaqbedzpbfcfdDncdbDmbHoBmjbBtcBxqBcdBypmeGleDvc",
  "BfbJToCmBGUiCdModDvbkcEyBiDybGdemcCgeBDacBEFdbFxqNzsCmcCcBondqkwBjbtbeFrbbpkhBagBalEshbhbqJxbCk",
  "CzdndbCVubUrhVmbNpjOnuCGwnDOqBdBEHcbBDBpeFVgJgkddQugxprYsiEgcvCodbHeDjBIqbCfbCfbCfbCfbEGpbENocK",
  "kBseDwmpcpbpbBlvfBfbCggCjbGwgFyBLxdrdndIkgmebpmeCeikgBoiBecmecojBnNgiocndldCfbbeqcmekhFrbDokbBN",
  "ncDSYocDSYocDSYocDSYocDSYocDSYocDSYocDSYocDSYocDSYocDSYocDSYoJyJgFImDMXacDSYocDSYoc"]

def ofChar (c : Char) : Direction :=
  if rights.mem c then right
  else if arabicNumbers.mem c then arabicNumber
  else if europeanNumbers.mem c then europeanNumber
  else if marks.mem c then mark
  else if neutrals.mem c then neutral
  else left

/-- Whether a text with such a character has a part from right to left. -/
def isFromRight (d : Direction) : Bool := d = right || d = arabicNumber

/-- Whether a label from left to right may hold a character, and may end in it. -/
def fitsLeft (d : Direction) : Bool := !d.isFromRight

def endsLeft (d : Direction) : Bool := d = left || d = europeanNumber

/-- Whether a label from right to left may hold a character, and may end in it. -/
def fitsRight (d : Direction) : Bool := d ≠ left

def endsRight (d : Direction) : Bool := d.isFromRight || d = europeanNumber

/-- Whether a label can stand in a name with parts from right to left, given the directions of its
characters. -/
def isClear : List Direction → Bool
  | [] => true
  | first :: rest =>
    let rest := (rest.reverse.dropWhile (· = mark)).reverse
    match first with
    | left => rest.all fitsLeft && rest.getLast?.all endsLeft
    | right =>
      rest.all fitsRight && rest.getLast?.all endsRight &&
        !(rest.contains europeanNumber && rest.contains arabicNumber)
    | _ => false

end Direction

/-- Whether the labels of a name can be read in one way only. -/
def isReadable (labels : List (List Char)) : Bool :=
  let directions := labels.map fun cs => cs.map Direction.ofChar
  !(directions.any fun ds => ds.any Direction.isFromRight) || directions.all Direction.isClear

end PageHarvest.Url.Name
