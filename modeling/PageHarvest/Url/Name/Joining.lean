import PageHarvest.Text.Normal

/-!
# Joiners in names

Two characters without a form of their own join or part their neighbours. Both may stand after a
mark that silences a vowel; the one that parts may also stand between letters that would join. The
classes of characters are those of version 17.0 of the Unicode character database.
-/

namespace PageHarvest.Url.Name

open Text

/-- Letters that join on both sides. -/
def joinsBoth : CodeSet := .unpack [
  "CIibfbbbbfenbhbcBjciqsBmbcjbbbbcBodcbsdfebjbbbbbcBfldpcebbcdcgCwBhDifcbbkbbkbbecbBdbcfbbqkfccgb",
  "pFUcbyDloBibbCCJtByBLFyfoebfbdkeFpbbbddbcbbcbBccNaBhbbPzcbcEadbrmdBcecmBubbcebccbcbbcbfbDEGrCq"]

/-- Letters that join to the next letter alone. -/
def joinsNext : CodeSet := .unpack ["CLUobBLGkbjbVgbBBmb"]

/-- Letters that join to the letter in front alone. -/
def joinsPrevious : CodeSet := .unpack [
  "CIkebbbbfevbBodbdqsBmbcjbbbbccbbycBgbefebjbbbbbcbBdbldpcebbcdcHqbfcbbkbbdobbcftlbBbdbbccgbDTStb",
  "bbbcdfkbdbcbkbFpbbddbcbbcbbxeOjbPzbEibBgbBfcCkdcccbecfb"]

/-- Characters that letters join across. -/
def joinsThrough : CodeSet := .unpack [
  "GrbWwEiKphKdBtbbbcbcbbCulbbBuvqbDxhcgccbeBhbbbBeBbDnlCgjjbyebjbdbfBrdChjBqybBgCdbbbeiebdhkcBdbC",
  "gbeeibucBabccCfbececcddbBecdblcCfbefbcebucwgbbCgbcbbeibhclcBebCjbmbBybdbCdbbdfdbehclcBdbCgbcbgb",
  "fcucBccCfceeibucBdbCubhdbbDmbchmiDubcjlhCvcBbbbbbbCdobfbcflbBkjbDyebgbccczcedqenbccgbpbBBbdBKkd",
  "BdcBecBecCmcbhibcljbBtdbbEncBibEodecjbgdIlccbCgbbhbbbbcigkcbBwBucmueBwbbfbbfbBojmcBgeccbdCebbcd",
  "bbdCgiccFwdbnbhebgbdcHqCmUdbccBafBxffgDsBhEOcdFlbDsBgVieEdcBSQeebkBgcDccKmbdbebzcfbFvcBasnbBmiz",
  "lBudBwbceccBnbCpgccccmbibBvbBzbbdccfcbbBqcibJebcbebBDZsbBCjqqqHzbJpdTtbIsbFtfCMgdbcfeBodebGjcWb",
  "eCnfMfcCzgCslBxeEtbCcpBpbcckdBxecchbCjdBkfbiCkbmcCajkecbDrdcbbcgbcbGbbdivcCfcdbBlhdfCsgnbbbbboc",
  "DhicdbbxbDggbbecbcJeegcbcBbcDhicbbcEcbbbcgbbDxbbbcebfJzjbcJwcbbebFoeccebBgkBogceibjgcdBunbcHqbb",
  "dbbHthbgbbDewchbcbcEsgdbbcbhbbCucdbbbNjclcCaffbbbxbHXdrgpQYymddDSafChhBOibCleDdbBDBkcbeGYuBucxU",
  "ydjqchBeeFsdCYdCdeByibobwfbpCAihbrchbcbfDwbGehOlbCjeToeJucJjbcbhcfbSghEfiBTBYzbBeDsEyJg"]

/-- The combining class of marks that silence a vowel. -/
def silencingClass : Nat := 9

/-- The character that parts letters, and the one that joins them. -/
def isParter (c : Char) : Bool := c.toNat = 0x200c

def isJoiner (c : Char) : Bool := c.toNat = 0x200d

/-- Whether the nearest letter joins, given the characters on one side from the inside out. -/
def hasJoining (sides : List CodeSet) (cs : List Char) : Bool :=
  match cs.dropWhile fun c => joinsThrough.mem c && !sides.any (·.mem c) with
  | c :: _ => sides.any (·.mem c)
  | [] => false

/-- Whether every joiner of a label has its place; `before` are the characters in front, the nearest
first. -/
def joinersFit (before : List Char) : List Char → Bool
  | [] => true
  | c :: rest =>
    let afterSilent := before.head?.any fun d => markClass d = silencingClass
    let fits :=
      if isJoiner c then afterSilent
      else if isParter c then
        afterSilent || (hasJoining [joinsBoth, joinsNext] before &&
          hasJoining [joinsBoth, joinsPrevious] rest)
      else true
    fits && joinersFit (c :: before) rest

end PageHarvest.Url.Name
