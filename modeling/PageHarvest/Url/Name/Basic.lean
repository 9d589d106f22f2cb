import PageHarvest.Text.Blank
import PageHarvest.Text.Search
import PageHarvest.Url.Name.Direction
import PageHarvest.Url.Name.Joining
import PageHarvest.Url.Name.Mapping
import PageHarvest.Url.Punycode

/-!
# International names

The name of a host is a list of labels with full stops between them. It is written in ASCII: a label
with other characters is written in Punycode, with `xn--` in front. A name may come in either form
and with characters that stand for others; `toAscii?` gives the one form in which it is written, and
refuses a name with a label that nobody could have meant.

- A label in Punycode has to be the form of a label that stands for itself.
- No label starts with a mark, and joiners stand where they make a difference.
- The directions of writing are clear.
-/

namespace PageHarvest.Url.Name

open Text

/-- A part of a name, as it is shown and as it is written. -/
structure Label where
  shown : List Char
  written : List Char

/-- What stands in front of Punycode. -/
def encodedMark : List Char := "xn--".toList

/-- The longest text outside ASCII that is a label, and the longest text in Punycode that is read. -/
def maxShown : Nat := 1000

def maxEncoded : Nat := 2000

/-- Whether every character of a text stands for itself, alone and beside the others. -/
def isStable (cs : List Char) : Bool :=
  cs.all (fun c => image? c == some [c]) && normalize cs == cs

/-- The text in Punycode, which has to be stable. Text that ends in a dash holds nothing but
ASCII, and is not encoded for that. -/
def decode? (cs : List Char) : Option (List Char) :=
  if !cs.all isAscii || cs.getLast?.all (· = '-') || maxEncoded < cs.length then none
  else (Punycode.decode? cs).filter isStable

def encode (cs : List Char) : List Char :=
  if cs.all isAscii then cs else encodedMark ++ Punycode.encode cs

/-- The label of a text whose characters stand for themselves. -/
def Label.ofChars? (cs : List Char) : Option Label :=
  match dropFront? encodedMark cs with
  | some encoded => (decode? encoded).map (⟨·, cs⟩)
  | none => some ⟨cs, encode cs⟩

/-- Marks, which combine with a character in front of them. -/
def marks : CodeSet := .unpack [
  "BDoEiKphKdBtbbbcbcbbCulBwvqbDxhcgccbeBjbBeBbDnlCgjjbyebjbdbfBrdChjBqybBhCcdbsbhkcBddCebbhcccdjb",
  "kcBabcdCebbfeccddbBecdbldCebbibdbducwgbdCebbhcccdhdkcBebChfddbejbBofCdbbhbdbehclcBddCebbhbdbehc",
  "lcpbmeCdcbhbdbejbkcBddCsbegbbbiscCjbchmiDubcjlhCvcBbbbbbbecBxubcflbBkjbDwuxeedbdchdenmbbkeBBbdB",
  "KkeBcdBdcBecCmBgjbBtdbbEncBibEomemIlfCfkbBdcbBwBucmufBvrBmjmdBenCeoBwuFwdbvebgbcdHqCmBBsBhEOcdF",
  "lbDsBgVigEbcBSQeebkBgcDccKmbdbebxfebDfcBysBasnbBmiznBseBvoBkbCpombicBtdBybbdccfcbbBpffcJcibcBDZ",
  "sbBCjqqqBLlbIsbFtfCMgdbcfeBodebGjcWbeCnfMfcCzgCslBxeEsdCbpBpbcckeBtlhbCjdBkoqcBsbmdBwoiebcDomgb",
  "cbGbmveCdcbhcccdjbkcchdfCpjbbcbbebfbbocDesxbDduJbhcjBbcDerEcnDxpJwpJlgbccebbbcFlhchdbBckBohbeib",
  "jlBuqHqiHribiDewboEsgdbbcbhbbCofbcbfNjejcbbBwhdfxbHXtbgpQYysDSafChhBOibbCdheDdblcBDAxcGYzBucxUw",
  "fdgiichBeeFsdCYdCdeByibobwfbpCAihbrchbcbfDwbGehOlbCjeToeJucJjbcbhcfbSghEfhBTCIvJg"]

/-- Whether a label can be shown by itself. -/
def Label.isSound (l : Label) : Bool :=
  !l.shown.head?.any marks.mem && joinersFit [] l.shown &&
    (l.shown.all isAscii || l.shown.length ≤ maxShown)

/-- The labels of a name. -/
def labels? (cs : List Char) : Option (List Label) := do
  let image ← cs.mapM image?
  let labels ← (splitChars (· == '.') (normalize image.flatten)).mapM Label.ofChars?
  if labels.all Label.isSound && isReadable (labels.map Label.shown) then some labels else none

/-- The form of a name in ASCII. -/
def toAscii? (cs : List Char) : Option (List Char) :=
  (labels? cs).map fun labels => List.intercalate ['.'] (labels.map Label.written)

end PageHarvest.Url.Name
