/-!
# Blank characters

The characters with the property White_Space of the Unicode character database, and the cutting
of texts at them: `trim` drops them from both ends, `words` takes the runs between them.
-/

namespace PageHarvest.Text

/-- A blank: a space, a tab, a line end, or another character with White_Space. -/
def isBlank (c : Char) : Bool :=
  let n := c.toNat
  (9 ≤ n && n ≤ 13) || n == 0x20 || n == 0x85 || n == 0xa0 || n == 0x1680 ||
    (0x2000 ≤ n && n ≤ 0x200a) || n == 0x2028 || n == 0x2029 || n == 0x202f || n == 0x205f ||
    n == 0x3000

/-- The characters from the first one that is not blank. -/
def trimStartChars (cs : List Char) : List Char := cs.dropWhile isBlank

/-- The characters up to the last one that is not blank. -/
def trimEndChars (cs : List Char) : List Char := (cs.reverse.dropWhile isBlank).reverse

def trimChars (cs : List Char) : List Char := trimEndChars (trimStartChars cs)

/-- The text without the blanks at its ends. -/
def trim (s : String) : String := String.ofList (trimChars s.toList)

/-- The text without the blanks in front. -/
def trimStart (s : String) : String := String.ofList (trimStartChars s.toList)

/-- Whether the text has no character but blanks. -/
def isBlankText (s : String) : Bool := s.toList.all isBlank

/-- Splits at every character with `p`; there is one piece more than such characters. -/
def splitChars (p : Char → Bool) : List Char → List (List Char)
  | [] => [[]]
  | c :: cs =>
    if p c then [] :: splitChars p cs
    else
      match splitChars p cs with
      | [] => [[c]]
      | piece :: pieces => (c :: piece) :: pieces

/-- The runs of characters without blanks. -/
def words (s : String) : List String :=
  ((splitChars isBlank s.toList).filter (!·.isEmpty)).map String.ofList

end PageHarvest.Text
