import PageHarvest.Text.CodeSet
import PageHarvest.Text.Property

/-!
# Letters and digits

The two classes that identifiers are built from. ASCII is decided without the tables.
-/

namespace PageHarvest.Text

def isAsciiLetter (c : Char) : Bool := ('a' ≤ c && c ≤ 'z') || ('A' ≤ c && c ≤ 'Z')

def isAsciiDigit (c : Char) : Bool := '0' ≤ c && c ≤ '9'

def isAscii (c : Char) : Bool := c.toNat < 0x80

/-- A character with the property Alphabetic. -/
def isLetter (c : Char) : Bool :=
  if isAscii c then isAsciiLetter c else Property.alphabetic.mem c

/-- A letter, or a character of one of the three number categories. -/
def isAlphanumeric (c : Char) : Bool :=
  if isAscii c then isAsciiLetter c || isAsciiDigit c
  else Property.alphabetic.mem c || Property.numeric.mem c

end PageHarvest.Text
