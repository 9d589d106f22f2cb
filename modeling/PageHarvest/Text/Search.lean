/-!
# Texts inside texts

`isInside p t`: the characters of `p` stand somewhere in `t`, one after the other.
-/

namespace PageHarvest.Text

/-- Whether the list stands at some place of the other list. -/
def isInside (p : List Char) : List Char → Bool
  | [] => p.isEmpty
  | c :: rest => p.isPrefixOf (c :: rest) || isInside p rest

def contains (t p : String) : Bool := isInside p.toList t.toList

def startsWith (t p : String) : Bool := p.toList.isPrefixOf t.toList

def endsWith (t p : String) : Bool := p.toList.isSuffixOf t.toList

/-- What follows the front text, if the text starts with it. -/
def dropFront? : List Char → List Char → Option (List Char)
  | [], t => some t
  | _ :: _, [] => none
  | p :: ps, c :: cs => if p = c then dropFront? ps cs else none

/-- What stands before the end text, if the text ends with it. -/
def dropBack? (p t : List Char) : Option (List Char) :=
  (dropFront? p.reverse t.reverse).map List.reverse

/-- What stands around the first place of a character. -/
def splitOnce? (c : Char) : List Char → Option (List Char × List Char)
  | [] => none
  | x :: rest => if x = c then some ([], rest) else (splitOnce? c rest).map fun r => (x :: r.1, r.2)

end PageHarvest.Text
