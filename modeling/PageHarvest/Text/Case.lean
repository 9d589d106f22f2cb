import PageHarvest.Text.CaseTable
import PageHarvest.Text.CodeSet
import PageHarvest.Text.Property

/-!
# Letter case

`toLower` and `toUpper` map a text by the full case mappings, where one character may become
several (`ß` to `SS`). The capital sigma becomes `ς` at the end of a word and `σ` elsewhere.
`asciiLower` maps the letters `A` to `Z` alone.
-/

namespace PageHarvest.Text

/-- Where a run sends the code point, if it covers it. -/
def CaseRun.target? (r : CaseRun) (n : Nat) : Option Nat :=
  if r.first ≤ n && (n - r.first) % r.step == 0 && (n - r.first) / r.step < r.count then
    some ((n : Int) + r.offset).toNat
  else
    none

/-- The characters that a mapping table gives for a character. -/
def mapChar (runs : List CaseRun) (many : List (Nat × List Nat)) (c : Char) : List Char :=
  let n := c.toNat
  match many.lookup n with
  | some ns => ns.map Char.ofNat
  | none => [Char.ofNat ((runs.findSome? (·.target? n)).getD n)]

/-- The lowercase letter of `A` to `Z`, any other character unchanged. -/
def asciiLowerChar (c : Char) : Char :=
  if 'A' ≤ c && c ≤ 'Z' then Char.ofNat (c.toNat + 32) else c

/-- The uppercase letter of `a` to `z`, any other character unchanged. -/
def asciiUpperChar (c : Char) : Char :=
  if 'a' ≤ c && c ≤ 'z' then Char.ofNat (c.toNat - 32) else c

def asciiLower (s : String) : String := String.ofList (s.toList.map asciiLowerChar)

def lowerChar (c : Char) : List Char :=
  if c.toNat < 0x80 then [asciiLowerChar c] else mapChar CaseTable.lower CaseTable.lowerMany c

def upperChar (c : Char) : List Char :=
  if c.toNat < 0x80 then [asciiUpperChar c] else mapChar CaseTable.upper CaseTable.upperMany c

/-- Whether the first character that is not case-ignorable has a case. -/
def startsCased (cs : List Char) : Bool :=
  match cs.dropWhile Property.caseIgnorable.mem with
  | c :: _ => Property.cased.mem c
  | [] => false

/-- Lowercase, with the characters already read, last first. -/
def lowerChars : List Char → List Char → List Char
  | _, [] => []
  | before, 'Σ' :: rest =>
    (if startsCased before && !startsCased rest then 'ς' else 'σ') ::
      lowerChars ('Σ' :: before) rest
  | before, c :: rest => lowerChar c ++ lowerChars (c :: before) rest

def toLower (s : String) : String := String.ofList (lowerChars [] s.toList)

def toUpper (s : String) : String := String.ofList (s.toList.flatMap upperChar)

end PageHarvest.Text
