import PageHarvest.Regex.Property.CaseFold
import PageHarvest.Regex.Property.Query

/-!
# Classes of characters in patterns

The sets that `\d`, `\s`, `\w` and `[:name:]` stand for, and the closure of a set under letter case.
-/

namespace PageHarvest.Regex.CharClass

open Text

def ofRanges (rs : List (Nat × Nat)) : CodeSet :=
  rs.foldl (fun s r => s.union (CodeSet.range r.1 r.2)) CodeSet.empty

/-- The characters of a property or category; none if there is no such name. -/
def ofName (name : String) : CodeSet := (Property.named? name.toList).getD CodeSet.empty

def space : CodeSet := ofName "whitespace"

def asciiSpace : CodeSet := ofRanges [(9, 13), (32, 32)]

def digit : CodeSet := ofName "decimalnumber"

def asciiDigit : CodeSet := CodeSet.range 48 57

def asciiWord : CodeSet := ofRanges [(48, 57), (65, 90), (95, 95), (97, 122)]

/-- Letters, marks, decimal digits, connecting punctuation and the two joiners. -/
def word : CodeSet :=
  (["alphabetic", "mark", "decimalnumber", "connectorpunctuation", "joincontrol"].map ofName).foldl
    CodeSet.union CodeSet.empty

/-- Whether a character can stand inside a word. -/
def isWord (unicode : Bool) (c : Char) : Bool :=
  if c.toNat < 0x80 then asciiWord.mem c else unicode && word.mem c

/-- The set of a class with an ASCII name, such as `alpha`. -/
def ascii? : String → Option CodeSet
  | "alnum" => some (ofRanges [(48, 57), (65, 90), (97, 122)])
  | "alpha" => some (ofRanges [(65, 90), (97, 122)])
  | "ascii" => some (CodeSet.range 0 127)
  | "blank" => some (ofRanges [(9, 9), (32, 32)])
  | "cntrl" => some (ofRanges [(0, 31), (127, 127)])
  | "digit" => some asciiDigit
  | "graph" => some (CodeSet.range 33 126)
  | "lower" => some (CodeSet.range 97 122)
  | "print" => some (CodeSet.range 32 126)
  | "punct" => some (ofRanges [(33, 47), (58, 64), (91, 96), (123, 126)])
  | "space" => some asciiSpace
  | "upper" => some (CodeSet.range 65 90)
  | "word" => some asciiWord
  | "xdigit" => some (ofRanges [(48, 57), (65, 70), (97, 102)])
  | _ => none

/-! ## Letter case -/

/-- The members of one run of pairs. -/
def pairsOf (r : CaseRun) : List (List Nat) :=
  (List.range r.count).map fun i =>
    let a := r.first + i * r.step
    [a, ((a : Int) + r.offset).toNat]

/-- The classes of characters that differ by case alone. -/
def caseClasses : List (List Nat) :=
  Property.casePairs.flatMap pairsOf ++ Property.caseGroups

/-- The set with every character that differs from a member by case alone. -/
def foldCase (s : CodeSet) : CodeSet :=
  caseClasses.foldl
    (fun acc cls =>
      if cls.any s.contains && !cls.all s.contains then
        cls.foldl (fun acc n => acc.union (CodeSet.single n)) acc
      else acc)
    s

/-- The set with both cases of each of its ASCII letters. -/
def foldAsciiCase (s : CodeSet) : CodeSet :=
  let lower := s.inter (CodeSet.range 97 122)
  let upper := s.inter (CodeSet.range 65 90)
  (s.union ⟨lower.bounds.map (· - 32)⟩).union ⟨upper.bounds.map (· + 32)⟩

end PageHarvest.Regex.CharClass
