import PageHarvest.Text.CodeSet

/-!
# Regular expressions

The tree of a pattern after flags, escapes and classes are resolved: what is left are texts, sets
of characters, assertions, groups and repetitions.

The functions `Node.ofSet`, `Node.ofParts`, `Node.ofBranches` and `Node.ofRepeat` build a tree in
its simplest form: texts that follow each other are one text, a choice of single characters is a
set, and what all branches of a choice start with stands in front of it once.
-/

namespace PageHarvest.Regex

open Text

/-- An assertion about the place between two characters. -/
inductive Look
  | textStart
  | textEnd
  | lineStart (crlf : Bool)
  | lineEnd (crlf : Bool)
  | wordBoundary (unicode : Bool)
  | notWordBoundary (unicode : Bool)
  | wordStart (unicode : Bool)
  | wordEnd (unicode : Bool)
  | wordStartHalf (unicode : Bool)
  | wordEndHalf (unicode : Bool)
  deriving Repr, DecidableEq

inductive Node
  | empty
  | text (chars : List Char)
  | set (chars : CodeSet)
  | look (l : Look)
  | capture (index : Nat) (body : Node)
  | concat (parts : List Node)
  | alt (branches : List Node)
  | repeated (least : Nat) (most : Option Nat) (greedy : Bool) (body : Node)

namespace Node

/-! ## What a pattern can match -/

mutual

/-- A lower bound of the length of a match that is positive if every match has characters; `none`
if nothing can match. -/
def leastLength? : Node → Option Nat
  | .empty | .look _ => some 0
  | .text chars => some chars.length
  | .set chars => if chars.isEmpty then none else some 1
  | .capture _ body => body.leastLength?
  | .concat parts => sumOfLeast? parts
  | .alt branches => leastOfAll? branches
  | .repeated least _ _ body => body.leastLength?.map (least * ·)

def sumOfLeast? : List Node → Option Nat
  | [] => some 0
  | p :: ps => p.leastLength?.bind fun a => (sumOfLeast? ps).map (a + ·)

def leastOfAll? : List Node → Option Nat
  | [] => none
  | [b] => b.leastLength?
  | b :: bs => b.leastLength?.bind fun a => (leastOfAll? bs).map (min a ·)

end

/-- Whether every match has characters. -/
def consumes (n : Node) : Bool := n.leastLength?.any (0 < ·)

mutual

/-- Whether the pattern matches the empty text alone. -/
def onlyEmpty : Node → Bool
  | .empty | .look _ => true
  | .text _ | .set _ => false
  | .capture _ body => body.onlyEmpty
  | .concat parts => allOnlyEmpty parts
  | .alt branches => allOnlyEmpty branches
  | .repeated _ _ _ body => body.onlyEmpty

def allOnlyEmpty : List Node → Bool
  | [] => true
  | p :: ps => p.onlyEmpty && allOnlyEmpty ps

end

mutual

/-- Whether a match can only start with the assertion `l`, or only end with it if `fromEnd`. -/
def boundBy (l : Look) (fromEnd : Bool) : Node → Bool
  | .empty | .text _ | .set _ => false
  | .look l' => l = l'
  | .capture _ body => body.boundBy l fromEnd
  | .concat parts => if fromEnd then lastBoundBy l parts else firstBoundBy l parts
  | .alt branches => allBoundBy l fromEnd branches
  | .repeated least _ _ body => 0 < least && body.boundBy l fromEnd

def firstBoundBy (l : Look) : List Node → Bool
  | [] => false
  | p :: ps => p.boundBy l false || (p.onlyEmpty && firstBoundBy l ps)

def lastBoundBy (l : Look) : List Node → Bool
  | [] => false
  | p :: ps => lastBoundBy l ps || (allOnlyEmpty ps && p.boundBy l true)

def allBoundBy (l : Look) (fromEnd : Bool) : List Node → Bool
  | [] => true
  | b :: bs => b.boundBy l fromEnd && allBoundBy l fromEnd bs

end

mutual

/-- Whether two patterns are written the same way. -/
def same : Node → Node → Bool
  | .empty, .empty => true
  | .text a, .text b => a == b
  | .set a, .set b => a.bounds == b.bounds
  | .look a, .look b => a = b
  | .capture i a, .capture j b => i == j && a.same b
  | .concat as, .concat bs => allSame as bs
  | .alt as, .alt bs => allSame as bs
  | .repeated l m g a, .repeated l' m' g' b => l == l' && m == m' && g == g' && a.same b
  | _, _ => false

def allSame : List Node → List Node → Bool
  | [], [] => true
  | a :: as, b :: bs => a.same b && allSame as bs
  | _, _ => false

end

mutual

/-- The number of parts. -/
def weight : Node → Nat
  | .empty | .text _ | .set _ | .look _ => 1
  | .capture _ body => body.weight + 1
  | .concat parts => weightOfAll parts + 1
  | .alt branches => weightOfAll branches + 1
  | .repeated _ _ _ body => body.weight + 1

def weightOfAll : List Node → Nat
  | [] => 0
  | p :: ps => p.weight + weightOfAll ps

end

/-! ## Building patterns -/

/-- The characters of a set. A set of one character is a text. -/
def ofSet (s : CodeSet) : Node :=
  let s := s.inter CodeSet.full
  match s.bounds with
  | [a, b] => if b = a + 1 then .text [Char.ofNat a] else .set s
  | _ => .set s

/-- Puts a part in front of a sequence. Texts are joined, sequences opened, and empty parts left
out. -/
def prepend (part : Node) (parts : List Node) : List Node :=
  match part, parts with
  | .empty, _ => parts
  | .text a, .text b :: rest => .text (a ++ b) :: rest
  | .concat ps, .text b :: rest =>
    match ps.reverse with
    | .text a :: front => front.reverse ++ .text (a ++ b) :: rest
    | _ => ps ++ parts
  | .concat ps, _ => ps ++ parts
  | _, _ => part :: parts

/-- A sequence; one part stands for itself. -/
def ofParts (parts : List Node) : Node :=
  match parts.foldr prepend [] with
  | [] => .empty
  | [p] => p
  | ps => .concat ps

/-- A text of one character, as a set. -/
def char? : Node → Option CodeSet
  | .text [c] => some (CodeSet.single c.toNat)
  | _ => none

def set? : Node → Option CodeSet
  | .set s => some s
  | _ => none

/-- The set that a choice of single characters amounts to, or a choice of sets. -/
def setOfBranches? (branches : List Node) : Option CodeSet :=
  ((branches.mapM char?).orElse fun _ => branches.mapM set?).map
    (·.foldl CodeSet.union CodeSet.empty)

/-- The parts that two sequences start with alike. -/
def commonFront : List Node → List Node → List Node
  | a :: as, b :: bs => if a.same b then a :: commonFront as bs else []
  | _, _ => []

/-- The parts that all sequences start with, and what follows them in each. -/
def liftFront? (branches : List Node) : Option (List Node × List Node) := do
  let seqs ← branches.mapM fun
    | .concat ps => some ps
    | _ => none
  match seqs with
  | [] => none
  | first :: others =>
    let front := others.foldl commonFront first
    if front.isEmpty then none
    else return (front, seqs.map fun ps => ofParts (ps.drop front.length))

/-- The branches of a choice, those of choices among them included. -/
def openBranches (branches : List Node) : List Node :=
  branches.flatMap fun
    | .alt bs => bs
    | b => [b]

/-- A choice; one branch stands for itself, single characters make a set, and a common start stands
in front. The fuel bounds how often a start is taken out, which makes what is left smaller. -/
def ofBranchesWith : Nat → List Node → Node
  | fuel, branches =>
    match openBranches branches with
    | [] => .set CodeSet.empty
    | [b] => b
    | bs =>
      match setOfBranches? bs with
      | some s => ofSet s
      | none =>
        match fuel, liftFront? bs with
        | fuel + 1, some (front, rest) => ofParts (front ++ [ofBranchesWith fuel rest])
        | _, _ => .alt bs

def ofBranches (branches : List Node) : Node := ofBranchesWith (weightOfAll branches) branches

/-- A repetition. A pattern that matches the empty text alone is repeated once at most. -/
def ofRepeat (least : Nat) (most : Option Nat) (greedy : Bool) (body : Node) : Node :=
  let (least, most) :=
    if body.onlyEmpty then (min least 1, some (min (most.getD 1) 1)) else (least, most)
  if most = some 0 then .empty
  else if least = 1 ∧ most = some 1 then body
  else .repeated least most greedy body

end Node

end PageHarvest.Regex
