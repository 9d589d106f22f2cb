import PageHarvest.Regex.CharClass
import PageHarvest.Regex.Pattern
import PageHarvest.Regex.Syntax

/-!
# What a written pattern means

`Pattern.resolve?` gives a pattern its meaning under the flags in force. A change of flags holds
from its place to the end of the group around it, later branches included.

Letter case is taken into account before a class is negated: `(?i)[^k]` leaves out `K` as well.
Without the Unicode flag a class may hold nothing but ASCII, because a text is no sequence of
arbitrary bytes.
-/

namespace PageHarvest.Regex

open Text

/-- The flags in force at a place of a pattern. -/
structure Flags where
  caseless : Bool := false
  multiLine : Bool := false
  dotAll : Bool := false
  crlf : Bool := false
  swapGreed : Bool := false
  unicode : Bool := true

namespace Flags

/-- The flags after a change. -/
def set (f : Flags) : Flag × Bool → Flags
  | (.caseless, value) => { f with caseless := value }
  | (.multiLine, value) => { f with multiLine := value }
  | (.dotAll, value) => { f with dotAll := value }
  | (.crlf, value) => { f with crlf := value }
  | (.swapGreed, value) => { f with swapGreed := value }
  | (.unicode, value) => { f with unicode := value }
  | (.verbose, _) => f

/-- The flags after all changes. -/
def setAll (f : Flags) (changes : FlagChanges) : Flags := changes.foldl set f

/-- The set closed under letter case, if case does not count. -/
def fold (f : Flags) (s : CodeSet) : CodeSet :=
  if !f.caseless then s else if f.unicode then CharClass.foldCase s else CharClass.foldAsciiCase s

/-- A class with the items of `s`, or with all but them. -/
def class? (f : Flags) (negated : Bool) (s : CodeSet) : Option CodeSet :=
  let s := if negated then (f.fold s).compl else f.fold s
  if f.unicode || (s.inter (CodeSet.range 0x80 (CodeSet.limit - 1))).isEmpty then some s else none

end Flags

/-! ## Classes -/

namespace LetterClass

/-- The characters of the class. -/
def chars (unicode : Bool) : LetterClass → CodeSet
  | .digit => if unicode then CharClass.digit else CharClass.asciiDigit
  | .space => if unicode then CharClass.space else CharClass.asciiSpace
  | .word => if unicode then CharClass.word else CharClass.asciiWord

end LetterClass

/-- The characters of a class by name. Properties have a meaning in Unicode only. -/
def NamedClass.chars? (f : Flags) (c : NamedClass) : Option CodeSet :=
  match c.name with
  | .letter kind => { f with caseless := false }.class? c.negated (kind.chars f.unicode)
  | .ascii s => f.class? c.negated s
  | .property name => if f.unicode then (Property.named? name).bind (f.class? c.negated) else none
  | .propertyValue property value =>
    if f.unicode then (Property.valued? property value).bind (f.class? c.negated) else none

/-- Whether a character may be named under the flags: not as a byte that is no character. -/
def Literal.allowed (f : Flags) (l : Literal) : Bool :=
  f.unicode || !l.isByte || l.char.toNat < 0x80

/-- A character as the end of a range in a class; without Unicode it must be ASCII. -/
def Literal.code? (f : Flags) (l : Literal) : Option Nat :=
  if f.unicode || l.char.toNat < 0x80 then some l.char.toNat else none

/-- Joins two parts of a class. -/
def ClassOp.apply : ClassOp → CodeSet → CodeSet → CodeSet
  | .inter => CodeSet.inter
  | .diff => CodeSet.diff
  | .symmDiff => CodeSet.symmDiff

mutual

/-- The characters of one item of a class. -/
def ClassItem.chars? (f : Flags) : ClassItem → Option CodeSet
  | .literal l => (l.code? f).map CodeSet.single
  | .range first last => do return CodeSet.range (← first.code? f) (← last.code? f)
  | .named c => c.chars? f
  | .bracketed negated body => do f.class? negated (← body.chars? f)

/-- The characters of a class. -/
def ClassBody.chars? (f : Flags) : ClassBody → Option CodeSet
  | .items is => ClassItem.charsOfAll? f is
  | .op kind left right => do
    return kind.apply (f.fold (← left.chars? f)) (f.fold (← right.chars? f))

def ClassItem.charsOfAll? (f : Flags) : List ClassItem → Option CodeSet
  | [] => some CodeSet.empty
  | i :: is => do return (← i.chars? f).union (← ClassItem.charsOfAll? f is)

end

/-! ## Patterns -/

/-- The assertion that an anchor makes. -/
def Anchor.look (f : Flags) : Anchor → Look
  | .start => if f.multiLine then .lineStart f.crlf else .textStart
  | .stop => if f.multiLine then .lineEnd f.crlf else .textEnd
  | .textStart => .textStart
  | .textEnd => .textEnd
  | .wordBoundary => .wordBoundary f.unicode
  | .notWordBoundary => .notWordBoundary f.unicode
  | .wordStart => .wordStart f.unicode
  | .wordEnd => .wordEnd f.unicode
  | .wordStartHalf => .wordStartHalf f.unicode
  | .wordEndHalf => .wordEndHalf f.unicode

/-- A character outside classes. -/
def Literal.node? (f : Flags) (l : Literal) : Option Node :=
  if l.allowed f then some (.ofSet (f.fold (CodeSet.single l.char.toNat))) else none

/-- The characters that `.` stands for. -/
def Flags.dot? (f : Flags) : Option CodeSet :=
  if !f.unicode then none
  else if f.dotAll then some CodeSet.full
  else if f.crlf then some ((CodeSet.single 10).union (CodeSet.single 13)).compl
  else some (CodeSet.single 10).compl

namespace Pattern

mutual

/-- The meaning of a pattern, and the flags after it. -/
def resolve? (f : Flags) : Pattern → Option (Node × Flags)
  | .empty => some (.empty, f)
  | .flags changes => some (.empty, f.setAll changes)
  | .literal l => (l.node? f).map (·, f)
  | .dot => f.dot?.map fun s => (.ofSet s, f)
  | .anchor a => some (.look (a.look f), f)
  | .named c => (c.chars? f).map fun s => (.ofSet s, f)
  | .bracketed negated body => do
    let s ← f.class? negated (← body.chars? f)
    return (.ofSet s, f)
  | .repeated least most lazy body => do
    let (n, f) ← body.resolve? f
    return (.ofRepeat least most (lazy == f.swapGreed) n, f)
  | .group (.capture i) body => do
    let (n, _) ← body.resolve? f
    return (.capture i n, f)
  | .group (.scope changes) body => do
    let (n, _) ← body.resolve? (f.setAll changes)
    return (n, f)
  | .alt branches => (resolveAll? f [] branches).map fun (ns, f) => (.ofBranches ns, f)
  | .concat parts => (resolveAll? f [] parts).map fun (ns, f) => (.ofParts ns, f)

/-- The meanings of patterns one after the other, after those already resolved, last first. -/
def resolveAll? (f : Flags) (done : List Node) : List Pattern → Option (List Node × Flags)
  | [] => some (done.reverse, f)
  | p :: ps =>
    match p.resolve? f with
    | some (n, f) => resolveAll? f (n :: done) ps
    | none => none

end

end Pattern

end PageHarvest.Regex
