import PageHarvest.Text.CodeSet

/-!
# Patterns as they are written

The tree of a pattern before flags and classes are resolved. The same part may mean different sets
of characters under different flags, so the tree keeps what was asked for, not what it stands for.

* `ClassItem` and `ClassBody` are what stands in brackets.
* `Pattern` is a pattern or a part of it.
* `Pattern.depth` tells how deep its parts are nested, for which there is a limit.
-/

namespace PageHarvest.Regex

/-- A setting that a pattern can change from a place on. -/
inductive Flag
  | caseless
  | multiLine
  | dotAll
  | crlf
  | swapGreed
  | unicode
  | verbose
  deriving Repr, DecidableEq

/-- Changes of flags, in the order in which they were written. -/
abbrev FlagChanges := List (Flag × Bool)

/-- A character. One that is written `\x` with two digits may be meant as a byte. -/
structure Literal where
  char : Char
  isByte : Bool
  deriving Repr, DecidableEq

/-- The classes that have a letter of their own. -/
inductive LetterClass
  | digit
  | space
  | word
  deriving Repr, DecidableEq

/-- A set of characters that is asked for by name. -/
inductive ClassName
  | letter (kind : LetterClass)
  | ascii (chars : Text.CodeSet)
  | property (name : List Char)
  | propertyValue (property value : List Char)
  deriving Repr, DecidableEq

/-- A named set, or all characters but its members. -/
structure NamedClass where
  name : ClassName
  negated : Bool
  deriving Repr, DecidableEq

/-- How two parts of a class are joined. -/
inductive ClassOp
  | inter
  | diff
  | symmDiff
  deriving Repr, DecidableEq

mutual

/-- One item of a class. -/
inductive ClassItem
  | literal (l : Literal)
  | range (first last : Literal)
  | named (c : NamedClass)
  | bracketed (negated : Bool) (body : ClassBody)

/-- What stands between the brackets of a class. -/
inductive ClassBody
  | items (is : List ClassItem)
  | op (kind : ClassOp) (left right : ClassBody)

end

/-- An assertion about a place, before flags are resolved. -/
inductive Anchor
  | start
  | stop
  | textStart
  | textEnd
  | wordBoundary
  | notWordBoundary
  | wordStart
  | wordEnd
  | wordStartHalf
  | wordEndHalf
  deriving Repr, DecidableEq

/-- What a group is for. -/
inductive GroupKind
  | capture (index : Nat)
  | scope (changes : FlagChanges)
  deriving Repr, DecidableEq

inductive Pattern
  | empty
  | flags (changes : FlagChanges)
  | literal (l : Literal)
  | dot
  | anchor (a : Anchor)
  | named (c : NamedClass)
  | bracketed (negated : Bool) (body : ClassBody)
  | repeated (least : Nat) (most : Option Nat) (lazy : Bool) (body : Pattern)
  | group (kind : GroupKind) (body : Pattern)
  | alt (branches : List Pattern)
  | concat (parts : List Pattern)

/-! ## Nesting -/

mutual

/-- How deep the parts of a class item are nested. -/
def ClassItem.depth : ClassItem → Nat
  | .literal _ | .range _ _ | .named _ => 0
  | .bracketed _ body => body.depth + 1

/-- How deep the parts of a class are nested. One item alone is no level of its own. -/
def ClassBody.depth : ClassBody → Nat
  | .items [] => 0
  | .items [i] => i.depth
  | .items (i :: is) => ClassItem.depthOfAll i.depth is + 1
  | .op _ left right => max left.depth right.depth + 1

/-- The greatest depth of the items, or `least` if none is deeper. -/
def ClassItem.depthOfAll (least : Nat) : List ClassItem → Nat
  | [] => least
  | i :: is => ClassItem.depthOfAll (max least i.depth) is

end

namespace Pattern

mutual

/-- How deep classes, groups, repetitions, sequences and choices stand inside each other. -/
def depth : Pattern → Nat
  | .empty | .flags _ | .literal _ | .dot | .anchor _ | .named _ => 0
  | .bracketed _ body => body.depth + 1
  | .repeated _ _ _ body => body.depth + 1
  | .group _ body => body.depth + 1
  | .alt branches => depthOfAll 0 branches + 1
  | .concat parts => depthOfAll 0 parts + 1

/-- The greatest depth of the patterns, or `least` if none is deeper. -/
def depthOfAll (least : Nat) : List Pattern → Nat
  | [] => least
  | p :: ps => depthOfAll (max least p.depth) ps

end

/-- A sequence; one part stands for itself. -/
def ofParts : List Pattern → Pattern
  | [] => .empty
  | [p] => p
  | ps => .concat ps

/-- A choice; one branch stands for itself. -/
def ofBranches : List Pattern → Pattern
  | [] => .empty
  | [p] => p
  | ps => .alt ps

/-- Whether the pattern can be repeated. -/
def canRepeat : Pattern → Bool
  | .empty | .flags _ => false
  | _ => true

end Pattern

end PageHarvest.Regex
