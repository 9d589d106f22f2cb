import PageHarvest.Html.Tree
import PageHarvest.Text.Blank
import PageHarvest.Text.Case
import PageHarvest.Text.Search

/-!
# Selectors and the elements they match

A compound selector is a list of conditions on one element; a complex selector joins compounds by
the relations between their elements; a selector is a list of complex selectors of which one has to
match. Names of HTML elements and attributes are compared without case, and so are the values of
the attributes in `caselessAttributes`.
-/

namespace PageHarvest.Css

open Html

/-- How the value of an attribute is compared. -/
inductive AttrOp
  | equals
  /-- One of the words. -/
  | includes
  /-- The value, or the value and a dash at the start. -/
  | dash
  | starts
  | ends
  | contains
  deriving DecidableEq, Repr

/-- Whether letter case counts in a value. -/
inductive CaseRule
  | byName
  | caseless
  | exact
  deriving DecidableEq, Repr

/-- The attributes that a name in brackets stands for: those without a space, or those of any. -/
inductive AttrSpace
  | plain
  | any
  deriving DecidableEq, Repr

/-- The relation of an element to the one in front of it in a selector. -/
inductive Combinator
  | child
  | descendant
  | next
  | later
  deriving DecidableEq, Repr

mutual

/-- A condition on one element. -/
inductive Simple
  | type (name : String)
  | id (name : String)
  | className (name : String)
  | hasAttr (space : AttrSpace) (name : String)
  | attr (space : AttrSpace) (name : String) (op : AttrOp) (value : String) (rule : CaseRule)
  /-- The place among the siblings is `a n + b` for some natural `n`. -/
  | nth (a b : Int) (ofType fromEnd : Bool)
  | only (ofType : Bool)
  | root
  | empty
  | scope
  | not (list : List Complex)
  /-- A condition that no element meets. -/
  | never

/-- Compounds joined by relations, outermost first. -/
inductive Complex
  | compound (parts : List Simple)
  | join (left : Complex) (combinator : Combinator) (parts : List Simple)

end

/-- Alternatives of which one has to match. -/
structure Selector where
  alternatives : List Complex

/-- The HTML attributes whose values are compared without case. -/
def caselessAttributes : List String :=
  ["accept", "accept-charset", "align", "alink", "axis", "bgcolor", "charset", "checked", "clear",
    "codetype", "color", "compact", "declare", "defer", "dir", "direction", "disabled", "enctype",
    "face", "frame", "hreflang", "http-equiv", "lang", "language", "link", "media", "method",
    "multiple", "nohref", "noresize", "noshade", "nowrap", "readonly", "rel", "rev", "rules",
    "scope", "scrolling", "selected", "shape", "target", "text", "type", "valign", "valuetype",
    "vlink"]

/-- A name as it is compared on an element of the vocabulary. -/
def nameFor (e : Element) (name : String) : String :=
  if e.vocabulary = .html then Text.asciiLower name else name

def isSelectorSpace (c : Char) : Bool :=
  c = ' ' || c = '\t' || c = '\n' || c = '\r' || c = '\x0c'

/-- Whether a value of an attribute passes a comparison, both in the form to compare. -/
def AttrOp.test (op : AttrOp) (wanted found : List Char) : Bool :=
  match op with
  | equals => found == wanted
  | includes => (Text.splitChars isSelectorSpace found).any (· == wanted) && !wanted.isEmpty
  | dash => found == wanted || (wanted ++ ['-']).isPrefixOf found
  | starts => !wanted.isEmpty && wanted.isPrefixOf found
  | ends => !wanted.isEmpty && wanted.isSuffixOf found
  | contains => !wanted.isEmpty && Text.isInside wanted found

/-- The values of an element's attributes that a name stands for. -/
def AttrSpace.values (space : AttrSpace) (e : Element) (name : String) : List String :=
  match space with
  | plain => (e.attribute? (nameFor e name)).toList
  | any => (e.attributes.filter (·.name == nameFor e name)).map (·.value)

/-- Whether an attribute's value is compared without case. Only names without a space are looked up
in the list. -/
def CaseRule.isCaseless (rule : CaseRule) (space : AttrSpace) (e : Element) (name : String) :
    Bool :=
  match rule with
  | caseless => true
  | exact => false
  | byName => space = .plain && e.vocabulary = .html &&
      caselessAttributes.contains (Text.asciiLower name)

def testAttr (e : Element) (space : AttrSpace) (name : String) (op : AttrOp) (value : String)
    (rule : CaseRule) : Bool :=
  let form (s : String) : List Char :=
    if rule.isCaseless space e name then (Text.asciiLower s).toList else s.toList
  (space.values e name).any fun found => op.test (form value) (form found)

/-- Whether `n` is `a k + b` for some natural `k`. A place too far from `b` for 32 bits is none. -/
def isNth (a b n : Int) : Bool :=
  n - b < 2147483648 && if a = 0 then n = b else 0 ≤ (n - b) / a && (n - b) % a = 0

/-- The siblings that count for a place. -/
def countedSiblings (d : Document) (e : Element) (ofType : Bool) (places : List Place) : Nat :=
  (places.filter fun q =>
    !ofType || (d.element? q).any fun f => f.name == e.name && f.vocabulary == e.vocabulary).length

/-- The elements that stand in a relation to the one at a place, nearest first. -/
def Combinator.related (c : Combinator) (d : Document) (p : Place) : List Place :=
  match c with
  | child => (d.parent? p).toList
  | descendant => d.ancestors p
  | next => (d.siblingsBefore p).take 1
  | later => d.siblingsBefore p

def hasClass (e : Element) (name : String) : Bool :=
  match e.attribute? "class" with
  | some value => (Text.words value).contains name
  | none => false

mutual

/-- Whether the element at a place meets a condition. `scope` is the element that the search
started from, if it did not start from the document. -/
def Simple.holds (d : Document) (scope : Option Place) (p : Place) : Simple → Bool
  | .type name => (d.element? p).any fun e => e.name == nameFor e name
  | .id name => (d.element? p).any fun e => e.attribute? "id" == some name
  | .className name => (d.element? p).any fun e => hasClass e name
  | .hasAttr space name => (d.element? p).any fun e => !(space.values e name).isEmpty
  | .attr space name op value rule => (d.element? p).any fun e => testAttr e space name op value rule
  | .nth a b ofType fromEnd =>
    (d.element? p).any fun e =>
      let others := if fromEnd then d.siblingsAfter p else d.siblingsBefore p
      isNth a b (countedSiblings d e ofType others + 1)
  | .only ofType =>
    (d.element? p).any fun e =>
      countedSiblings d e ofType (d.siblingsBefore p) == 0 &&
        countedSiblings d e ofType (d.siblingsAfter p) == 0
  | .root => d.isTop p
  | .empty => (d.childrenAt p).all fun n => !n.isElement && !n.isText
  | .scope => match scope with
    | some s => p == s
    | none => d.isTop p
  | .not list => !Complex.anyHolds d scope p list
  | .never => false

def Simple.allHold (d : Document) (scope : Option Place) (p : Place) : List Simple → Bool
  | [] => true
  | s :: rest => s.holds d scope p && Simple.allHold d scope p rest

def Complex.holds (d : Document) (scope : Option Place) (p : Place) : Complex → Bool
  | .compound parts => Simple.allHold d scope p parts
  | .join left combinator parts =>
    Simple.allHold d scope p parts &&
      (combinator.related d p).any fun q => left.holds d scope q

def Complex.anyHolds (d : Document) (scope : Option Place) (p : Place) : List Complex → Bool
  | [] => false
  | c :: rest => c.holds d scope p || Complex.anyHolds d scope p rest

end

namespace Selector

/-- Whether the selector matches the element at a place. -/
def holds (s : Selector) (d : Document) (scope : Option Place) (p : Place) : Bool :=
  Complex.anyHolds d scope p s.alternatives

/-- The matches in a document, in the order in which its elements were made. -/
def select (s : Selector) (d : Document) : List Place := d.places.filter (s.holds d none)

/-- The matches inside an element, in document order. Elements around it count for the relations
of the selector. -/
def selectBelow (s : Selector) (d : Document) (p : Place) : List Place :=
  (d.placesBelow p).filter (s.holds d (some p))

end Selector

end PageHarvest.Css
