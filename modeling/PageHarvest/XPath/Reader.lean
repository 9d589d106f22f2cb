import PageHarvest.Fault
import PageHarvest.Text.Blank
import PageHarvest.Text.Letter
import PageHarvest.Text.Search
import PageHarvest.XPath.Path

/-!
# Reading location paths

A path starts with `/`, `//` or `.//`. A predicate runs to the first `]` outside quotes and is
split at each ` and ` outside quotes. Within a step a position may not follow an attribute test,
since a selector counts positions before any test.

The search for ` and ` goes by bytes, so a character of several bytes outside quotes breaks it off:
that is its own outcome, `cutInsideCharacter`.
-/

namespace PageHarvest.XPath

open Text

/-- Why a text is not read as a path. -/
inductive Problem
  | unsupported
  /-- The split of a predicate hit the middle of a character. -/
  | cutInsideCharacter
  deriving DecidableEq, Repr

def isNameChar (c : Char) : Bool :=
  isAsciiLetter c || isAsciiDigit c || c = '-' || c = '_' || c = '*'

def isAttributeChar (c : Char) : Bool :=
  isAsciiLetter c || isAsciiDigit c || c = '-' || c = '_' || c = ':'

def isQuote (c : Char) : Bool := c = '\'' || c = '"'

/-- The predicate up to its closing bracket, which may not be inside quotes, and what follows. A
bracket opened outside quotes is not part of a predicate. -/
def readPredicate? : Option Char → List Char → Option (List Char × List Char)
  | _, [] => none
  | some q, c :: rest =>
    (readPredicate? (if c = q then none else some q) rest).map fun r => (c :: r.1, r.2)
  | none, c :: rest =>
    if isQuote c then (readPredicate? (some c) rest).map fun r => (c :: r.1, r.2)
    else if c = '[' then none
    else if c = ']' then some ([], rest)
    else (readPredicate? none rest).map fun r => (c :: r.1, r.2)

/-- Puts a character in front of the first piece. -/
def consFirst (c : Char) : List (List Char) → List (List Char)
  | [] => [[c]]
  | piece :: pieces => (c :: piece) :: pieces

/-- The pieces of a predicate between the ` and ` outside quotes. -/
def splitAnd : Option Char → List Char → Except Problem (List (List Char))
  | _, [] => .ok [[]]
  | some q, c :: rest =>
    (splitAnd (if c = q then none else some q) rest).map (consFirst c)
  | none, ' ' :: 'a' :: 'n' :: 'd' :: ' ' :: rest => (splitAnd none rest).map ([] :: ·)
  | none, c :: rest =>
    if isQuote c then (splitAnd (some c) rest).map (consFirst c)
    else if isAscii c then (splitAnd none rest).map (consFirst c)
    else .error .cutInsideCharacter

/-- The text between two quotes of one kind. -/
def unquote? (cs : List Char) : Option (List Char) :=
  let between (q : Char) : Option (List Char) := (dropFront? [q] cs).bind (dropBack? [q])
  (between '\'').orElse fun _ => between '"'

/-- The name of an attribute after `@`. -/
def attributeName? : List Char → Option String
  | '@' :: name =>
    if !name.isEmpty && name.all isAttributeChar then some (String.ofList name) else none
  | _ => none

/-- A number of 64 bits in decimal, with a plus sign or without. -/
def position? (cs : List Char) : Option Nat :=
  let ds := match cs with
    | '+' :: rest => rest
    | cs => cs
  if ds.isEmpty || !ds.all isAsciiDigit then none
  else
    let n := ds.foldl (fun n c => 10 * n + (c.toNat - 48)) 0
    if n < Nat.pow 2 64 then some n else none

/-- A term that tests an attribute. -/
def attributeTerm? (cs : List Char) : Option Term :=
  match (dropFront? "contains(".toList cs).bind (dropBack? [')']) with
  | some args => do
    let (name, value) ← splitOnce? ',' args
    let name ← attributeName? (trimChars name)
    let value ← unquote? (trimChars value)
    return .contains name (String.ofList value)
  | none =>
    match splitOnce? '=' cs with
    | some (name, value) => do
      let name ← attributeName? (trimChars name)
      let value ← unquote? (trimChars value)
      return .equals name (String.ofList value)
    | none => (attributeName? cs).map .has

/-- A term. `filtered` tells whether an attribute test stands in front of it in the step. -/
def readTerm? (filtered : Bool) (cs : List Char) : Option Term :=
  let cs := trimChars cs
  match position? cs with
  | some n => if filtered || n == 0 then none else some (.position n)
  | none => attributeTerm? cs

def Term.isTest : Term → Bool
  | position _ => false
  | _ => true

/-- The terms of a predicate, in order. -/
def readTerms? : Bool → List (List Char) → Option (List Term)
  | _, [] => some []
  | filtered, piece :: pieces => do
    let t ← readTerm? filtered piece
    return t :: (← readTerms? (filtered || t.isTest) pieces)

def orUnsupported {α : Type} : Option α → Except Problem α
  | some a => .ok a
  | none => .error .unsupported

/-- The predicates of a step, and what follows them. Every predicate takes characters. -/
def readPredicates : Nat → Bool → List Char → Except Problem (List (List Term) × List Char)
  | fuel + 1, filtered, '[' :: cs => do
    let (predicate, rest) ← orUnsupported (readPredicate? none cs)
    let pieces ← splitAnd none predicate
    let terms ← orUnsupported (readTerms? filtered pieces)
    let (others, rest) ← readPredicates fuel (filtered || terms.any Term.isTest) rest
    return (terms :: others, rest)
  | _, _, cs => .ok ([], cs)

/-- A step, and what follows it. -/
def readStep (cs : List Char) : Except Problem (Step × List Char) := do
  let name := cs.takeWhile isNameChar
  let rest := cs.dropWhile isNameChar
  if name.isEmpty || (name.contains '*' && name != ['*']) then .error .unsupported
  else
    let (predicates, rest) ← readPredicates rest.length false rest
    return (⟨String.ofList name, predicates⟩, rest)

/-- The steps after the first one. Every step takes characters. -/
def readSteps : Nat → List Char → Except Problem (List (Axis × Step))
  | _, [] => .ok []
  | fuel + 1, '/' :: '/' :: cs => do
    let (s, rest) ← readStep cs
    return (.descendant, s) :: (← readSteps fuel rest)
  | fuel + 1, '/' :: cs => do
    let (s, rest) ← readStep cs
    return (.child, s) :: (← readSteps fuel rest)
  | _, _ => .error .unsupported

/-- The anchor of a path, and what follows it. -/
def readAnchor? : List Char → Option (Anchor × List Char)
  | '.' :: '/' :: '/' :: rest => some (.inside, rest)
  | '/' :: '/' :: rest => some (.anywhere, rest)
  | '/' :: rest => some (.top, rest)
  | _ => none

/-- The path that a text denotes. -/
def Path.read (s : String) : Except Problem Path := do
  let (anchor, cs) ← orUnsupported (readAnchor? (trimChars s.toList))
  let (first, rest) ← readStep cs
  return ⟨anchor, first, ← readSteps rest.length rest⟩

/-- The fault of a text that is not a path. -/
def Problem.fault (xpath : String) : Problem → Fault
  | unsupported => .unsupportedXPath xpath
  | cutInsideCharacter => .brokenXPath xpath

/-- The path of a text, or its fault. -/
def readPath (xpath : String) : Except Fault Path :=
  (Path.read xpath).mapError (Problem.fault xpath)

/-- The selector of a path given as text. -/
def toCss (xpath : String) : Except Fault String := (readPath xpath).map Path.toCss

end PageHarvest.XPath
