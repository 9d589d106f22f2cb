import PageHarvest.Html.Draft
import PageHarvest.Html.Token

/-!
# The state of the construction of a document

The stack of open elements and the list of formatting elements have the latest entry first. Text
and elements go to the appropriate place: the current element, or, while fostering, in front of
the table that the current element belongs to.
-/

namespace PageHarvest.Html

/-- What the next token is read as part of. -/
inductive Mode
  | initial
  | beforeHtml
  | beforeHead
  | inHead
  | afterHead
  | inBody
  | text
  | inTable
  | inTableText
  | inCaption
  | inColumnGroup
  | inTableBody
  | inRow
  | inCell
  | inSelect
  | inSelectInTable
  | inTemplate
  | afterBody
  | inFrameset
  | afterFrameset
  | afterAfterBody
  | afterAfterFrameset
  deriving DecidableEq

/-- How the text up to the next tag is read. -/
inductive Reading
  | markup
  /-- Text with references, up to the end tag. -/
  | referring (endTag : String)
  /-- Text without references, up to the end tag. -/
  | raw (endTag : String)
  | script
  | plain

/-- An entry of the list of formatting elements. -/
inductive Formatting
  | marker
  | element (id : Nat) (tag : Tag)

structure Builder where
  draft : Draft := Draft.empty
  mode : Mode := .initial
  returnMode : Mode := .initial
  /-- The open elements, innermost first. -/
  stack : List Nat := []
  formatting : List Formatting := []
  templateModes : List Mode := []
  head : Option Nat := none
  form : Option Nat := none
  framesetOk : Bool := true
  quirks : Bool := false
  fostering : Bool := false
  /-- Whether a line feed is dropped if it comes next. -/
  skipLine : Bool := false
  /-- Text inside a table that has no place yet, last character first. -/
  tableText : List Char := []
  reading : Reading := .markup

abbrev Build := StateM Builder

namespace Build

/-! ## Open elements -/

def current? : Build (Option Nat) := return (← get).stack.head?

def emptyLabel : Label := ⟨.html, "", []⟩

def label (i : Nat) : Build Label := return ((← get).draft.label? i).getD emptyLabel

def currentLabel : Build Label := do
  match ← current? with
  | some i => label i
  | none => return emptyLabel

def currentIs (names : List String) : Build Bool := return (← currentLabel).isHtml names

def pop : Build Unit := modify fun b => { b with stack := b.stack.tail }

def push (i : Nat) : Build Unit := modify fun b => { b with stack := i :: b.stack }

/-- Whether an element with the property is open. -/
def anyOpen (p : Label → Bool) : Build Bool := do
  let b ← get
  return b.stack.any fun i => (b.draft.label? i).any p

def isOpen (i : Nat) : Build Bool := return (← get).stack.contains i

/-- Closes elements as long as they have the property. -/
def popWhile (p : Label → Bool) : Build Unit :=
  modify fun b => { b with stack := b.stack.dropWhile fun i => p ((b.draft.label? i).getD emptyLabel) }

/-- Closes elements up to and with the first one with the property. -/
def popThrough (p : Label → Bool) : Build Unit := do
  popWhile fun l => !p l
  pop

def popThroughNamed (names : List String) : Build Unit := popThrough fun l => l.isHtml names

/-! ## Scopes -/

/-- The elements that bound every scope. -/
def boundsScope (l : Label) : Bool :=
  match l.vocabulary with
  | .html =>
    ["applet", "caption", "html", "table", "td", "th", "marquee", "object", "template"].contains
      l.name
  | .mathml => ["mi", "mo", "mn", "ms", "mtext"].contains l.name
  | .svg => ["foreignObject", "desc", "title"].contains l.name

def boundsListScope (l : Label) : Bool := boundsScope l || l.isHtml ["ol", "ul"]

def boundsButtonScope (l : Label) : Bool := boundsScope l || l.isHtml ["button"]

def boundsTableScope (l : Label) : Bool := l.isHtml ["html", "table", "template"]

def boundsSelectScope (l : Label) : Bool := !l.isHtml ["optgroup", "option"]

/-- Whether the search for an element from the innermost one on meets it before a bound. -/
def findInScope (bounds : Label → Bool) (wanted : Nat → Label → Bool) (d : Draft) :
    List Nat → Bool
  | [] => false
  | i :: rest =>
    let l := (d.label? i).getD emptyLabel
    wanted i l || (!bounds l && findInScope bounds wanted d rest)

def inScope (bounds : Label → Bool) (names : List String) : Build Bool := do
  let b ← get
  return findInScope bounds (fun _ l => l.isHtml names) b.draft b.stack

def elementInScope (bounds : Label → Bool) (i : Nat) : Build Bool := do
  let b ← get
  return findInScope bounds (fun j _ => j == i) b.draft b.stack

/-! ## Places -/

/-- Where a node is put. -/
inductive Place
  | lastIn (parent : Nat)
  | before (sibling : Nat)

/-- The node that takes the children of an element: for a template, its fragment. -/
def holder (i : Nat) : Build Nat := do
  let b ← get
  if ((b.draft.label? i).getD emptyLabel).isHtml ["template"] then
    return ((b.draft.children i)[0]?).getD i
  else return i

/-- The place in front of the innermost open table, or in the innermost open template. -/
def fosterPlace : List Nat → Build Place
  | [] => return .lastIn 0
  | [root] => return .lastIn root
  | i :: above :: rest => do
    let l ← label i
    if l.isHtml ["template"] then return .lastIn (← holder i)
    else if l.isHtml ["table"] then
      if ((← get).draft.parent? i).isSome then return .before i else return .lastIn above
    else fosterPlace (above :: rest)

/-- The appropriate place for a node that is meant for the target. -/
def placeFor (target : Nat) : Build Place := do
  let b ← get
  let l := (b.draft.label? target).getD emptyLabel
  if b.fostering && l.isHtml ["table", "tbody", "tfoot", "thead", "tr"] then fosterPlace b.stack
  else return .lastIn (← holder target)

def place : Build Place := do placeFor ((← current?).getD 0)

def put (p : Place) (i : Nat) : Build Unit :=
  modify fun b => { b with
    draft := match p with
      | .lastIn parent => b.draft.append parent i
      | .before sibling => b.draft.insertBefore sibling i }

/-! ## New nodes -/

def make (content : Draft.Content) : Build Nat :=
  modifyGet fun b =>
    let (i, d) := b.draft.make content
    (i, { b with draft := d })

def plainAttributes (attributes : List (String × String)) : List Attribute :=
  attributes.map fun a => ⟨"", a.1, a.2⟩

/-- Makes an element; a template gets its fragment. -/
def makeElement (l : Label) : Build Nat := do
  let i ← make (.element l)
  if l.isHtml ["template"] then
    let f ← make .fragment
    put (.lastIn i) f
  return i

def insertLabel (l : Label) : Build Nat := do
  let p ← place
  let i ← makeElement l
  put p i
  push i
  return i

/-- Inserts an HTML element for a tag and opens it. -/
def insertTag (t : Tag) : Build Nat := insertLabel ⟨.html, t.name, plainAttributes t.attributes⟩

def insert (t : Tag) : Build Unit := do let _ ← insertTag t

/-- Inserts an HTML element that holds nothing. -/
def insertVoid (t : Tag) : Build Unit := do
  insert t
  pop

def bareTag (name : String) : Tag := ⟨false, name, [], false⟩

def insertBare (name : String) : Build Unit := insert (bareTag name)

def insertChar (c : Char) : Build Unit := do
  let p ← place
  modify fun b => { b with
    draft := match p with
      | .lastIn 0 => b.draft
      | .lastIn parent => b.draft.appendChar parent c
      | .before sibling => b.draft.insertCharBefore sibling c }

def insertComment (s : String) : Build Unit := do
  let p ← place
  put p (← make (.comment s))

def insertCommentIn (parent : Nat) (s : String) : Build Unit := do
  put (.lastIn parent) (← make (.comment s))

/-! ## Implied end tags -/

def isImplied (l : Label) : Bool :=
  l.isHtml ["dd", "dt", "li", "option", "optgroup", "p", "rb", "rp", "rt", "rtc"]

def isImpliedInTemplate (l : Label) : Bool :=
  isImplied l || l.isHtml ["caption", "colgroup", "tbody", "td", "tfoot", "th", "thead", "tr"]

def closeImplied : Build Unit := popWhile isImplied

def closeImpliedBut (name : String) : Build Unit :=
  popWhile fun l => isImplied l && l.name != name

/-- Closes up to and with the named element, and what the end tag implies first. -/
def closeNamed (name : String) : Build Unit := do
  closeImpliedBut name
  popThroughNamed [name]

/-- Closes a paragraph in button scope, if there is one. -/
def closeParagraph : Build Unit := do
  if ← inScope boundsButtonScope ["p"] then closeNamed "p"

/-! ## Formatting elements -/

def sameAttributes (a b : List (String × String)) : Bool :=
  a.length == b.length && a.all b.contains

/-- The entries since the last marker. -/
def sinceMarker : List Formatting → List (Nat × Tag)
  | .element i t :: rest => (i, t) :: sinceMarker rest
  | _ => []

def withoutFormatting (i : Nat) (fs : List Formatting) : List Formatting :=
  fs.filter fun
    | .element j _ => j != i
    | .marker => true

def removeFormatting (i : Nat) : Build Unit :=
  modify fun b => { b with formatting := withoutFormatting i b.formatting }

def removeOpen (i : Nat) : Build Unit :=
  modify fun b => { b with stack := b.stack.filter (· != i) }

/-- Adds a formatting element; of three equal ones already there the earliest is dropped. -/
def pushFormatting (i : Nat) (t : Tag) : Build Unit := do
  let equal := (sinceMarker (← get).formatting).filter fun e =>
    e.2.name == t.name && sameAttributes e.2.attributes t.attributes
  if 3 ≤ equal.length then
    match equal.getLast? with
    | some (j, _) => removeFormatting j
    | none => pure ()
  modify fun b => { b with formatting := .element i t :: b.formatting }

def pushMarker : Build Unit := modify fun b => { b with formatting := .marker :: b.formatting }

/-- Drops the entries up to and with the last marker. -/
def clearToMarker : Build Unit :=
  modify fun b => { b with
    formatting := (b.formatting.dropWhile fun
      | .marker => false
      | .element _ _ => true).tail }

/-- Whether an entry has to be opened again. -/
def isClosed (stack : List Nat) : Formatting → Bool
  | .marker => false
  | .element i _ => !stack.contains i

/-- Opens the entries again, latest entry first; returns the new entries in the same order. -/
def reopen : List Formatting → Build (List Formatting)
  | [] => return []
  | .element _ t :: earlier => do
    let before ← reopen earlier
    let i ← insertTag t
    return .element i t :: before
  | .marker :: earlier => reopen earlier

/-- Opens the formatting elements again that were closed since the last one that is open. -/
def reopenFormatting : Build Unit := do
  let b ← get
  let closed := b.formatting.takeWhile (isClosed b.stack)
  if !closed.isEmpty then
    let kept := b.formatting.drop closed.length
    let opened ← reopen closed
    modify fun b => { b with formatting := opened ++ kept }

/-! ## Modes -/

def setMode (m : Mode) : Build Unit := modify fun b => { b with mode := m }

def setReading (r : Reading) : Build Unit := modify fun b => { b with reading := r }

def noFrameset : Build Unit := modify fun b => { b with framesetOk := false }

def skipNextLine : Build Unit := modify fun b => { b with skipLine := true }

/-- Inserts an element whose content is text only. -/
def insertText (t : Tag) (r : Reading) : Build Unit := do
  insert t
  modify fun b => { b with returnMode := b.mode, mode := .text, reading := r }

/-- The mode that an open element calls for; `none` if the elements around it decide. -/
def modeOf? (b : Builder) (l : Label) (around : List Nat) : Option Mode :=
  let isAround (names : List String) : Bool :=
    around.any fun i => ((b.draft.label? i).getD emptyLabel).isHtml names
  let untilTemplate := around.takeWhile fun i =>
    !((b.draft.label? i).getD emptyLabel).isHtml ["template"]
  if l.vocabulary ≠ .html then none
  else
    match l.name with
    | "select" =>
      if untilTemplate.any fun i => ((b.draft.label? i).getD emptyLabel).isHtml ["table"] then
        some .inSelectInTable
      else some .inSelect
    | "td" | "th" => if isAround ["html"] then some .inCell else none
    | "tr" => some .inRow
    | "tbody" | "thead" | "tfoot" => some .inTableBody
    | "caption" => some .inCaption
    | "colgroup" => some .inColumnGroup
    | "table" => some .inTable
    | "template" => b.templateModes.head?
    | "head" => some .inHead
    | "body" => some .inBody
    | "frameset" => some .inFrameset
    | "html" => if b.head.isSome then some .afterHead else some .beforeHead
    | _ => none

def appropriateMode (b : Builder) : List Nat → Mode
  | [] => .inBody
  | i :: around =>
    match modeOf? b ((b.draft.label? i).getD emptyLabel) around with
    | some m => m
    | none => appropriateMode b around

def resetMode : Build Unit := modify fun b => { b with mode := appropriateMode b b.stack }

end Build

end PageHarvest.Html
