import PageHarvest.Html.Tree

/-!
# Documents under construction

A draft numbers its nodes in the order in which they were made; node zero is the document. Nodes
can be moved until the draft is read off as a tree.
-/

namespace PageHarvest.Html

/-- What tells one element from another of its name. -/
structure Label where
  vocabulary : Vocabulary
  name : String
  attributes : List Attribute

namespace Label

/-- Whether it is an HTML element of one of the names. -/
def isHtml (l : Label) (names : List String) : Bool :=
  l.vocabulary = .html && names.contains l.name

def attribute? (l : Label) (name : String) : Option String :=
  (Element.attribute? ⟨0, l.vocabulary, l.name, l.attributes, []⟩ name)

end Label

namespace Draft

inductive Content
  | document
  | element (label : Label)
  | fragment
  | text (s : String)
  | comment (s : String)

structure Item where
  content : Content
  parent : Option Nat
  children : Array Nat

end Draft

structure Draft where
  items : Array Draft.Item

namespace Draft

def empty : Draft := ⟨#[⟨.document, none, #[]⟩]⟩

/-- Makes a node without a parent. -/
def make (d : Draft) (content : Content) : Nat × Draft :=
  (d.items.size, ⟨d.items.push ⟨content, none, #[]⟩⟩)

def modify (d : Draft) (i : Nat) (f : Item → Item) : Draft := ⟨d.items.modify i f⟩

def parent? (d : Draft) (i : Nat) : Option Nat := d.items[i]?.bind Item.parent

def children (d : Draft) (i : Nat) : Array Nat := (d.items[i]?.map Item.children).getD #[]

def content? (d : Draft) (i : Nat) : Option Content := d.items[i]?.map Item.content

def label? (d : Draft) (i : Nat) : Option Label :=
  match d.content? i with
  | some (.element l) => some l
  | _ => none

def isText (d : Draft) (i : Nat) : Bool :=
  match d.content? i with
  | some (.text _) => true
  | _ => false

/-- Takes a node from its parent. -/
def detach (d : Draft) (i : Nat) : Draft :=
  match d.parent? i with
  | some p =>
    (d.modify p fun n => { n with children := n.children.filter (· != i) }).modify i fun n =>
      { n with parent := none }
  | none => d

/-- Makes a node the last child of another one. -/
def append (d : Draft) (parent i : Nat) : Draft :=
  ((d.detach i).modify parent fun n => { n with children := n.children.push i }).modify i fun n =>
    { n with parent := some parent }

/-- Puts a node in front of another one, under the same parent. -/
def insertBefore (d : Draft) (sibling i : Nat) : Draft :=
  let d := d.detach i
  match d.parent? sibling with
  | some p =>
    let place := fun (children : Array Nat) =>
      (children.toList.flatMap fun c => if c = sibling then [i, c] else [c]).toArray
    (d.modify p fun n => { n with children := place n.children }).modify i fun n =>
      { n with parent := some p }
  | none => d

/-- Adds a character to a node of text. -/
def extendText (d : Draft) (i : Nat) (c : Char) : Draft :=
  d.modify i fun n =>
    match n with
    | ⟨.text s, p, cs⟩ => ⟨.text (s.push c), p, cs⟩
    | other => other

/-- Adds a character at the end of a node's children. -/
def appendChar (d : Draft) (parent : Nat) (c : Char) : Draft :=
  match (d.children parent).back? with
  | some last =>
    if d.isText last then d.extendText last c
    else
      let (i, d) := d.make (.text (String.singleton c))
      d.append parent i
  | none =>
    let (i, d) := d.make (.text (String.singleton c))
    d.append parent i

/-- The child in front of a node. -/
def previous? (d : Draft) (i : Nat) : Option Nat := do
  let cs := d.children (← d.parent? i)
  let k ← cs.findIdx? (· == i)
  if k = 0 then none else cs[k - 1]?

/-- Adds a character in front of a node. -/
def insertCharBefore (d : Draft) (sibling : Nat) (c : Char) : Draft :=
  match d.previous? sibling with
  | some before =>
    if d.isText before then d.extendText before c
    else
      let (i, d) := d.make (.text (String.singleton c))
      d.insertBefore sibling i
  | none =>
    let (i, d) := d.make (.text (String.singleton c))
    d.insertBefore sibling i

/-- Adds the attributes that an element does not have. -/
def addAttributes (d : Draft) (i : Nat) (attributes : List Attribute) : Draft :=
  d.modify i fun n =>
    match n with
    | ⟨.element l, p, cs⟩ =>
      let isNew (a : Attribute) : Bool := !l.attributes.any fun b => b.name == a.name
      ⟨.element { l with attributes := l.attributes ++ attributes.filter isNew }, p, cs⟩
    | other => other

/-- The tree of a node. The fuel bounds its depth. -/
def tree? (d : Draft) : Nat → Nat → Option Node
  | 0, _ => none
  | fuel + 1, i =>
    let children := (d.children i).toList.filterMap (d.tree? fuel)
    match d.content? i with
    | some (.element l) => some (.element i l.vocabulary l.name l.attributes children)
    | some .fragment => some (.fragment children)
    | some (.text s) => some (.text s)
    | some (.comment s) => some (.comment s)
    | some .document | none => none

/-- The nodes that have no parent any more. -/
def orphans (d : Draft) : List Nat :=
  (List.range d.items.size).filter fun i => i != 0 && (d.parent? i).isNone

/-- The draft as a document. -/
def toDocument (d : Draft) : Document where
  nodes := (d.children 0).toList.filterMap (d.tree? d.items.size)
  cut := d.orphans.filterMap (d.tree? d.items.size)

end Draft

end PageHarvest.Html
