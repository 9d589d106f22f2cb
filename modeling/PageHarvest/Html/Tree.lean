/-!
# Documents as trees

A document is a list of nodes; an element has a name, attributes and children. The place of a node
is the list of its index among its siblings, the index of its parent, and so on up to the top: the
parent of `i :: up` is `up`, and the document itself is `[]`.

Elements are numbered as they were made while the document was read. The numbers follow the order of
the document but for elements that were moved, as out of a table or into a copy of a formatting
element. `placesBelow` lists elements in the order of the document, `places` lists all of them in
the order of their numbers.
-/

namespace PageHarvest.Html

/-- The vocabulary that an element's name belongs to. -/
inductive Vocabulary
  | html
  | svg
  | mathml
  deriving DecidableEq, Repr

/-- An attribute. The space is empty but for the attributes that markup borrows from other
vocabularies, such as `xlink`. -/
structure Attribute where
  space : String
  name : String
  value : String
  deriving DecidableEq, Repr

/-- A node of a document. A fragment holds the content of a template. -/
inductive Node
  | element (number : Nat) (vocabulary : Vocabulary) (name : String)
      (attributes : List Attribute) (children : List Node)
  | fragment (children : List Node)
  | text (content : String)
  | comment (content : String)

/-- An element apart from its place. -/
structure Element where
  number : Nat
  vocabulary : Vocabulary
  name : String
  attributes : List Attribute
  children : List Node

/-- The path to a node, innermost index first. -/
abbrev Place := List Nat

namespace Node

def element? : Node → Option Element
  | .element number v name attributes children => some ⟨number, v, name, attributes, children⟩
  | _ => none

def isElement (n : Node) : Bool := n.element?.isSome

def isText : Node → Bool
  | .text _ => true
  | _ => false

def children : Node → List Node
  | .element _ _ _ _ children | .fragment children => children
  | .text _ | .comment _ => []

mutual

/-- The elements in a node at the given place, with their places, in the order of the document. -/
def elements (here : Place) : Node → List (Place × Element)
  | .element number v name attributes children =>
    (here, ⟨number, v, name, attributes, children⟩) :: elementsIn here 0 children
  | .fragment children => elementsIn here 0 children
  | .text _ | .comment _ => []

/-- The elements in the children of a place, from the `i`-th child on. -/
def elementsIn (up : Place) (i : Nat) : List Node → List (Place × Element)
  | [] => []
  | n :: rest => elements (i :: up) n ++ elementsIn up (i + 1) rest

end

mutual

/-- The text of a node and all that it holds. -/
def textContent : Node → String
  | .element _ _ _ _ children | .fragment children => textOfAll children
  | .text content => content
  | .comment _ => ""

def textOfAll : List Node → String
  | [] => ""
  | n :: rest => textContent n ++ textOfAll rest

end

end Node

namespace Element

/-- The value of an attribute of no other vocabulary. -/
def attribute? (e : Element) (name : String) : Option String :=
  (e.attributes.find? fun a => a.space == "" && a.name == name).map Attribute.value

/-- The text of all that the element holds. -/
def text (e : Element) : String := Node.textOfAll e.children

end Element

/-- A parsed document. What was cut out of it while it was read stands apart from the tree, on top
of it; elements inside such a part are still found by queries of the whole document. -/
structure Document where
  nodes : List Node
  cut : List Node := []

namespace Document

/-- The children of the node at a place. -/
def childrenAt (d : Document) : Place → List Node
  | [] => d.nodes ++ d.cut
  | i :: up => ((d.childrenAt up)[i]?.map Node.children).getD []

/-- The node at a place; the document itself is no node. -/
def node? (d : Document) : Place → Option Node
  | [] => none
  | i :: up => (d.childrenAt up)[i]?

/-- The element at a place. -/
def element? (d : Document) (p : Place) : Option Element := (d.node? p).bind Node.element?

/-- The elements in the tree, in the order of the document. -/
def elements (d : Document) : List (Place × Element) := Node.elementsIn [] 0 d.nodes

/-- The elements in the parts that were cut out. -/
def cutElements (d : Document) : List (Place × Element) :=
  (d.cut.zipIdx d.nodes.length).flatMap fun n => Node.elementsIn [n.2] 0 n.1.children

/-- The elements that a query of the whole document looks at, in the order of their numbers. -/
def places (d : Document) : List Place :=
  ((d.elements ++ d.cutElements).mergeSort fun a b => a.2.number ≤ b.2.number).map Prod.fst

/-- The elements inside the element at a place, in the order of the document. -/
def placesBelow (d : Document) (p : Place) : List Place :=
  (Node.elementsIn p 0 (d.childrenAt p)).map Prod.fst

/-- Whether the element at a place is a child of the document. -/
def isTop (d : Document) : Place → Bool
  | [i] => i < d.nodes.length
  | _ => false

/-- The element that holds the element at a place. -/
def parent? (d : Document) : Place → Option Place
  | [] => none
  | _ :: up => if (d.element? up).isSome then some up else none

/-- The elements around a place, innermost first. -/
def ancestors (d : Document) : Place → List Place
  | [] => []
  | _ :: up => if (d.element? up).isSome then up :: d.ancestors up else []

/-- The nodes with the parent of the node at a place, itself included. -/
def siblings (d : Document) : Place → List Node
  | [] => []
  | [i] => if i < d.nodes.length then d.nodes else []
  | _ :: up => d.childrenAt up

/-- The elements in front of the element at a place, under the same parent, nearest first. -/
def siblingsBefore (d : Document) : Place → List Place
  | [] => []
  | i :: up =>
    ((((d.siblings (i :: up)).take i).zipIdx.filter fun n => n.1.isElement).map fun n =>
      n.2 :: up).reverse

/-- The elements after the element at a place, under the same parent, nearest first. -/
def siblingsAfter (d : Document) : Place → List Place
  | [] => []
  | i :: up =>
    (((d.siblings (i :: up)).drop (i + 1)).zipIdx (i + 1) |>.filter fun n => n.1.isElement).map
      fun n => n.2 :: up

end Document

end PageHarvest.Html
