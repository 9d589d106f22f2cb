import PageHarvest.Data.Tree

/-!
# YAML values

A value is a scalar, a list or a record, and any value may be a key of a record. A scalar without
quotes is a plain word. In the tree of a value a record has the texts of its keys as they stand, and
plain words stay plain; in its settled tree every plain word is resolved, keys included. At most
`maxDepth` lists and records are read inside each other.
-/

namespace PageHarvest.Yaml

inductive Node
  | scalar (isPlain : Bool) (text : String)
  | list (items : List Node)
  | record (entries : List (Node × Node))

namespace Node

/-- The value where none is written. -/
def empty : Node := .scalar true ""

/-- The text of a key as it stands. -/
def keyText? : Node → Option String
  | .scalar _ text => some text
  | _ => none

mutual

/-- How many lists and records are inside each other. -/
def depth : Node → Nat
  | .scalar _ _ => 0
  | .list items => itemsDepth items + 1
  | .record entries => entriesDepth entries + 1

def itemsDepth : List Node → Nat
  | [] => 0
  | n :: rest => max n.depth (itemsDepth rest)

def entriesDepth : List (Node × Node) → Nat
  | [] => 0
  | (k, n) :: rest => max (max k.depth n.depth) (entriesDepth rest)

end

/-- How many lists and records may be inside each other. -/
def maxDepth : Nat := 128

mutual

/-- The value as a tree. What is nested deeper than `level` and a record with a key that is no text
are left unread. -/
def toTreeWithin (level : Nat) : Node → Tree
  | .scalar true text => .plain text
  | .scalar false text => .text text
  | .list items => if level = 0 then .unread else .list (itemsToTrees (level - 1) items)
  | .record entries =>
    if level = 0 then .unread
    else match entriesToTrees? (level - 1) entries with
      | some es => .record es
      | none => .unread

def itemsToTrees (level : Nat) : List Node → List Tree
  | [] => []
  | n :: rest => n.toTreeWithin level :: itemsToTrees level rest

def entriesToTrees? (level : Nat) : List (Node × Node) → Option (List (String × Tree))
  | [] => some []
  | (k, n) :: rest => do
    let key ← k.keyText?
    return (key, n.toTreeWithin level) :: (← entriesToTrees? level rest)

end

def toTree (n : Node) : Tree := n.toTreeWithin maxDepth

/-- The tree of a plain word that is resolved. A word whose value is null without being a word for
nothing is a number that is not finite. -/
def settledWord? (text : String) : Option Tree := do
  match ← Plain.resolve? text with
  | .null => return if Plain.isNull text then .null else .notFinite
  | j => return .ofJson j

mutual

def settled? : Node → Option Tree
  | .scalar true text => settledWord? text
  | .scalar false text => some (.text text)
  | .list items => (settledItems? items).map .list
  | .record entries => (settledEntries? entries).map .ofPairs

def settledItems? : List Node → Option (List Tree)
  | [] => some []
  | n :: rest => do
    let t ← n.settled?
    return t :: (← settledItems? rest)

def settledEntries? : List (Node × Node) → Option (List (Tree × Tree))
  | [] => some []
  | (k, n) :: rest => do
    let key ← k.settled?
    let t ← n.settled?
    return (key, t) :: (← settledEntries? rest)

end

/-- The value as a tree without plain words; repeated keys stay repeated. -/
def settle? (n : Node) : Option Tree := if n.depth ≤ maxDepth then n.settled? else none

end Node

end PageHarvest.Yaml
