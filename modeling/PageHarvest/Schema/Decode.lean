import PageHarvest.Data.Tree
import PageHarvest.Schema.Basic

/-!
# Reading schemas from trees

A rule has to have a name and a kind, a schema an id and a list of rules. Everything else has a
default.
-/

namespace PageHarvest

namespace Rule

/-- The fields of a rule, in order. -/
def fields : List String :=
  ["id", "name", "type", "selector", "xpath", "attribute", "regex", "transform", "multiple",
    "optional", "fallbackSelector", "children"]

/-- The rule of a record, its children given. -/
def ofEntries? (es : Entries Tree) (children : List Rule) : Option Rule := do
  let text (name : String) : Option (Option String) := Tree.optional? Tree.text? name es
  let transform (t : Tree) : Option Transform := t.choice?.bind Transform.ofName?
  return {
    id := ← Tree.orDefault? Tree.text? "" "id" es
    name := ← Tree.required? Tree.text? "name" es
    kind := ← Tree.required? (fun t => t.choice?.bind RuleKind.ofName?) "type" es
    selector := ← text "selector"
    xpath := ← text "xpath"
    attributeName := ← text "attribute"
    regex := ← text "regex"
    transform := ← Tree.optional? transform "transform" es
    multiple := ← Tree.orDefault? Tree.truth? false "multiple" es
    optional := ← Tree.orDefault? Tree.truth? false "optional" es
    fallbackSelector := ← text "fallbackSelector"
    children }

mutual

/-- The rule that a tree denotes. -/
def ofTree? : Tree → Option Rule
  | .record entries => do
    let es ← Tree.record? fields (.record entries)
    ofEntries? es (← childrenIn? entries)
  | .list items => do
    let es ← Tree.record? fields (.list items)
    ofEntries? es (← childrenAt? 11 items)
  | _ => none

/-- The children in the entries of a rule. -/
def childrenIn? : List (String × Tree) → Option (List Rule)
  | [] => some []
  | (key, t) :: rest => if key = "children" then listOfTree? t else childrenIn? rest

/-- The children in the items of a rule. -/
def childrenAt? : Nat → List Tree → Option (List Rule)
  | _, [] => some []
  | 0, t :: _ => listOfTree? t
  | n + 1, _ :: rest => childrenAt? n rest

def listOfTree? : Tree → Option (List Rule)
  | .list items => allOfTree? items
  | .plain "" => some []
  | _ => none

def allOfTree? : List Tree → Option (List Rule)
  | [] => some []
  | t :: rest => do
    let r ← ofTree? t
    return r :: (← allOfTree? rest)

end

end Rule

namespace Pagination

def ofTree? (t : Tree) : Option Pagination := do
  let es ← Tree.record? ["nextSelector", "maxPages", "waitBetweenPages"] t
  return {
    nextSelector := ← Tree.optional? Tree.text? "nextSelector" es
    maxPages := ← Tree.optional? (Tree.nat? Json.max32) "maxPages" es
    waitBetweenPages := ← Tree.optional? (Tree.nat? Json.max64) "waitBetweenPages" es }

end Pagination

namespace Schema

def ofTree? (t : Tree) : Option Schema := do
  let es ← Tree.record? ["id", "name", "rules", "pagination"] t
  return {
    id := ← Tree.required? Tree.text? "id" es
    name := ← Tree.optional? Tree.text? "name" es
    rules := ← Tree.required? Rule.listOfTree? "rules" es
    pagination := ← Tree.optional? Pagination.ofTree? "pagination" es }

end Schema

end PageHarvest
