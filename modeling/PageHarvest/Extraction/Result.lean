import PageHarvest.Data.Tree
import PageHarvest.Text.Search
import PageHarvest.Time.Instant

/-!
# Results

What an extraction found on one page: the data by rule name, and the errors of the rules that
failed.
-/

namespace PageHarvest

structure Result where
  schemaId : String
  url : String
  timestamp : Instant
  data : Entries Json
  errors : List String
  pageNumber : Nat

namespace Result

def hasErrors (r : Result) : Bool := !r.errors.isEmpty

/-- The errors of a rule and of the items that it lists. -/
def errorsFor (r : Result) (rule : String) : List String :=
  r.errors.filter fun e => Text.startsWith e (rule ++ ":") || Text.startsWith e (rule ++ "[")

/-- A line about the result. -/
def display (r : Result) : String :=
  r.schemaId ++ " page " ++ toString r.pageNumber ++ " (" ++ toString r.data.length ++
    " fields, " ++ toString r.errors.length ++ " errors)"

def toJson (r : Result) : Json :=
  .obj [("schemaId", .str r.schemaId), ("url", .str r.url),
    ("timestamp", .str r.timestamp.text), ("data", .obj r.data),
    ("errors", .arr (r.errors.map Json.str)), ("pageNumber", .int r.pageNumber)]

/-- The fields of a result, in order. -/
def fields : List String := ["schemaId", "url", "timestamp", "data", "errors", "pageNumber"]

def entries? : Tree → Option (Entries Json)
  | .record entries => do
    return Entries.ofList (← entries.mapM fun e => e.2.value?.map (e.1, ·))
  | _ => none

def ofTree? (t : Tree) : Option Result := do
  let es ← t.record? fields
  return {
    schemaId := ← Tree.required? Tree.text? "schemaId" es
    url := ← Tree.required? Tree.text? "url" es
    timestamp := ← Tree.required? (fun t => t.text?.bind Instant.read?) "timestamp" es
    data := ← Tree.required? entries? "data" es
    errors := ← Tree.required? (fun t => t.items?.bind (·.mapM Tree.text?)) "errors" es
    pageNumber := ← Tree.required? (Tree.nat? Json.max32) "pageNumber" es }

/-- The result that a value denotes. -/
def ofJson? (j : Json) : Option Result := ofTree? (.ofJson j)

end Result

end PageHarvest
