import PageHarvest.Flow.Condition

/-!
# Steps

A workflow step has an id, a type and parameters that are carried along as they are. A control
step chooses between steps or repeats them. A workflow step whose type is that of a control step
can be read as one.
-/

namespace PageHarvest

/-- A step to run. -/
structure Step where
  id : String
  type : String
  params : Entries Json

namespace Step

def entries (s : Step) : Entries Json :=
  ("id", .str s.id) :: ("type", .str s.type) :: s.params

def toJson (s : Step) : Json := .obj s.entries

def listToJson (steps : List Step) : Json := .arr (steps.map toJson)

/-- Everything but `id` and `type` is a parameter. -/
def ofTree? : Tree → Option Step
  | .record entries =>
    if Tree.noneRepeated ["id", "type"] entries then do
      let id ← Tree.required? Tree.text? "id" entries
      let type ← Tree.required? Tree.text? "type" entries
      let params := entries.filter fun e => e.1 != "id" && e.1 != "type"
      return ⟨id, type, Entries.ofList (← params.mapM fun e => e.2.value?.map (e.1, ·))⟩
    else none
  | _ => none

def ofJson? (j : Json) : Option Step := ofTree? (.ofJson j)

def listOfTree? : Tree → Option (List Step)
  | .list items => items.mapM ofTree?
  | _ => none

end Step

/-- One case of a switch. -/
structure SwitchCase where
  value : Json
  steps : List Step

namespace SwitchCase

def toJson (c : SwitchCase) : Json :=
  .obj [("value", c.value), ("steps", Step.listToJson c.steps)]

def ofTree? (t : Tree) : Option SwitchCase := do
  let es ← t.record? ["value", "steps"]
  return {
    value := ← Tree.required? Tree.value? "value" es
    steps := ← Tree.orDefault? Step.listOfTree? [] "steps" es }

def listOfTree? : Tree → Option (List SwitchCase)
  | .list items => items.mapM ofTree?
  | _ => none

end SwitchCase

/-- A step that decides which steps run, and how often. -/
inductive Control
  | branch (condition : Condition) (thenSteps elseSteps : List Step)
  | switch (value : String) (cases : List SwitchCase) (default : List Step)
  | repeatWhile (condition : Condition) (body : List Step) (cap : Option Nat)
  | countUp (loopVar : Option String) (start stop step : Option Json) (body : List Step)
      (cap : Option Nat)
  | forEach (loopVar : Option String) (items : Json) (body : List Step) (cap : Option Nat)

namespace Control

def kind : Control → String
  | branch .. => "if"
  | switch .. => "switch"
  | repeatWhile .. => "while"
  | countUp .. => "for"
  | forEach .. => "forEach"

def isKind (type : String) : Bool := ["if", "switch", "while", "for", "forEach"].contains type

/-- The written form, with every field of the kind. -/
def toJson (c : Control) : Json :=
  let steps := Step.listToJson
  let optional := Json.ofOption (fun v : Json => v)
  let name := Json.ofOption Json.str
  let number := Json.ofOption fun n : Nat => Json.int n
  .obj (("type", .str c.kind) :: match c with
    | branch condition thenSteps elseSteps =>
      [("condition", condition.toJson), ("thenSteps", steps thenSteps),
        ("elseSteps", steps elseSteps)]
    | switch value cases default =>
      [("switchValue", .str value), ("cases", .arr (cases.map SwitchCase.toJson)),
        ("defaultCase", steps default)]
    | repeatWhile condition body cap =>
      [("condition", condition.toJson), ("thenSteps", steps body), ("maxIterations", number cap)]
    | countUp loopVar start stop step body cap =>
      [("loopVariable", name loopVar), ("loopStart", optional start), ("loopEnd", optional stop),
        ("loopStep", optional step), ("thenSteps", steps body), ("maxIterations", number cap)]
    | forEach loopVar items body cap =>
      [("loopVariable", name loopVar), ("loopItems", items), ("thenSteps", steps body),
        ("maxIterations", number cap)])

/-- The fields of each kind behind `type`, in order. -/
def fieldsOf? : String → Option (List String)
  | "if" => some ["condition", "thenSteps", "elseSteps"]
  | "switch" => some ["switchValue", "cases", "defaultCase"]
  | "while" => some ["condition", "thenSteps", "maxIterations"]
  | "for" =>
    some ["loopVariable", "loopStart", "loopEnd", "loopStep", "thenSteps", "maxIterations"]
  | "forEach" => some ["loopVariable", "loopItems", "thenSteps", "maxIterations"]
  | _ => none

/-- The control step that a tree denotes. -/
def ofTree? (t : Tree) : Option Control := do
  let kind ← (t.tag? "type").bind Tree.text?
  let es ← t.taggedRecord? "type" (← fieldsOf? kind)
  let steps := Tree.orDefault? Step.listOfTree? []
  let cap := Tree.optional? (Tree.nat? Json.max64) "maxIterations" es
  let condition := Tree.required? (Condition.ofTreeIn? true) "condition" es
  let loopVar := Tree.optional? Tree.text? "loopVariable" es
  match kind with
  | "if" =>
    return .branch (← condition) (← steps "thenSteps" es) (← steps "elseSteps" es)
  | "switch" =>
    return .switch (← Tree.required? Tree.text? "switchValue" es)
      (← Tree.orDefault? SwitchCase.listOfTree? [] "cases" es) (← steps "defaultCase" es)
  | "while" =>
    return .repeatWhile (← condition) (← steps "thenSteps" es) (← cap)
  | "for" =>
    return .countUp (← loopVar) (← Tree.optional? Tree.value? "loopStart" es)
      (← Tree.optional? Tree.value? "loopEnd" es) (← Tree.optional? Tree.value? "loopStep" es)
      (← steps "thenSteps" es) (← cap)
  | "forEach" =>
    return .forEach (← loopVar) (← Tree.required? Tree.value? "loopItems" es)
      (← steps "thenSteps" es) (← cap)
  | _ => none

/-- A workflow step read as a control step, if its type is one and its fields fit. -/
def ofStep? (s : Step) : Option Control :=
  if isKind s.type then ofTree? (.ofJson s.toJson) else none

/-- The control step that a value denotes. -/
def ofJson? (j : Json) : Option Control := ofTree? (.ofJson j)

end Control

end PageHarvest
